import LanguageHost.Host.Changes

/-!
# Adapters

An adapter keeps the servers of one definition in step with a store and a workspace. Starting it
subscribes its two listeners, unless it runs already. Stopping removes every registration, the last
one first, even when some removals fail; the first failure is handed on at the end.
-/

namespace LanguageHost

/-- The adapter has registrations to undo. -/
def Adapter.isRunning (a : Adapter) : Bool :=
  !a.registrations.isEmpty

namespace Host

variable {γ : Type}

/-- Keeps a registration of an adapter. -/
def keepRegistration (n : Nat) (registration : Registration) : Act γ Unit :=
  modify fun h =>
    let adapter := h.adapter n
    h.setAdapter n { adapter with registrations := adapter.registrations ++ [registration] }

/-- Notes something about the server of an adapter, which therefore has to have a definition. -/
def noteServer (a : Adapter) (message : Text) : Act γ Unit := do
  match (← get).definition? a.definition with
  | none => throw (.noMember "NoneType" "id")
  | some definition => Act.log "yaml.adapter" .info message [("server", definition.id)]

/-- Starts an adapter. -/
def startAdapter (n : Nat) : Act γ Unit := do
  let a := (← get).adapter n
  if !a.isRunning then
    let settings ← Act.allocate <| addListener <|
      .settings a.definition a.store schemaKey a.accessFault
    keepRegistration n (← subscribePreference a.store settings)
    let folders ← Act.allocate <| addListener <| .folders a.definition a.accessFault
    keepRegistration n (← subscribeResources a.workspace postChange folders)
    noteServer a "Listeners registered"

/-- Undoes registrations one after another; the result is the first failure. -/
def undoAll (first : Option Fault) : List Registration → Act γ (Option Fault)
  | [] => return first
  | registration :: rest => do
    let failure ← tryCatch
      (do
        unregisterListener registration
        return none)
      (fun fault => do
        Act.log "yaml.adapter" .error "Failed to remove listener" [("error", .str fault.message)]
        return some fault)
    undoAll (first.or failure) rest

/-- Stops an adapter. -/
def stopAdapter (n : Nat) : Act γ Unit := do
  let a := (← get).adapter n
  modify (setAdapter n { a with registrations := [] })
  let failure ← undoAll none a.registrations.reverse
  noteServer a "Listeners removed"
  match failure with
  | none => pure ()
  | some fault => throw fault

end Host

end LanguageHost
