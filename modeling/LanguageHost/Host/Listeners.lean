import LanguageHost.Host.Session

/-!
# Listeners

Two listeners keep servers informed. One sends fresh settings to the sessions of its definition
when its preference changes, the other announces projects that were added and removed. Neither ever
fails: what goes wrong is noted, and a session that cannot be told does not keep the news from the
others. Annotation changes are passed over, and so is a change of no project.

A third kind keeps events under its name and then takes actions; `react` says how these are taken.
-/

namespace LanguageHost

/-- What listeners are told. -/
inductive Event where
  | preference (change : PreferenceChange)
  | resource (type : Int) (delta : Delta)

namespace Event

/-- A text or null. -/
def optionalText : Option Text → Json
  | some t => .str t
  | none => .null

mutual

/-- A delta with everything below it. -/
def deltaJson : Delta → Json
  | .node r kind flags _ children =>
    .arr [.ofString r.name, .ofString r.type.name, .int kind, .int flags,
      .arr (deltasJson children)]

/-- Several deltas. -/
def deltasJson : List Delta → List Json
  | [] => []
  | delta :: rest => deltaJson delta :: deltasJson rest

end

/-- An event as recorders keep it. -/
def toJson : Event → Json
  | preference change => .arr [.str change.key, optionalText change.old, optionalText change.new]
  | resource type delta => .arr [.int type, deltaJson delta]

end Event

namespace Listener

variable {γ : Type}

/-- The sessions of a definition, unless they cannot be asked for. -/
def recipients (definition : Option Nat) (accessFault : Option String) : Act γ (List Nat) := do
  match accessFault with
  | some words => throw (.raised words)
  | none => return (← get).matching definition

/-- Tells sessions one after another; a failure is noted with the given words. -/
def tellEach (notice : Notice) (words : Text) : List Nat → Act γ Unit
  | [] => pure ()
  | n :: rest => do
    Act.guarded (Wire.notify Wire.opened n notice) fun fault => do
      let name := (← get).describeSession n
      Act.log "yaml.listeners" .error words [("session", name), ("error", .str fault.message)]
    tellEach notice words rest

/-- Sends settings when a preference with the given key changed. -/
def forwardPreference (definition : Option Nat) (store : Nat) (key : Text)
    (accessFault : Option String) (change : PreferenceChange) : Act γ Unit := do
  if change.key = key then
    let settings ← Wire.buildSettings store
    let sessions ← recipients definition accessFault
    tellEach (.configuration settings) "Failed to send configuration" sessions

/-- Announces the projects that a delta adds and removes. -/
def forwardProjects (definition : Option Nat) (accessFault : Option String) (delta : Delta) :
    Act γ Unit := do
  if delta.flags = markersFlag then return
  match delta.changedProjects with
  | .error (.problem problem) =>
    if problem.kind = .workspace then
      Act.log "yaml.listeners" .error problem.message (← Act.ofExcept problem.members)
    else throw (.problem problem)
  | .error fault => throw fault
  | .ok changes =>
    if changes.added.isEmpty && changes.removed.isEmpty then return
    let added ← Act.ofExcept (Folders.addresses changes.added)
    let removed ← Act.ofExcept (Folders.addresses changes.removed)
    let sessions ← recipients definition accessFault
    tellEach (.folders (Folders.changeParams added removed)) "Failed to send workspace folders"
      sessions

/-- Hands an event to a listener. -/
def receive (react : List γ → Act γ Unit) (event : Event) : Listener γ → Act γ Unit
  | .recorder name reaction => do
    modify fun h => { h with recorded := h.recorded ++ [⟨name, event.toJson⟩] }
    react reaction
  | .settings definition store key accessFault =>
    match event with
    | .preference change =>
      Act.guarded (forwardPreference definition store key accessFault change) fun fault =>
        Act.log "yaml.listeners" .error "Preference change handling failed"
          [("property", .str change.key), ("error", .str fault.message)]
    | .resource _ _ => pure ()
  | .folders definition accessFault =>
    match event with
    | .resource _ delta =>
      Act.guarded (forwardProjects definition accessFault delta) fun fault =>
        Act.log "yaml.listeners" .error "Resource change handling failed"
          [("error", .str fault.message)]
    | .preference _ => pure ()

/-- Hands an event to the listener with a number. -/
def receiveAt (react : List γ → Act γ Unit) (event : Event) (n : Nat) : Act γ Unit := do
  match (← get).listeners[n]? with
  | some listener => receive react event listener
  | none => pure ()

end Listener

end LanguageHost
