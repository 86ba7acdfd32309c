import LanguageHost.Host.Listeners
import LanguageHost.Preferences.Document

/-!
# Changes

Every change of a preference or of the projects is made first and announced then, to the listeners
that are subscribed at that moment. `react` says how the actions of recorders are taken, which may
make further changes while one is being announced.
-/

namespace LanguageHost.Host

variable {γ : Type}

/-- Publishes an event to subscribers; a listener that fails is noted under the bus's name. -/
def publish (react : List γ → Act γ Unit) (service topic : String) (event : Event)
    (subscribers : List Nat) : Act γ Unit :=
  Bus.deliver (Listener.receiveAt react event)
    (fun fault h => { h with platform := Bus.reportFailure service topic fault h.platform })
    subscribers

/-! ## Preferences -/

/-- Sets a preference, and announces the change if it is one. -/
def setPreference (react : List γ → Act γ Unit) (n : Nat) (key value : Text) : Act γ Unit := do
  let store := (← get).store n
  modify (setStore n (store.write key value))
  match store.changeOf key value with
  | none => pure ()
  | some change =>
    publish react "preferences.bus" preferenceTopic (.preference change)
      (((← get).store n).bus.subscribers preferenceTopic)

/-- Sets a preference to its default. -/
def resetPreference (react : List γ → Act γ Unit) (n : Nat) (key : Text) : Act γ Unit := do
  setPreference react n key (((← get).store n).getDefault key)

/-- Replaces the stored values by those of the store's file, if there is one. -/
def loadPreferences (n : Nat) : Act γ Unit := do
  let store := (← get).store n
  match ← Act.onPlatform (Preferences.load store.path) with
  | none => pure ()
  | some values => modify (setStore n { store with values })

/-- Writes the stored values to the store's file. -/
def savePreferences (n : Nat) : Act γ Unit := do
  let store := (← get).store n
  Act.onPlatform (Preferences.save store.path store.values)

/-- Subscribes a listener to the changes of a store. -/
def subscribePreference (n listener : Nat) : Act γ Registration := do
  modify fun h =>
    let store := h.store n
    h.setStore n { store with bus := store.bus.subscribe preferenceTopic listener }
  return .preference n ⟨preferenceTopic, listener⟩

/-! ## Projects -/

/-- Announces a delta below one of the root. -/
def announce (react : List γ → Act γ Unit) (n : Nat) (delta : Delta) (rootFlags : Int) :
    Act γ Unit := do
  let topic := resourceTopic postChange
  publish react "workspace.bus" topic (.resource postChange (Delta.ofRoot rootFlags delta))
    (((← get).workspace n).bus.subscribers topic)

/-- Adds a project at a path. -/
def createProject (react : List γ → Act γ Unit) (n : Nat) (name : String) (location : Path)
    (hidden isOpen : Bool) : Act γ Resource := do
  let h ← get
  let project : Project := ⟨location.canonical h.platform.cwd, hidden, isOpen⟩
  let (delta, workspace) ← Act.ofProblem ((h.workspace n).create name project)
  modify (setWorkspace n workspace)
  Act.log "workspace" .info "Project added"
    [("project", name), ("location", project.location.text)]
  announce react n delta 0
  return delta.resource

/-- Removes a project. -/
def deleteProject (react : List γ → Act γ Unit) (n : Nat) (name : String) : Act γ Resource := do
  let (delta, workspace) ← Act.ofProblem (((← get).workspace n).delete name)
  modify (setWorkspace n workspace)
  Act.log "workspace" .info "Project removed" [("project", name)]
  announce react n delta 0
  return delta.resource

/-- Opens or closes a project. -/
def setProjectOpen (react : List γ → Act γ Unit) (n : Nat) (name : String) (isOpen : Bool) :
    Act γ Unit := do
  match ← Act.ofProblem (((← get).workspace n).setOpen name isOpen) with
  | none => pure ()
  | some (delta, workspace) =>
    modify (setWorkspace n workspace)
    announce react n delta 0

/-- Announces a change of annotations. -/
def touchMarkers (react : List γ → Act γ Unit) (n : Nat) (r : Resource) : Act γ Unit :=
  announce react n (.leaf r changedKind markersFlag) markersFlag

/-- Subscribes a listener to the event types in a mask. -/
def subscribeResources (n : Nat) (mask : Int) (listener : Nat) : Act γ Registration := do
  modify fun h => h.setWorkspace n ((h.workspace n).subscribe mask listener)
  return .resource n (Workspace.maskSubscriptions mask listener)

/-- Undoes a registration. -/
def unregisterListener : Registration → Act γ Unit
  | .preference n subscription =>
    modify fun h =>
      let store := h.store n
      h.setStore n { store with bus := store.bus.unsubscribe subscription }
  | .resource n subscriptions =>
    modify fun h =>
      let workspace := h.workspace n
      h.setWorkspace n
        { workspace with bus := subscriptions.foldl Bus.unsubscribe workspace.bus }
  | .broken message => throw (.raised message)

end LanguageHost.Host
