import LanguageHost.FileSystem.Step
import LanguageHost.Host.Plugin

/-!
# Operating a plugin

Commands to a plugin that runs real servers: preferences and projects are changed, servers are
launched and stopped, and the state of the server launched last is looked at.
-/

namespace LanguageHost.Operation

/-- A command to the plugin. -/
inductive Command where
  | file (step : FileStep)
  | set (key value : Text)
  | add (directories : List String)
  | delete (name : String)
  | launch (root : Option String)
  | start (timeout : Json) (root : Option String) (commands : Option (List String))
    (folder : Option String)
  | stop
  | pluginStop
  | shutdownAll
  | state

/-- A host with one plugin, and the session in hand. -/
structure Site where
  host : Host Unit
  current : Option Nat

/-- An action on a site that may fail. -/
abbrev SiteAct := ExceptT Fault (StateM Site)

namespace Site

/-- An action on the host. -/
def onHost {α : Type} (act : Act Unit α) : SiteAct α := fun s =>
  let (result, host) := act s.host
  (result, { s with host })

/-- No recorder reacts to anything. -/
def quietly (_ : List Unit) : Act Unit Unit :=
  pure ()

/-- The number of the plugin. -/
def plugin : Nat := 0

/-- The state of the session in hand; without one only the number of registered sessions. -/
def showState (s : Site) : Json :=
  let active := ("active", Json.int s.host.active.length)
  match s.current with
  | none => Json.object [active]
  | some n =>
    let session := s.host.session n
    Json.object
      [("capabilities", session.capabilities),
        ("diagnostics", .obj (session.diagnostics.map fun d => (d.1.shown, d.2))),
        ("alive", .bool session.provider.isAlive), ("connected", .bool session.endpoint.isSome),
        ("process", .bool session.provider.process.isSome), active]

/-- Takes a command; the result is what it shows. -/
def perform (command : Command) : SiteAct Json := do
  let p := (← get).host.plugin plugin
  match command with
  | .file step => onHost (Act.onPlatform step.perform)
  | .set key value =>
    onHost (Host.setPreference quietly p.store key value)
    return .null
  | .add directories =>
    onHost (Host.addProjects quietly p.workspace directories)
    return .null
  | .delete name =>
    let _ ← onHost (Host.deleteProject quietly p.workspace name)
    return .null
  | .launch root =>
    let n ← onHost (Host.launchSession p.definition root)
    modify fun s => { s with current := some n }
    return .ofString ((← get).host.describeSession n)
  | .start timeout root commands folder =>
    let (connection, hook) ←
      match commands with
      | some words => pure (Connection.make words folder, Hook.none)
      | none =>
        let source := ((← get).host.definition p.definition).source
        onHost (Host.provide source)
    let n ← onHost <| Act.allocate <| Host.addSession <|
      Host.newSession p.definition connection hook root
    modify fun s => { s with current := some n }
    onHost (Session.start .direct n timeout)
    return .null
  | .stop =>
    if let some n := (← get).current then onHost (Session.stop .direct n)
    return .null
  | .pluginStop =>
    onHost (Host.stopPlugin plugin)
    return .null
  | .shutdownAll =>
    onHost Session.shutdownAll
    return .null
  | .state => return showState (← get)

end Site

/-- A host with one plugin that has been started, over a store at a path. -/
def startedHost (platform : Platform) (store : Path) : Host Unit :=
  let host : Host Unit :=
    { Host.empty platform store with
      stores := [.empty store], workspaces := [.empty], registries := [[]] }
  let opening : Act Unit Unit := do
    let n ← Host.createPlugin 0 0 0
    Host.startPlugin n
  (opening host).2

end LanguageHost.Operation
