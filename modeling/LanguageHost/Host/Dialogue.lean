import LanguageHost.FileSystem.Step
import LanguageHost.Host.Plugin

/-!
# A dialogue with one session

Commands to a single session whose peer answers from a script: messages are handed to it, requests
are sent, and its state is looked at.
-/

namespace LanguageHost.Dialogue

/-- A command to the session. -/
inductive Command where
  | file (step : FileStep)
  | connect
  | receive (message : Json)
  | configuration (settings : Json)
  | folders (added removed : List Json)
  | call (method params : Json)
  | request (method : String) (params : Json)
  | greet (timeout : Json)
  | stop
  | state
  | frames (bytes : List UInt8)

/-- A host without recorders. -/
abbrev DialogueHost := Host Unit

/-- An action on a host without recorders. -/
abbrev DialogueAct := Act Unit

/-- The number of the session. -/
def subject : Nat := 0

/-- A diagnostics table as an object. Keys that are shown alike count as one. -/
def showDiagnostics (diagnostics : List (Json × Json)) : Json :=
  .obj (mergeMembers (diagnostics.map fun d => (d.1.shown, d.2)))

/-- The state of the session. -/
def showState (h : DialogueHost) : Json :=
  let s := h.session subject
  Json.object
    [("capabilities", s.capabilities), ("diagnostics", showDiagnostics s.diagnostics),
      ("root_uri", Json.ofString? (s.rootUri h.platform.cwd)),
      ("str", .ofString (h.describeSession subject)), ("connected", .bool s.endpoint.isSome),
      ("active", .bool (h.active.contains subject))]

/-- Takes a command; the result is what it shows. -/
def perform : Command → DialogueAct Json
  | .file step => Act.onPlatform step.perform
  | .connect => do
    Session.connect subject
    return .null
  | .receive message => do
    Wire.consume Wire.opened subject message
    return .null
  | .configuration settings => do
    let settings ← Act.ofExcept (Settings.checked settings)
    Wire.notify Wire.opened subject (.configuration settings)
    return .null
  | .folders added removed => do
    let added ← Act.ofExcept (added.mapM Folders.address)
    let removed ← Act.ofExcept (removed.mapM Folders.address)
    Wire.notify Wire.opened subject (.folders (Folders.changeParams added removed))
    return .null
  | .call method params => do
    Wire.call subject method params
    return .null
  | .request method params => do
    let id ← Session.request Wire.opened subject method params
    return (← Session.answer? subject id).getD (.ofString "pending")
  | .greet timeout => do
    Session.greet .direct subject timeout
    return .null
  | .stop => do
    Session.stop .direct subject
    return .null
  | .state => return showState (← get)
  | .frames bytes => do
    Wire.consumeFrames subject (bytes.length + 1) none bytes
    return .null

/-- The providers that a dialogue may have. -/
inductive ProviderKind where
  | plain
  | yaml
  | failing
  deriving DecidableEq, Repr

/-- The provider of a kind and its hook. -/
def provider (cwd : Path) : ProviderKind → Connection × Hook
  | .plain => (.make ["server"] none, .none)
  | .failing => (.make ["server"] none, .fail "hook failed")
  | .yaml =>
    ({ YamlProvider.idle with
        commands := ["/x", "/x", "--stdio"], folder := some cwd.text }, .seed 0 0)

/-- The host with its one session. -/
def initialHost (platform : Platform) (preferencesPath : Path) (id : String)
    (kind : ProviderKind) (root : Option String) (script : List (Text × List Json)) (schema : Text)
    (isConnected : Bool) : DialogueHost :=
  let (connection, hook) := provider platform.cwd kind
  let store := ((PreferenceStore.empty preferencesPath).withYamlDefaults).write schemaKey schema
  let session : Session :=
    { (default : Session) with
      definition := some 0, provider := connection, hook, root, peer := .script script
      endpoint := if isConnected then some ⟨[], []⟩ else none }
  { Host.empty platform preferencesPath with
    stores := [store]
    workspaces := [.empty]
    definitions := [⟨id, "", [], .labelled ""⟩]
    sessions := [session] }

end LanguageHost.Dialogue
