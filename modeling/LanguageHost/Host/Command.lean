import LanguageHost.FileSystem.Step
import LanguageHost.Host.Plugin
import LanguageHost.Report

/-!
# Commands

Commands drive a host from outside: they change preferences and projects, make sessions, adapters
and plugins, and ask for what there is. Whatever is made is known to later commands by a name.

A command may also be taken by a recorder when it is told of an event; such reactions may cause
events of their own, three inside one another at most.
-/

namespace LanguageHost

/-- A command. -/
inductive Command where
  | file (step : FileStep)
  | fail (message : String)
  -- preferences
  | defaults
  | setDefault (key value : Text)
  | get (key : Text)
  | getDefault (key : Text)
  | contains (key : Text)
  | set (key value : Text)
  | reset (key : Text)
  | load
  | save
  | block
  | settings
  | listen (name : String) (reaction : List Command)
  | unlisten (name : String)
  | changed (change : PreferenceChange) (watched : Text) (definition : String)
    (accessFault : Option String)
  -- projects
  | create (name location : String) (hidden isOpen : Bool)
  | delete (name : String)
  | setOpen (name : String) (isOpen : Bool)
  | touch (path : List String)
  | projects
  | resource (path : List String)
  | members (path : List String)
  | walk (path : List String) (pruned : List String) (includeHidden : Bool)
  | folders
  | toFolders (paths : List (List String))
  | listenResources (name : String) (mask : Int) (reaction : List Command)
  | delta (delta : Delta) (type : Int) (definition : String) (accessFault : Option String)
  -- sessions
  | session (name definition : String) (failing : List String) (stopFault : Option String)
  | register (name : String)
  | unregister (name : String)
  | active
  | matching (definition : String)
  | shutdownAll
  | message (name : String) (message : Json)
  -- adapters
  | adapter (name definition : String) (accessFault : Option String)
  | start (name : String)
  | running (name : String)
  | stop (name : String) (broken : List String)
  | within (name : String) (steps : List Command) (failure : Option String)
  -- plugins
  | plugin (name : String) (fresh : Bool)
  | pluginStart (name : String)
  | pluginRunning (name : String)
  | pluginStop (name : String)
  | pluginAdd (name : String) (directories : List String)
  | pluginProvider (name : String)
  | pluginLaunch (name : String) (root : Option String)
  | pluginWithin (name : String) (steps : List Command) (failure : Option String)

/-- A host that takes commands. -/
abbrev CommandHost := Host Command

namespace Command

/-- An action on a host that takes commands. -/
abbrev CommandAct := Act Command

/-- How a command's reactions are taken. -/
abbrev React := List Command → CommandAct Unit

/-- The number behind a name. -/
def lookUp {α : Type} (name : String) (table : List (String × α)) : CommandAct α :=
  match findMember? name table with
  | some x => pure x
  | none => throw (.missingKey name)

/-- The start of the name of a plugin's definition. -/
def pluginMark : String := "plugin:"

/-- The definitions that have a name from the start, by number; one name stands for none. -/
def namedDefinitions : List (String × Option Nat) :=
  [("yaml", some 0), ("copy", some 1), ("other", some 2), ("none", none)]

/-- The number of a definition by its name. -/
def definitionOf (name : String) : CommandAct (Option Nat) := do
  if pluginMark.isPrefixOf name then
    let h ← getThe CommandHost
    let n ← lookUp (String.ofList (name.toList.drop pluginMark.length)) h.names.plugins
    return some (h.plugin n).definition
  lookUp name namedDefinitions

/-- The session with a name. -/
def sessionOf (name : String) : CommandAct Nat := do
  lookUp name (← getThe CommandHost).names.sessions

/-- The adapter with a name. -/
def adapterOf (name : String) : CommandAct Nat := do
  lookUp name (← getThe CommandHost).names.adapters

/-- The plugin with a name. -/
def pluginOf (name : String) : CommandAct Nat := do
  lookUp name (← getThe CommandHost).names.plugins

/-- Changes the names. -/
def modifyNames (change : NameTable → NameTable) : CommandAct Unit :=
  modify fun h => { h with names := change h.names }

/-- A resource as it is shown. -/
def showResource (r : Resource) : Json :=
  .arr [.ofString r.name, .ofString r.type.name, Json.ofString? (r.location.map Path.text)]

/-- A resource as a walk shows it. -/
def showVisited (r : Resource) : Json :=
  .arr [.ofString r.name, .ofString r.type.name]

/-- The word in front of a resource's description. -/
def resourceWord (r : Resource) : String :=
  match r.type with
  | .project => "Project"
  | .root => "WorkspaceRoot"
  | _ => "Resource"

/-- What a resource of the workspace holds. -/
def membersOf (r : Resource) : CommandAct (List Resource) := do
  let h ← getThe CommandHost
  match r.type with
  | .root => return (h.workspace 0).members
  | _ => Act.ofExcept (r.membersAt h.platform.files)

/-- Goes on from a resource by the names of what it holds. -/
def descend (r : Resource) : List String → CommandAct Resource
  | [] => pure r
  | name :: rest => do
    match (← membersOf r).find? fun m => m.name = name with
    | some member => descend member rest
    | none => throw (.missingKey name)

/-- The resource at a path of names; the empty path is the root. -/
def resourceAt (path : List String) : CommandAct Resource :=
  descend .root path

/-- The block of a store with its schemas as pairs. -/
def showBlock (store : PreferenceStore) : Except Problem Json :=
  match Settings.schemasOf (store.get schemaKey) with
  | .error problem => .error problem
  | .ok none => .ok (Json.object [])
  | .ok (some schemas) =>
    .ok <| Json.object
      [("schemas", .arr (schemas.map fun entry => .arr [.str entry.1, entry.2.toJson])),
        ("validate", .bool true), ("completion", .bool true), ("hover", .bool true)]

/-- Everything that is known about a resource. -/
def describeResource (r : Resource) : Json :=
  Json.object
    [("show", showResource r), ("repr", .ofString (r.describe (resourceWord r))),
      ("uri", Json.ofString? r.uri?), ("accessible", .bool r.accessible),
      ("hidden", .bool r.hidden), ("parent", Json.ofString? r.parent),
      ("folder", .bool r.isWorkspaceFolder)]

/-- Walks from a resource; the visitor says no to the pruned names. -/
def walkFrom (r : Resource) (pruned : List String) (includeHidden : Bool) : CommandAct Json := do
  let h ← getThe CommandHost
  let visitor (r : Resource) : Bool := !pruned.contains r.name
  let walk :=
    match r.type with
    | .root => (h.workspace 0).walk h.platform.files visitor includeHidden
    | _ => r.walkAt h.platform.files visitor includeHidden
  let visited := Json.arr (walk.visited.map showVisited)
  match walk.fault with
  | none => return .arr [visited]
  | some (.problem p) => return .arr [visited, Json.object (Fault.problem p).report]
  | some fault => throw fault

/-- Folder addresses as a message shows them. -/
def showFolders (uris : List String) : Json :=
  Folders.toJson uris

/-- The definition, label, languages and sharers of a plugin. -/
def showPlugin (n : Nat) : CommandAct Json := do
  let h ← getThe CommandHost
  let definition := (h.plugin n).definition
  let d := h.definition definition
  let sharers := h.names.plugins.filter fun entry => (h.plugin entry.2).definition = definition
  return .arr [.ofString d.id, .ofString d.label, Json.ofStrings d.languages,
    Json.ofStrings (sharers.map (·.1))]

/-- Makes a plugin, over a store and a workspace of its own or over the first ones. -/
def createPlugin (fresh : Bool) : CommandAct Nat := do
  if fresh then
    let path := (← getThe CommandHost).preferencesPath
    let store ← Act.allocate (Host.addStore (.empty path))
    let workspace ← Act.allocate (Host.addWorkspace .empty)
    Host.createPlugin store workspace 0
  else Host.createPlugin 0 0 0

/-- Ends what was begun around some steps: the end is reached however the steps went, and a
failure of the end comes before one of the steps. -/
def finishing {α : Type} (steps : CommandAct α) (ending : CommandAct Unit) : CommandAct α := do
  let result ← tryCatch (Except.ok <$> steps) (fun fault => pure (.error fault))
  ending
  Act.ofExcept result

/-- Fails with words, if there are any. -/
def failWith : Option String → CommandAct Unit
  | some words => throw (.raised words)
  | none => pure ()

/-- What a command shows when it shows nothing. -/
def silently (action : CommandAct Unit) : CommandAct Json := do
  action
  return .null

/-- Takes a command that holds no further ones. -/
def performSimple (react : React) : Command → CommandAct Json
  | .file step => Act.onPlatform step.perform
  | .fail words => throw (.raised words)
  | .defaults => silently <| modify fun h => h.setStore 0 (h.store 0).withYamlDefaults
  | .setDefault key value => silently <| modify fun h =>
    h.setStore 0 ((h.store 0).setDefault key value)
  | .get key => return .str (((← getThe CommandHost).store 0).get key)
  | .getDefault key => return .str (((← getThe CommandHost).store 0).getDefault key)
  | .contains key => return .bool (((← getThe CommandHost).store 0).contains key)
  | .set key value => silently <| Host.setPreference react 0 key value
  | .reset key => silently <| Host.resetPreference react 0 key
  | .load => silently <| Host.loadPreferences 0
  | .save => silently <| Host.savePreferences 0
  | .block => do Act.ofProblem (showBlock ((← getThe CommandHost).store 0))
  | .settings => Wire.buildSettings 0
  | .listen name reaction => silently do
    let n ← Act.allocate (Host.addListener (.recorder name reaction))
    let registration ← Host.subscribePreference 0 n
    modifyNames fun t => { t with subscriptions := putMember name registration t.subscriptions }
  | .unlisten name => silently do
    Host.unregisterListener (← lookUp name (← getThe CommandHost).names.subscriptions)
  | .changed change watched definition accessFault => silently do
    let n ← definitionOf definition
    Listener.receive react (.preference change) (.settings n 0 watched accessFault)
  | .create name location hidden isOpen => do
    return showResource (← Host.createProject react 0 name (Path.ofString location) hidden isOpen)
  | .delete name => do
    return showResource (← Host.deleteProject react 0 name)
  | .setOpen name isOpen => silently <| Host.setProjectOpen react 0 name isOpen
  | .touch path => silently do
    Host.touchMarkers react 0 (← resourceAt path)
  | .projects => do
    let all := ((← getThe CommandHost).workspace 0).sortedProjects
    return .arr (all.map fun (name, p) => .arr [.ofString name, .bool p.isOpen, .bool p.hidden])
  | .resource path => do return describeResource (← resourceAt path)
  | .members path => do
    return .arr ((← membersOf (← resourceAt path)).map showResource)
  | .walk path pruned includeHidden => do
    walkFrom (← resourceAt path) pruned includeHidden
  | .folders => do
    let uris ← Act.onPlatform (Folders.initial ((← getThe CommandHost).workspace 0))
    return Json.ofStrings uris
  | .toFolders paths => do
    let resources ← paths.mapM resourceAt
    return showFolders (← Act.ofExcept (Folders.addresses resources))
  | .listenResources name mask reaction => silently do
    let n ← Act.allocate (Host.addListener (.recorder name reaction))
    let registration ← Host.subscribeResources 0 mask n
    modifyNames fun t => { t with subscriptions := putMember name registration t.subscriptions }
  | .delta tree type definition accessFault => silently do
    let n ← definitionOf definition
    Listener.receive react (.resource type tree) (.folders n accessFault)
  | .session name definition failing stopFault => silently do
    let definition ← definitionOf definition
    let n ← Act.allocate <| Host.addSession
      { (default : Session) with title := name, definition, peer := .standIn failing stopFault }
    modify (Host.register n)
    modifyNames fun t => { t with sessions := putMember name n t.sessions }
  | .register name => silently do
    let n ← sessionOf name
    modify (Host.register n)
  | .unregister name => silently do
    let n ← sessionOf name
    modify (Host.unregister n)
  | .active => do
    let h ← getThe CommandHost
    return Json.ofStrings (h.active.map fun n => (h.session n).title)
  | .matching definition => do
    let n ← definitionOf definition
    let h ← getThe CommandHost
    return Json.ofStrings ((h.matching n).map fun n => (h.session n).title)
  | .shutdownAll => silently Session.shutdownAll
  | .message name received => silently do
    let n ← sessionOf name
    Wire.seed Wire.opened 0 0 n received
  | .adapter name definition accessFault => silently do
    let definition ← definitionOf definition
    let n ← Act.allocate (Host.addAdapter ⟨definition, 0, 0, accessFault, []⟩)
    modifyNames fun t => { t with adapters := putMember name n t.adapters }
  | .start name => silently do Host.startAdapter (← adapterOf name)
  | .running name => do
    let n ← adapterOf name
    return .bool ((← getThe CommandHost).adapter n).isRunning
  | .stop name broken => silently do
    let n ← adapterOf name
    for words in broken do
      Host.keepRegistration n (.broken words)
    Host.stopAdapter n
  | .plugin name fresh => do
    let n ← createPlugin fresh
    modifyNames fun t => { t with plugins := putMember name n t.plugins }
    showPlugin n
  | .pluginStart name => silently do Host.startPlugin (← pluginOf name)
  | .pluginRunning name => do
    let n ← pluginOf name
    let h ← getThe CommandHost
    return .bool (h.adapter (h.plugin n).adapter).isRunning
  | .pluginStop name => silently do Host.stopPlugin (← pluginOf name)
  | .pluginAdd name directories => silently do
    let n ← pluginOf name
    let workspace := ((← getThe CommandHost).plugin n).workspace
    Host.addProjects react workspace directories
  | .pluginProvider name => do
    let n ← pluginOf name
    let h ← getThe CommandHost
    let (connection, _) ← Host.provide (h.definition (h.plugin n).definition).source
    return .ofString connection.describe
  | .pluginLaunch name root => do
    let n ← pluginOf name
    let started ← Host.launchSession ((← getThe CommandHost).plugin n).definition root
    return .ofString ((← getThe CommandHost).describeSession started)
  | .within _ _ _ | .pluginWithin _ _ _ => return .null

mutual

/-- Takes a command. -/
def perform (react : React) : Command → CommandAct Json
  | .within name steps failure => do
    let n ← adapterOf name
    Host.startAdapter n
    finishing
      (do
        performAll react steps
        failWith failure
        return .bool ((← getThe CommandHost).adapter n).isRunning)
      (Host.stopAdapter n)
  | .pluginWithin name steps failure => do
    let n ← pluginOf name
    Host.startPlugin n
    finishing
      (do
        performAll react steps
        failWith failure
        let h ← getThe CommandHost
        return .bool (h.adapter (h.plugin n).adapter).isRunning)
      (Host.stopPlugin n)
  | command => performSimple react command

/-- Takes commands in order until one fails. -/
def performAll (react : React) : List Command → CommandAct Unit
  | [] => pure ()
  | command :: rest => do
    let _ ← perform react command
    performAll react rest

end

/-- How many recorders take reactions inside one another. -/
def maxNesting : Nat := 3

/-- What a recorder's reactions do when so many more may be taken inside them. -/
def reactWithin : Nat → React
  | 0, _ => pure ()
  | nesting + 1, commands => performAll (reactWithin nesting) commands

/-- Takes a command from outside. -/
def run (command : Command) : CommandAct Json :=
  perform (reactWithin maxNesting) command

/-- The host that commands begin with: one store, one workspace, one registry, and the definitions
that have a name. -/
def initialHost (platform : Platform) (store preferencesPath : Path) : CommandHost :=
  let yaml : Definition := ⟨Definition.yamlId, "YAML", [], .labelled "yaml"⟩
  { Host.empty platform preferencesPath with
    stores := [.empty store]
    workspaces := [.empty]
    registries := [[]]
    definitions := [yaml, yaml, ⟨"other", "Other", [], .labelled "other"⟩] }

end Command

end LanguageHost
