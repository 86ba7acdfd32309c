import LanguageHost.Host.Adapter
import LanguageHost.Server.YamlProvider

/-!
# Plugins

A plugin brings a store, a workspace, the YAML server's definition and an adapter together. Its
definition is whatever the registry holds under the YAML server's id, which need not be the one
the plugin brought along.
-/

namespace LanguageHost.Host

variable {γ : Type}

/-- Adds a plugin over a store, a workspace and a registry. -/
def createPlugin (store workspace registry : Nat) : Act γ Nat := do
  let brought ← Act.allocate (addDefinition (Definition.yaml store workspace))
  let h ← get
  let (definition, entries) :=
    Registry.register Definition.yamlId brought (h.registries.getD registry [])
  set { h with registries := h.registries.set registry entries }
  let adapter ← Act.allocate (addAdapter ⟨some definition, store, workspace, none, []⟩)
  Act.allocate (addPlugin ⟨store, workspace, definition, adapter⟩)

/-- The plugin with a number. -/
def plugin (n : Nat) (h : Host γ) : Plugin :=
  h.plugins.getD n default

/-- Starts a plugin: its preferences are loaded, and its adapter runs. -/
def startPlugin (n : Nat) : Act γ Unit := do
  let p := (← get).plugin n
  modify fun h => h.setStore p.store (h.store p.store).withYamlDefaults
  loadPreferences p.store
  startAdapter p.adapter
  Act.log "plugin" .info "Plugin started" []

/-- Stops sessions; each failure is noted and the next session is stopped. -/
def stopSessions : List Nat → Act γ Unit
  | [] => pure ()
  | n :: rest => do
    Act.guarded (Session.stop .direct n) fun fault => do
      let name := (← get).describeSession n
      Act.log "plugin" .error "Failed to stop session"
        [("session", name), ("error", .str fault.message)]
    stopSessions rest

/-- Stops a plugin: its sessions first, then its adapter. -/
def stopPlugin (n : Nat) : Act γ Unit := do
  let p := (← get).plugin n
  stopSessions ((← get).matching (some p.definition))
  stopAdapter p.adapter
  Act.log "plugin" .info "Plugin stopped" []

/-- The name of the project for a directory: its last name, or the whole path if it has none. -/
def projectName (directory : Path) : String :=
  if directory.name.isEmpty then directory.text else directory.name

/-- Adds a project for each directory. -/
def addProjects (react : List γ → Act γ Unit) (workspace : Nat) : List String → Act γ Unit
  | [] => pure ()
  | text :: rest => do
    let directory := (Path.ofString text).absolute (← get).platform.cwd
    let _ ← createProject react workspace (projectName directory) directory false true
    addProjects react workspace rest

/-- A connection from the source of a definition, and the hook that goes with it. -/
def provide : ProviderSource → Act γ (Connection × Hook)
  | .yaml store workspace => do
    return (← Act.onPlatform YamlProvider.located, .seed store workspace)
  | .labelled name => return ({ Connection.make [] none with title := name }, .none)

/-- A session that has not started, over a connection of its own. -/
def newSession (definition : Nat) (connection : Connection) (hook : Hook)
    (root : Option String) : Session :=
  { (default : Session) with
    definition := some definition, provider := connection, hook, root, peer := .child }

/-- Starts a session of a definition. -/
def launchSession (definition : Nat) (root : Option String) : Act γ Nat := do
  let (connection, hook) ← provide ((← get).definition definition).source
  let n ← Act.allocate (addSession (newSession definition connection hook root))
  tryCatch (Session.start .direct n Session.startTimeout) fun fault => do
    let server := ((← get).definition definition).id
    Act.log "lsp.accessor" .error "Failed to start language server"
      [("server", server), ("error", .str fault.message)]
    throw fault
  return n

end LanguageHost.Host
