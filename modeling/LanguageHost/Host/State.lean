import LanguageHost.Folders
import LanguageHost.Server.Connection
import LanguageHost.Server.Definition
import LanguageHost.Server.Message
import LanguageHost.Settings

/-!
# The state of a host

A host holds everything that lives as long as the program: preference stores, workspaces, server
definitions and registries, sessions with the list of the active ones, listeners, adapters and
plugins. Each of them is known by its number, so that two of them never count as the same because
they look alike.

A session either talks to a server over a wire, or is a stand-in that only keeps what it is told.
-/

namespace LanguageHost

/-- What a provider does with every message that its session receives. -/
inductive Hook where
  | none
  /-- Seeds the server with the settings of a store and the folders of a workspace. -/
  | seed (store workspace : Nat)
  /-- Fails with these words. -/
  | fail (message : String)
  deriving DecidableEq, Repr, Inhabited

/-- What stands at the other end of a session. -/
inductive Peer where
  /-- Nothing: what the session is told is kept. The notices with the listed methods fail, and
  stopping fails with the given words. -/
  | standIn (failing : List String) (stopFault : Option String)
  /-- A conversation whose reactions arrive while the message is still being written. -/
  | script (conversation : List (Text × List Json))
  /-- The child process of the provider. -/
  | child

/-- The requests of an open endpoint that are not answered yet, and the answers to the others. -/
structure Endpoint where
  pending : List String
  answers : List (String × Except Fault Json)
  deriving Inhabited

/-- How far the messages of a child have been read: the body read last, and whether the reader
still reads. -/
structure Reader where
  last : Option (List UInt8)
  reading : Bool
  deriving Inhabited

/-- What a session holds of its connection beside the endpoint: the stream that it writes to, the
stream that it reads from, and the thread that reads. -/
structure Holdings where
  writer : Bool
  reader : Bool
  thread : Bool
  deriving DecidableEq, Repr, Inhabited

namespace Holdings

/-- Nothing is held. -/
def nothing : Holdings := ⟨false, false, false⟩

/-- Everything is held. -/
def all : Holdings := ⟨true, true, true⟩

end Holdings

/-- A session with a server. -/
structure Session where
  /-- The name of a stand-in. -/
  title : String
  /-- The number of its definition; a stand-in may do without one. -/
  definition : Option Nat
  provider : Connection
  hook : Hook
  root : Option String
  peer : Peer
  /-- How many requests were sent; they are numbered through all endpoints. -/
  asked : Nat
  endpoint : Option Endpoint
  reader : Reader
  held : Holdings
  capabilities : Json
  /-- The diagnostics of each document, newest lists only. -/
  diagnostics : List (Json × Json)

/-- What a session sent: notices to a stand-in, messages to a server, or that it was stopped. -/
inductive Sent where
  | notice (notice : Notice)
  | message (message : Json)
  | stopped

/-- Who is told of changes. -/
inductive Listener (γ : Type) where
  /-- Keeps the event under a name, and does something about it. -/
  | recorder (name : String) (reaction : List γ)
  /-- Sends fresh settings to the sessions of a definition when a preference changes. -/
  | settings (definition : Option Nat) (store : Nat) (key : Text) (accessFault : Option String)
  /-- Announces added and removed projects to the sessions of a definition. -/
  | folders (definition : Option Nat) (accessFault : Option String)

/-- What an adapter has to undo when it stops. -/
inductive Registration where
  | preference (store : Nat) (subscription : Subscription Nat)
  | resource (workspace : Nat) (subscriptions : List (Subscription Nat))
  /-- Cannot be undone, with these words. -/
  | broken (message : String)

/-- Keeps the servers of a definition in step with a store and a workspace while it runs. -/
structure Adapter where
  definition : Option Nat
  store : Nat
  workspace : Nat
  accessFault : Option String
  registrations : List Registration
  deriving Inhabited

/-- A store and a workspace with the YAML server and its adapter. -/
structure Plugin where
  store : Nat
  workspace : Nat
  definition : Nat
  adapter : Nat
  deriving DecidableEq, Repr, Inhabited

/-- An event that a recorder has kept: its name and the event. -/
structure Recorded where
  name : String
  event : Json

/-- The names that commands refer to sessions, adapters, plugins and subscriptions by. -/
structure NameTable where
  sessions : List (String × Nat)
  adapters : List (String × Nat)
  plugins : List (String × Nat)
  subscriptions : List (String × Registration)
  deriving Inhabited

/-- Everything that lives as long as the program. Reactions of recorders are of type `γ`. -/
structure Host (γ : Type) where
  platform : Platform
  stores : List PreferenceStore
  workspaces : List Workspace
  definitions : List Definition
  registries : List Registry
  sessions : List Session
  /-- The numbers of the registered sessions, in the order of registration. -/
  active : List Nat
  listeners : List (Listener γ)
  adapters : List Adapter
  plugins : List Plugin
  /-- What sessions sent, in order. -/
  sent : List (Nat × Sent)
  /-- The roots that hooks were called with. -/
  hooked : List (Option String)
  /-- What recorders kept, in order. -/
  recorded : List Recorded
  /-- The messages that scripted servers have read, in order. -/
  received : List Json
  names : NameTable
  /-- Where preferences are kept when no path is given. -/
  preferencesPath : Path

/-- An action of a host that may fail. -/
abbrev Act (γ : Type) := ExceptT Fault (StateM (Host γ))

instance : Inhabited Session where
  default :=
    { title := "", definition := none, provider := default, hook := .none, root := none
      peer := .standIn [] none, asked := 0, endpoint := none, reader := ⟨none, false⟩
      held := .nothing, capabilities := Json.object [], diagnostics := [] }

namespace Host

variable {γ : Type}

/-- The host that holds nothing yet. -/
def empty (platform : Platform) (preferencesPath : Path) : Host γ where
  platform
  stores := []
  workspaces := []
  definitions := []
  registries := []
  sessions := []
  active := []
  listeners := []
  adapters := []
  plugins := []
  sent := []
  hooked := []
  recorded := []
  received := []
  names := default
  preferencesPath

/-- The store with a number. -/
def store (n : Nat) (h : Host γ) : PreferenceStore :=
  h.stores.getD n default

/-- Replaces the store with a number. -/
def setStore (n : Nat) (store : PreferenceStore) (h : Host γ) : Host γ :=
  { h with stores := h.stores.set n store }

/-- The workspace with a number. -/
def workspace (n : Nat) (h : Host γ) : Workspace :=
  h.workspaces.getD n default

/-- Replaces the workspace with a number. -/
def setWorkspace (n : Nat) (workspace : Workspace) (h : Host γ) : Host γ :=
  { h with workspaces := h.workspaces.set n workspace }

/-- The definition with a number. -/
def definition (n : Nat) (h : Host γ) : Definition :=
  h.definitions.getD n default

/-- The definition with a number that may be missing. -/
def definition? (n : Option Nat) (h : Host γ) : Option Definition :=
  n.map h.definition

/-- The id of a session's definition. -/
def definitionId (s : Session) (h : Host γ) : String :=
  ((h.definition? s.definition).map Definition.id).getD ""

/-- The session with a number. -/
def session (n : Nat) (h : Host γ) : Session :=
  h.sessions.getD n default

/-- Replaces the session with a number. -/
def setSession (n : Nat) (session : Session) (h : Host γ) : Host γ :=
  { h with sessions := h.sessions.set n session }

/-- The adapter with a number. -/
def adapter (n : Nat) (h : Host γ) : Adapter :=
  h.adapters.getD n default

/-- Replaces the adapter with a number. -/
def setAdapter (n : Nat) (adapter : Adapter) (h : Host γ) : Host γ :=
  { h with adapters := h.adapters.set n adapter }

/-- Adds a store; its number is that of the last one. -/
def addStore (store : PreferenceStore) (h : Host γ) : Nat × Host γ :=
  (h.stores.length, { h with stores := h.stores ++ [store] })

/-- Adds a workspace. -/
def addWorkspace (workspace : Workspace) (h : Host γ) : Nat × Host γ :=
  (h.workspaces.length, { h with workspaces := h.workspaces ++ [workspace] })

/-- Adds a definition. -/
def addDefinition (definition : Definition) (h : Host γ) : Nat × Host γ :=
  (h.definitions.length, { h with definitions := h.definitions ++ [definition] })

/-- Adds a registry. -/
def addRegistry (registry : Registry) (h : Host γ) : Nat × Host γ :=
  (h.registries.length, { h with registries := h.registries ++ [registry] })

/-- Adds a session. -/
def addSession (session : Session) (h : Host γ) : Nat × Host γ :=
  (h.sessions.length, { h with sessions := h.sessions ++ [session] })

/-- Adds a listener. -/
def addListener (listener : Listener γ) (h : Host γ) : Nat × Host γ :=
  (h.listeners.length, { h with listeners := h.listeners ++ [listener] })

/-- Adds an adapter. -/
def addAdapter (adapter : Adapter) (h : Host γ) : Nat × Host γ :=
  (h.adapters.length, { h with adapters := h.adapters ++ [adapter] })

/-- Adds a plugin. -/
def addPlugin (plugin : Plugin) (h : Host γ) : Nat × Host γ :=
  (h.plugins.length, { h with plugins := h.plugins ++ [plugin] })

/-- Notes that a session sent something. -/
def noteSent (n : Nat) (what : Sent) (h : Host γ) : Host γ :=
  { h with sent := h.sent ++ [(n, what)] }

/-- Puts a session among the registered ones, unless it is there. -/
def register (n : Nat) (h : Host γ) : Host γ :=
  if h.active.contains n then h else { h with active := h.active ++ [n] }

theorem mem_active_register (n other : Nat) (h : Host γ) :
    other ∈ (h.register n).active ↔ other = n ∨ other ∈ h.active := by
  unfold register
  split
  · rename_i present
    have isThere : n ∈ h.active := by simpa using present
    exact ⟨Or.inr, fun same => same.elim (fun e => e ▸ isThere) id⟩
  · simp [or_comm]

/-- No session is registered twice. -/
theorem nodup_active_register (n : Nat) {h : Host γ} (distinct : h.active.Nodup) :
    (h.register n).active.Nodup := by
  unfold register
  split
  · exact distinct
  · rename_i absent
    refine List.nodup_append.2 ⟨distinct, by simp, ?_⟩
    intro a here b there same
    simp_all

/-- Takes a session from the registered ones. -/
def unregister (n : Nat) (h : Host γ) : Host γ :=
  { h with active := h.active.erase n }

theorem mem_active_unregister (n other : Nat) {h : Host γ} (distinct : h.active.Nodup) :
    other ∈ (h.unregister n).active ↔ other ≠ n ∧ other ∈ h.active :=
  distinct.mem_erase_iff

/-- Writes a message in the name of a service. -/
def log (service : String) (level : Level) (message : Text) (extra : Tags) (h : Host γ) : Host γ :=
  { h with platform := h.platform.log service level message extra }

/-- The registered sessions of a definition, in the order of registration. -/
def matching (definition : Option Nat) (h : Host γ) : List Nat :=
  h.active.filter fun n => (h.session n).definition = definition

/-- A session in a message. -/
def describeSession (n : Nat) (h : Host γ) : String :=
  let s := h.session n
  match s.peer with
  | .standIn _ _ => "session " ++ s.title
  | _ =>
    "LanguageServerSession(" ++ h.definitionId s ++ ", " ++ s.provider.describe ++
      ")"

end Host

namespace Act

variable {γ α : Type}

/-- An action on the machine as an action of the host. -/
def onPlatform (task : Task α) : Act γ α := fun h =>
  let (result, platform) := task h.platform
  (result, { h with platform })

/-- A result as an action. -/
def ofExcept : Except Fault α → Act γ α
  | .ok x => pure x
  | .error fault => throw fault

/-- The result of an operation that may meet a problem. -/
def ofProblem : Except Problem α → Act γ α
  | .ok x => pure x
  | .error problem => throw (.problem problem)

/-- Writes a message in the name of a service. -/
def log (service : String) (level : Level) (message : Text) (extra : Tags) : Act γ Unit :=
  modify (Host.log service level message extra)

/-- Changes the session with a number. -/
def modifySession (n : Nat) (change : Session → Session) : Act γ Unit :=
  modify fun h => h.setSession n (change (h.session n))

/-- Does something; its fault, if it has one, is handed to the handler instead of going on. -/
def guarded (action : Act γ Unit) (handler : Fault → Act γ Unit) : Act γ Unit :=
  tryCatch action handler

/-- Takes a new number together with the changed host. -/
def allocate (make : Host γ → Nat × Host γ) : Act γ Nat := fun h =>
  let (n, h) := make h
  (.ok n, h)

end Act

end LanguageHost
