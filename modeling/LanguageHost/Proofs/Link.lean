import LanguageHost.Host.Adapter
import LanguageHost.Proofs.Address
import LanguageHost.Proofs.Announcement

/-!
# What an adapter links

An adapter that runs links the sessions of its definition to a store and a workspace. Its two
listeners are subscribed, and nobody else is, as `Host.Subscribed` says; `Host.Linked` adds that the
sessions seed their servers with the same store and workspace. Each listener is then followed from
the event that it is handed to the notice that the sessions are told.
-/

namespace LanguageHost

open Act Host

variable {γ : Type}

/-! ## A running adapter -/

namespace Host

lemma store_setStore (n other : Nat) (s : PreferenceStore) (h : Host γ) :
    (h.setStore n s).store other =
      if other = n ∧ n < h.stores.length then s else h.store other := by
  simp only [store, setStore, List.getD_eq_getElem?_getD, List.getElem?_set]
  by_cases hother : n = other
  · subst hother
    by_cases hlt : n < h.stores.length
    · simp [hlt]
    · simp [hlt]
  · simp [hother, Ne.symm hother]

lemma workspace_setWorkspace (n other : Nat) (w : Workspace) (h : Host γ) :
    (h.setWorkspace n w).workspace other =
      if other = n ∧ n < h.workspaces.length then w else h.workspace other := by
  simp only [workspace, setWorkspace, List.getD_eq_getElem?_getD, List.getElem?_set]
  by_cases hother : n = other
  · subst hother
    by_cases hlt : n < h.workspaces.length
    · simp [hlt]
    · simp [hlt]
  · simp [hother, Ne.symm hother]

/-- The sessions of a definition that have an endpoint seed their servers with a store and a
workspace. -/
def Seeds (d st ws : Nat) (h : Host γ) : Prop :=
  ∀ n, (h.session n).definition = some d → (h.session n).endpoint.isSome = true →
    (h.session n).hook = .seed st ws

/-- The listeners that forward settings and folders to the sessions of a definition are subscribed
to a store and a workspace, and nobody else hears of their changes. -/
structure Subscribed (d st ws : Nat) (h : Host γ) : Prop where
  store : st < h.stores.length
  workspace : ws < h.workspaces.length
  settings : ∃ n, h.listeners[n]? = some (.settings (some d) st schemaKey none) ∧
    (h.store st).bus.subscribers preferenceTopic = [n]
  folders : ∃ n, h.listeners[n]? = some (.folders (some d) none) ∧
    (h.workspace ws).bus.subscribers (resourceTopic postChange) = [n]
  distinct : h.active.Nodup

/-- The sessions of a definition are linked to a store and a workspace: they seed their servers with
these, and hear of every change. -/
structure Linked (d st ws : Nat) (h : Host γ) : Prop extends Subscribed d st ws h where
  seeds : Seeds d st ws h

/-- An adapter is about to listen to a store and a workspace that nobody listens to yet. -/
structure Ready (k d st ws : Nat) (h : Host γ) : Prop where
  adapter : h.adapter k = ⟨some d, st, ws, none, []⟩
  store : st < h.stores.length
  workspace : ws < h.workspaces.length
  storeBus : (h.store st).bus.subscribers preferenceTopic = []
  workspaceBus : (h.workspace ws).bus.subscribers (resourceTopic postChange) = []
  distinct : h.active.Nodup

/-- An adapter that is about to link the sessions of a definition to a store and a workspace that
nobody listens to yet. -/
structure Prepared (k d st ws : Nat) (h : Host γ) : Prop where
  adapter : h.adapter k = ⟨some d, st, ws, none, []⟩
  store : st < h.stores.length
  workspace : ws < h.workspaces.length
  storeBus : (h.store st).bus.subscribers preferenceTopic = []
  workspaceBus : (h.workspace ws).bus.subscribers (resourceTopic postChange) = []
  seeds : Seeds d st ws h
  distinct : h.active.Nodup

lemma Prepared.ready {k d st ws : Nat} {h : Host γ} (hprep : Prepared k d st ws h) :
    Ready k d st ws h :=
  ⟨hprep.adapter, hprep.store, hprep.workspace, hprep.storeBus, hprep.workspaceBus,
    hprep.distinct⟩

lemma subscribe_postChange (w : Workspace) (n : Nat) :
    w.subscribe postChange n =
      { w with bus := w.bus.subscribe (resourceTopic postChange) n } := by
  have hbits : Workspace.maskBits postChange = [1] := by decide
  rw [Workspace.subscribe, Workspace.maskSubscriptions, hbits]
  rfl

lemma startAdapter_run {k d st ws : Nat} {h : Host γ}
    (ha : h.adapter k = ⟨some d, st, ws, none, []⟩) :
    let settings : Listener γ := .settings (some d) st schemaKey none
    let listeners := h.listeners ++ [settings]
    ∃ (platform : Platform) (adapters : List Adapter),
      platform.cwd = h.platform.cwd ∧ startAdapter k h = (.ok (), { h with
        platform
        adapters
        stores := h.stores.set st { h.store st with
          bus := (h.store st).bus.subscribe preferenceTopic h.listeners.length }
        workspaces := h.workspaces.set ws ((h.workspace ws).subscribe postChange listeners.length)
        listeners := listeners ++ [.folders (some d) none] }) := by
  unfold startAdapter
  rw [get_bind, ha]
  exact ⟨_, _, Platform.cwd_log _ _ _ _ h.platform, rfl⟩

/-- Starting an adapter subscribes its listeners. -/
theorem Ready.subscribed {k d st ws : Nat} {h : Host γ} (hready : Ready k d st ws h) :
    Subscribed d st ws (startAdapter k h).2 := by
  obtain ⟨platform, adapters, -, hrun⟩ := startAdapter_run hready.adapter
  set listeners : List (Listener γ) := h.listeners ++ [.settings (some d) st schemaKey none]
  have hlength : listeners.length = h.listeners.length + 1 := by simp [listeners]
  have hstore := store_setStore st st
    { h.store st with bus := (h.store st).bus.subscribe preferenceTopic h.listeners.length } h
  have hworkspace := workspace_setWorkspace ws ws
    ((h.workspace ws).subscribe postChange listeners.length) h
  rw [if_pos ⟨rfl, hready.store⟩] at hstore
  rw [if_pos ⟨rfl, hready.workspace⟩, subscribe_postChange] at hworkspace
  rw [hrun]
  refine ⟨by simpa using hready.store, by simpa using hready.workspace,
    ⟨h.listeners.length, ?_, ?_⟩, ⟨listeners.length, ?_, ?_⟩, hready.distinct⟩
  · simp [listeners]
  · change ((h.setStore st _).store st).bus.subscribers preferenceTopic = _
    rw [hstore, Bus.subscribers_subscribe, if_pos rfl, hready.storeBus]
    rfl
  · simp
  · change ((h.setWorkspace ws _).workspace ws).bus.subscribers (resourceTopic postChange) = _
    rw [subscribe_postChange, hworkspace, Bus.subscribers_subscribe, if_pos rfl,
      hready.workspaceBus]
    rfl

/-- Starting an adapter links the sessions of its definition. -/
theorem Prepared.linked {k d st ws : Nat} {h : Host γ} (hprep : Prepared k d st ws h) :
    Linked d st ws (startAdapter k h).2 := by
  refine ⟨hprep.ready.subscribed, ?_⟩
  obtain ⟨platform, adapters, -, hrun⟩ := startAdapter_run hprep.adapter
  rw [hrun]
  exact hprep.seeds

/-- Starting an adapter leaves the sessions and the projects as they are. -/
lemma Ready.left {k d st ws : Nat} {h : Host γ} (hready : Ready k d st ws h) :
    (startAdapter k h).2.sessions = h.sessions ∧ (startAdapter k h).2.active = h.active ∧
      (startAdapter k h).2.sent = h.sent ∧
      ((startAdapter k h).2.workspace ws).projects = (h.workspace ws).projects := by
  obtain ⟨platform, adapters, -, hrun⟩ := startAdapter_run hready.adapter
  rw [hrun]
  refine ⟨rfl, rfl, rfl, ?_⟩
  change ((h.setWorkspace ws _).workspace ws).projects = _
  rw [workspace_setWorkspace, if_pos ⟨rfl, hready.workspace⟩]
  rfl

/-- Starting an adapter changes neither the preferences nor where the program runs. -/
lemma Ready.store_left {k d st ws : Nat} {h : Host γ} (hready : Ready k d st ws h) :
    ((startAdapter k h).2.store st).values = (h.store st).values ∧
      ((startAdapter k h).2.store st).defaults = (h.store st).defaults ∧
      (startAdapter k h).2.platform.cwd = h.platform.cwd := by
  obtain ⟨platform, adapters, hcwd, hrun⟩ := startAdapter_run hready.adapter
  have hstore := store_setStore st st
    { h.store st with bus := (h.store st).bus.subscribe preferenceTopic h.listeners.length } h
  rw [if_pos ⟨rfl, hready.store⟩] at hstore
  have hvalues := congrArg PreferenceStore.values hstore
  have hdefaults := congrArg PreferenceStore.defaults hstore
  rw [hrun]
  exact ⟨hvalues, hdefaults, hcwd⟩

lemma Prepared.left {k d st ws : Nat} {h : Host γ} (hprep : Prepared k d st ws h) :
    (startAdapter k h).2.sessions = h.sessions ∧ (startAdapter k h).2.active = h.active ∧
      (startAdapter k h).2.sent = h.sent ∧
      ((startAdapter k h).2.workspace ws).projects = (h.workspace ws).projects :=
  hprep.ready.left

lemma undisturbed_platform (h : Host γ) (platform : Platform) :
    Undisturbed h { h with platform } :=
  ⟨rfl, rfl, rfl, rfl, rfl, rfl, rfl, rfl, rfl, rfl⟩

lemma Announced.quiet {notice : Notice} {recipients : List Nat} {h h' : Host γ}
    {platform : Platform} (a : Announced notice recipients h h')
    (hcwd : platform.cwd = h'.platform.cwd) :
    Announced notice recipients h { h' with platform } :=
  ⟨a.undisturbed.trans (undisturbed_platform h' platform), hcwd.trans a.cwd, a.ends, a.active,
    a.said⟩

lemma mem_matching {definition : Option Nat} {n : Nat} {h : Host γ} :
    n ∈ h.matching definition ↔ n ∈ h.active ∧ (h.session n).definition = definition := by
  simp [matching]

/-! ## Handing an event to one listener -/

lemma publish_single (react : List γ → Act γ Unit) (service topic : String) (event : Event)
    {n : Nat} {listener : Listener γ} {h : Host γ} (hlistener : h.listeners[n]? = some listener)
    (hok : (Listener.receive react event listener h).1 = .ok ()) :
    (publish react service topic event [n] h).2 =
      (Listener.receive react event listener h).2 := by
  have hreceive : Listener.receiveAt react event n h = Listener.receive react event listener h := by
    unfold Listener.receiveAt
    rw [get_bind, hlistener]
  have hcaught : (tryCatch (Listener.receiveAt react event n) fun fault => modify fun h : Host γ =>
      { h with platform := Bus.reportFailure service topic fault h.platform } : Act γ Unit) h =
      (.ok (), (Listener.receive react event listener h).2) :=
    tryCatch_ok (hreceive.trans (Prod.ext hok rfl))
  have hrun : publish react service topic event [n] h =
      (pure () : Act γ Unit) (Listener.receive react event listener h).2 := bind_ok hcaught
  rw [hrun]
  rfl

/-- A listener's own faults are noted, which adds nothing to what it announced. -/
lemma Announced.guarded {notice : Notice} {recipients : List Nat} {h : Host γ} {a : Act γ Unit}
    {service : String} {level : Level} {words : Text} {extra : Fault → Tags}
    (ha : Announced notice recipients h (a h).2) :
    Announced notice recipients h
      (Act.guarded a (fun fault => Act.log service level words (extra fault)) h).2 := by
  rcases hres : a h with ⟨result, h'⟩
  rw [hres] at ha
  cases result with
  | ok x =>
    rw [Act.guarded, tryCatch_ok hres]
    exact ha
  | error fault =>
    rw [Act.guarded, tryCatch_error hres]
    exact ha.quiet (Platform.cwd_log _ _ _ _ h'.platform)

lemma Announced.after {notice : Notice} {d : Nat} {h h' : Host γ} {platform : Platform}
    (hcwd : platform.cwd = h.platform.cwd)
    (a : Announced notice (h.matching (some d)) { h with platform } h') :
    Announced notice (h.matching (some d)) h h' := by
  refine ⟨(undisturbed_platform h platform).trans a.undisturbed, a.cwd.trans hcwd, a.ends,
    a.active, fun n => ?_⟩
  obtain ⟨l, hl, hears⟩ := a.said n
  exact ⟨l, hl, hears.quiet, hears.told, hears.truthful⟩

/-- The sessions of a definition are told a notice. -/
lemma announced_matching (definition : Option Nat) (notice : Notice) (words : Text) {h : Host γ}
    (hdistinct : h.active.Nodup) : Announced notice (h.matching definition) h
      (Listener.tellEach notice words (h.matching definition) h).2 :=
  Listener.announced_tellEach notice words _ h (hdistinct.filter _)
    fun _ hn => (mem_matching.1 hn).1

lemma recipients_run (definition : Option Nat) (h : Host γ) :
    Listener.recipients definition none h = (.ok (h.matching definition), h) :=
  rfl

/-- The settings listener tells the sessions of its definition what the store says now. -/
lemma receive_settings (react : List γ → Act γ Unit) (d st : Nat) {h : Host γ}
    {change : PreferenceChange} (hkey : change.key = schemaKey) (hdistinct : h.active.Nodup) :
    Announced (.configuration (Settings.build (h.store st)).1) (h.matching (some d)) h
      (Listener.receive react (.preference change)
        (.settings (some d) st schemaKey none) h).2 := by
  refine Announced.guarded ?_
  obtain ⟨platform, hcwd, hbuild⟩ := Wire.buildSettings_run st h
  rw [Listener.forwardPreference, if_pos hkey, bind_ok hbuild, bind_ok (recipients_run (some d) _)]
  have hlater : ({ h with platform } : Host γ).active.Nodup := hdistinct
  exact Announced.after hcwd (announced_matching (some d) _ _ hlater)

/-- Nothing is forwarded when another preference changed. -/
lemma receive_settings_other (react : List γ → Act γ Unit) {d st : Nat} {h : Host γ}
    {change : PreferenceChange} (hkey : change.key ≠ schemaKey) :
    (Listener.receive react (.preference change) (.settings (some d) st schemaKey none) h).2 =
      h := by
  have hforward : Listener.forwardPreference (some d) st schemaKey none change h =
      (.ok (), h) := by
    rw [Listener.forwardPreference, if_neg hkey]
    rfl
  exact congrArg Prod.snd (tryCatch_ok hforward)

/-- The resource deltas of a workspace have one project below the root. -/
lemma changedProjects_ofRoot (rootFlags : Int) (r : Resource) (kind flags : Int) :
    (Delta.ofRoot rootFlags (.leaf r kind flags)).changedProjects =
      .ok ((⟨[], []⟩ : ProjectChanges).note r kind) := by
  simp [Delta.changedProjects, Delta.ofRoot, Delta.leaf, Delta.collect, Delta.collectAll,
    ProjectChanges.note, Resource.root]

@[simp] lemma flags_ofRoot (flags : Int) (below : Delta) :
    (Delta.ofRoot flags below).flags = flags :=
  rfl

/-- The folders listener passes over a delta of annotations, and one that neither adds nor removes
a project. -/
lemma receive_passes (react : List γ → Act γ Unit) {definition : Option Nat} {h : Host γ}
    (type : Int) {delta : Delta}
    (hpass : delta.flags = markersFlag ∨ delta.changedProjects = .ok ⟨[], []⟩) :
    Listener.receive react (.resource type delta) (.folders definition none) h = (.ok (), h) := by
  have hforward : Listener.forwardProjects definition none delta h = (.ok (), h) := by
    rw [Listener.forwardProjects]
    by_cases hflags : delta.flags = markersFlag
    · rw [if_pos hflags]
      rfl
    · rw [if_neg hflags, hpass.resolve_left hflags]
      rfl
  exact tryCatch_ok hforward

/-- The folders listener passes over everything but added and removed projects. -/
lemma receive_folders_other (react : List γ → Act γ Unit) {d : Nat} {h : Host γ} (type : Int)
    (r : Resource) {kind flags rootFlags : Int}
    (hother : rootFlags = markersFlag ∨ kind = changedKind) :
    (Listener.receive react (.resource type (Delta.ofRoot rootFlags (.leaf r kind flags)))
      (.folders (some d) none) h).2 = h := by
  have hpass : (Delta.ofRoot rootFlags (.leaf r kind flags)).flags = markersFlag ∨
      (Delta.ofRoot rootFlags (.leaf r kind flags)).changedProjects = .ok ⟨[], []⟩ := by
    rw [flags_ofRoot, changedProjects_ofRoot]
    refine hother.imp_right fun hkind => ?_
    simp [ProjectChanges.note, hkind, changedKind, addedKind, removedKind]
  exact congrArg Prod.snd (receive_passes react type hpass)

/-- The folders listener looks for those that it tells of the projects that a delta adds and
removes. -/
lemma forwardProjects_tells (definition : Option Nat) (accessFault : Option String)
    {delta : Delta} {changes : ProjectChanges} {added removed : List String}
    (hflags : delta.flags ≠ markersFlag) (hchanges : delta.changedProjects = .ok changes)
    (hsome : (changes.added.isEmpty && changes.removed.isEmpty) = false)
    (hadded : Folders.addresses changes.added = .ok added)
    (hremoved : Folders.addresses changes.removed = .ok removed) (h : Host γ) :
    Listener.forwardProjects definition accessFault delta h =
      (Listener.recipients definition accessFault >>=
        Listener.tellEach (.folders (Folders.changeParams added removed))
          "Failed to send workspace folders") h := by
  rw [Listener.forwardProjects, if_neg hflags, hchanges]
  dsimp only
  rw [hsome, if_neg Bool.false_ne_true, hadded, hremoved]
  rfl

/-- The folders listener announces the projects that a delta adds and removes. -/
lemma receive_tells (react : List γ → Act γ Unit) {definition : Option Nat} {h : Host γ}
    (type : Int) {delta : Delta} {changes : ProjectChanges} {added removed : List String}
    (hdistinct : h.active.Nodup) (hflags : delta.flags ≠ markersFlag)
    (hchanges : delta.changedProjects = .ok changes)
    (hsome : (changes.added.isEmpty && changes.removed.isEmpty) = false)
    (hadded : Folders.addresses changes.added = .ok added)
    (hremoved : Folders.addresses changes.removed = .ok removed) :
    Announced (.folders (Folders.changeParams added removed)) (h.matching definition) h
      (Listener.receive react (.resource type delta) (.folders definition none) h).2 := by
  refine Announced.guarded ?_
  rw [forwardProjects_tells definition none hflags hchanges hsome hadded hremoved h]
  exact announced_matching definition _ _ hdistinct

lemma forwardProjects_run (definition : Option Nat) (accessFault : Option String) {r : Resource}
    {kind : Int} {changes : ProjectChanges} {added removed : List String}
    (hnote : (⟨[], []⟩ : ProjectChanges).note r kind = changes)
    (hsome : (changes.added.isEmpty && changes.removed.isEmpty) = false)
    (hadded : Folders.addresses changes.added = .ok added)
    (hremoved : Folders.addresses changes.removed = .ok removed) (h : Host γ) :
    Listener.forwardProjects definition accessFault (Delta.ofRoot 0 (.leaf r kind 0)) h =
      (Listener.recipients definition accessFault >>=
        Listener.tellEach (.folders (Folders.changeParams added removed))
          "Failed to send workspace folders") h :=
  have hchanges := (changedProjects_ofRoot 0 r kind 0).trans (congrArg _ hnote)
  have hflags : (Delta.ofRoot 0 (.leaf r kind 0)).flags ≠ markersFlag :=
    show (0 : Int) ≠ markersFlag by decide
  forwardProjects_tells definition accessFault hflags hchanges hsome hadded hremoved h

/-- The folders listener announces projects that were added or removed. -/
lemma receive_folders (react : List γ → Act γ Unit) {definition : Option Nat} {h : Host γ}
    (type : Int) {r : Resource} {kind : Int} {changes : ProjectChanges}
    {added removed : List String}
    (hdistinct : h.active.Nodup) (hnote : (⟨[], []⟩ : ProjectChanges).note r kind = changes)
    (hsome : (changes.added.isEmpty && changes.removed.isEmpty) = false)
    (hadded : Folders.addresses changes.added = .ok added)
    (hremoved : Folders.addresses changes.removed = .ok removed) :
    Announced (.folders (Folders.changeParams added removed)) (h.matching definition) h
      (Listener.receive react (.resource type (Delta.ofRoot 0 (.leaf r kind 0)))
        (.folders definition none) h).2 :=
  have hchanges := (changedProjects_ofRoot 0 r kind 0).trans (congrArg _ hnote)
  have hflags : (Delta.ofRoot 0 (.leaf r kind 0)).flags ≠ markersFlag :=
    show (0 : Int) ≠ markersFlag by decide
  receive_tells react type hdistinct hflags hchanges hsome hadded hremoved

end Host

end LanguageHost
