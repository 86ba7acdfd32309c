import LanguageHost.Proofs.Link

/-!
# What a change announces

A change of a preference or of the projects is made first, as `Change.edit` says, and then announced
to the linked sessions, if `Change.news` has something to announce. `Change.performed` shows that
this is all that happens, and `Host.Linked.of_performed` that the sessions stay linked.
-/

namespace LanguageHost

open Act Host

variable {γ : Type}

/-- A change that a user of the store and the workspace makes. -/
inductive Change where
  | set (key value : Text)
  | reset (key : Text)
  | create (name : String) (location : Path) (hidden isOpen : Bool)
  | delete (name : String)
  | setOpen (name : String) (isOpen : Bool)
  | touch (r : Resource)

namespace Change

/-- Makes a change and announces it. -/
def perform (react : List γ → Act γ Unit) (st ws : Nat) : Change → Act γ Unit
  | set key value => setPreference react st key value
  | reset key => resetPreference react st key
  | create name location hidden isOpen => do
    let _ ← createProject react ws name location hidden isOpen
  | delete name => do
    let _ ← deleteProject react ws name
  | setOpen name isOpen => setProjectOpen react ws name isOpen
  | touch r => touchMarkers react ws r

/-- The project that is created. -/
def project (location : Path) (hidden isOpen : Bool) (h : Host γ) : Project :=
  ⟨location.canonical h.platform.cwd, hidden, isOpen⟩

/-- The host in which a change is made and not yet announced. -/
def edit (st ws : Nat) (change : Change) (h : Host γ) : Host γ :=
  match change with
  | set key value => h.setStore st ((h.store st).write key value)
  | reset key => h.setStore st ((h.store st).write key ((h.store st).getDefault key))
  | create name location hidden isOpen =>
    match (h.workspace ws).create name (project location hidden isOpen h) with
    | .ok (_, w) => h.setWorkspace ws w
    | .error _ => h
  | delete name =>
    match (h.workspace ws).delete name with
    | .ok (_, w) => h.setWorkspace ws w
    | .error _ => h
  | setOpen name isOpen =>
    match (h.workspace ws).setOpen name isOpen with
    | .ok (some (_, w)) => h.setWorkspace ws w
    | _ => h
  | touch _ => h

/-- The settings that have to be announced when a key is set. -/
def settingsNews (st : Nat) (key value : Text) (h : Host γ) : Option Notice :=
  if key = schemaKey then
    ((h.store st).changeOf key value).map fun _ =>
      .configuration (Settings.build ((h.store st).write key value)).1
  else none

/-- What the sessions of the linked definition are told of a change. -/
def news (st ws : Nat) (change : Change) (h : Host γ) : Option Notice :=
  match change with
  | set key value => settingsNews st key value h
  | reset key => settingsNews st key ((h.store st).getDefault key) h
  | create name location hidden isOpen =>
    match (h.workspace ws).find? name with
    | none => some (.folders (Folders.changeParams
        [(project location hidden isOpen h).location.uri] []))
    | some _ => none
  | delete name =>
    ((h.workspace ws).find? name).map fun p =>
      .folders (Folders.changeParams [] [p.location.uri])
  | setOpen _ _ => none
  | touch _ => none

/-- A change is made, and the sessions of the linked definition are told the news if there are
any. Nothing else happens but that something may be noted. -/
structure Performed (d st ws : Nat) (change : Change) (h h' : Host γ) : Prop where
  silent : change.news st ws h = none → ∃ platform, h' = { change.edit st ws h with platform }
  told : ∀ notice, change.news st ws h = some notice → ∃ platform,
    Announced notice (h.matching (some d)) { change.edit st ws h with platform } h'
  cwd : h'.platform.cwd = h.platform.cwd

variable {d st ws : Nat} {h : Host γ}

lemma platform_edit (change : Change) (h : Host γ) :
    (change.edit st ws h).platform = h.platform := by
  cases change <;> simp only [edit]
  all_goals first | rfl | split <;> rfl

/-- A change that nobody is told of is only made. -/
lemma performed_quiet {change : Change} {h' : Host γ} (hquiet : change.news st ws h = none)
    (hmade : h' = change.edit st ws h) : Performed d st ws change h h' := by
  subst hmade
  refine ⟨fun _ => ⟨_, rfl⟩, fun notice hnotice => ?_, ?_⟩
  · rw [hquiet] at hnotice
    cases hnotice
  · rw [platform_edit]

/-- What listeners do never makes a publication fail. -/
lemma publish_fst (react : List γ → Act γ Unit) (service topic : String) (event : Event)
    (subscribers : List Nat) (h : Host γ) :
    (publish react service topic event subscribers h).1 = .ok () :=
  congrArg Prod.fst (Bus.deliver_eq _ _ subscribers h)

lemma bus_write (key value : Text) (store : PreferenceStore) :
    (store.write key value).bus = store.bus := by
  unfold PreferenceStore.write
  split <;> rfl

lemma key_changeOf {key value : Text} {store : PreferenceStore} {change : PreferenceChange}
    (hchange : store.changeOf key value = some change) : change.key = key := by
  simp only [PreferenceStore.changeOf] at hchange
  split at hchange
  · cases hchange
  · cases hchange
    rfl

lemma performed_setPreference (react : List γ → Act γ Unit) (hsub : Subscribed d st ws h)
    (key value : Text) :
    Performed d st ws (.set key value) h (setPreference react st key value h).2 := by
  obtain ⟨n, hlistener, hsubscribed⟩ := hsub.settings
  set h₁ := h.setStore st ((h.store st).write key value) with hh₁
  have hstore : h₁.store st = (h.store st).write key value := by
    rw [hh₁, store_setStore, if_pos ⟨rfl, hsub.store⟩]
  unfold setPreference
  rw [get_bind, modify_bind, ← hh₁]
  rcases hchange : (h.store st).changeOf key value with _ | change
  · exact performed_quiet (by simp [news, settingsNews, hchange]) rfl
  · have hbus : (h₁.store st).bus.subscribers preferenceTopic = [n] := by
      rw [hstore, bus_write, hsubscribed]
    have hpublished := publish_single react "preferences.bus" preferenceTopic (.preference change)
      (h := h₁) hlistener (guarded_fst h₁ fun _ _ => rfl)
    dsimp only
    rw [get_bind, hbus, hpublished]
    by_cases hkey : key = schemaKey
    · have hchanged : change.key = schemaKey := (key_changeOf hchange).trans hkey
      have htold := receive_settings react d st (h := h₁) hchanged hsub.distinct
      refine ⟨fun hnews => ?_, fun notice hnews => ⟨h₁.platform, ?_⟩, htold.cwd⟩
      · simp only [news, settingsNews, if_pos hkey, Option.map_eq_none_iff] at hnews
        rw [hnews] at hchange
        cases hchange
      · simp only [news, settingsNews, hchange, if_pos hkey, Option.map_some, Option.some.injEq]
          at hnews
        rw [← hnews, ← hstore]
        exact htold
    · have hchanged : change.key ≠ schemaKey := fun hsame =>
        hkey ((key_changeOf hchange).symm.trans hsame)
      rw [receive_settings_other react hchanged]
      exact performed_quiet (by simp [news, settingsNews, hkey]) rfl

lemma performed_resetPreference (react : List γ → Act γ Unit) (hsub : Subscribed d st ws h)
    (key : Text) : Performed d st ws (.reset key) h (resetPreference react st key h).2 := by
  obtain ⟨hsilent, htold, hcwd⟩ :=
    performed_setPreference react hsub key ((h.store st).getDefault key)
  exact ⟨hsilent, htold, hcwd⟩

/-- A delta goes to the folders listener. -/
lemma announce_run (react : List γ → Act γ Unit) (hsub : Subscribed d st ws h) (h₁ : Host γ)
    (hlisteners : h₁.listeners = h.listeners)
    (hbus : (h₁.workspace ws).bus = (h.workspace ws).bus) (delta : Delta) (rootFlags : Int) :
    (announce react ws delta rootFlags h₁).2 =
      (Listener.receive react (.resource postChange (Delta.ofRoot rootFlags delta))
        (.folders (some d) none) h₁).2 := by
  obtain ⟨n, hlistener, hsubscribed⟩ := hsub.folders
  rw [← hlisteners] at hlistener
  unfold announce
  rw [get_bind, hbus, hsubscribed]
  exact publish_single react "workspace.bus" (resourceTopic postChange)
    (.resource postChange (Delta.ofRoot rootFlags delta)) hlistener
    (guarded_fst h₁ fun _ _ => rfl)

lemma note_added (r : Resource) (hr : r.type = .project) :
    (⟨[], []⟩ : ProjectChanges).note r addedKind = ⟨[r], []⟩ := by
  simp [ProjectChanges.note, hr]

lemma note_removed (r : Resource) (hr : r.type = .project) :
    (⟨[], []⟩ : ProjectChanges).note r removedKind = ⟨[], [r]⟩ := by
  simp [ProjectChanges.note, hr, addedKind, removedKind]

/-- After the table of projects was changed, a project that was added or removed is announced. -/
lemma announced_project (react : List γ → Act γ Unit) (hsub : Subscribed d st ws h) {w : Workspace}
    (hbus : w.bus = (h.workspace ws).bus) (platform : Platform) {r : Resource} {kind : Int}
    {changes : ProjectChanges} {added removed : List String}
    (hnote : (⟨[], []⟩ : ProjectChanges).note r kind = changes)
    (hsome : (changes.added.isEmpty && changes.removed.isEmpty) = false)
    (hadded : Folders.addresses changes.added = .ok added)
    (hremoved : Folders.addresses changes.removed = .ok removed) :
    Announced (.folders (Folders.changeParams added removed)) (h.matching (some d))
      { h.setWorkspace ws w with platform }
      (announce react ws (.leaf r kind 0) 0 { h.setWorkspace ws w with platform }).2 := by
  set h₁ : Host γ := { h.setWorkspace ws w with platform } with hh₁
  have hworkspace : h₁.workspace ws = w := by
    have hset := workspace_setWorkspace ws ws w h
    rwa [if_pos ⟨rfl, hsub.workspace⟩] at hset
  have hbus₁ : (h₁.workspace ws).bus = (h.workspace ws).bus := by rw [hworkspace, hbus]
  rw [announce_run react hsub h₁ rfl hbus₁]
  exact receive_folders react _ (h := h₁) hsub.distinct hnote hsome hadded hremoved

lemma performed_createProject (react : List γ → Act γ Unit) (hsub : Subscribed d st ws h)
    (name : String) (location : Path) (hidden isOpen : Bool) :
    Performed d st ws (.create name location hidden isOpen) h
      (createProject react ws name location hidden isOpen h).2 := by
  set p := project location hidden isOpen h with hp
  unfold createProject
  rw [get_bind]
  change Performed d st ws _ h ((Act.ofProblem ((h.workspace ws).create name p) >>= _) h).2
  rcases hfind : (h.workspace ws).find? name with _ | old
  · set w : Workspace := { h.workspace ws with
      projects := (h.workspace ws).projects ++ [(name, p)] } with hw
    have hcreate : (h.workspace ws).create name p =
        .ok (.leaf (p.resource name) addedKind 0, w) := by
      rw [Workspace.create, hfind]
    have hedit : edit st ws (.create name location hidden isOpen) h = h.setWorkspace ws w := by
      rw [edit, ← hp, hcreate]
    have hnews : news st ws (.create name location hidden isOpen) h =
        some (.folders (Folders.changeParams [p.location.uri] [])) := by
      rw [news, hfind, ← hp]
    rw [hcreate]
    set logged := (h.setWorkspace ws w).log "workspace" .info "Project added"
      [("project", name), ("location", p.location.text)]
    have hannounced := announced_project react hsub (w := w) rfl logged.platform
      (note_added (p.resource name) rfl) rfl (Folders.addresses_project name p) rfl
    change Performed d st ws _ h ((announce react ws (.leaf (p.resource name) addedKind 0) 0 >>=
      fun _ => pure (p.resource name)) logged).2
    rw [bind_pure_snd]
    refine ⟨fun hnone => ?_, fun notice hnotice => ?_,
      hannounced.cwd.trans (Platform.cwd_log _ _ _ _ h.platform)⟩
    · rw [hnews] at hnone
      cases hnone
    · rw [hnews] at hnotice
      cases hnotice
      rw [hedit]
      exact ⟨logged.platform, hannounced⟩
  · have hcreate : (h.workspace ws).create name p = .error (.projectExists name) := by
      rw [Workspace.create, hfind]
    have hedit : edit st ws (.create name location hidden isOpen) h = h := by
      rw [edit, ← hp, hcreate]
    have hnews : news st ws (.create name location hidden isOpen) h = none := by
      rw [news, hfind]
    rw [hcreate]
    exact performed_quiet hnews hedit.symm

lemma performed_deleteProject (react : List γ → Act γ Unit) (hsub : Subscribed d st ws h)
    (name : String) :
    Performed d st ws (.delete name) h (deleteProject react ws name h).2 := by
  unfold deleteProject
  rw [get_bind]
  rcases hfind : (h.workspace ws).find? name with _ | p
  · have hdelete : (h.workspace ws).delete name = .error (.projectUnknown name) := by
      rw [Workspace.delete, Workspace.require, hfind]
    have hedit : edit st ws (.delete name) h = h := by
      rw [edit, hdelete]
    have hnews : news st ws (.delete name) h = none := by
      rw [news, hfind]
      rfl
    rw [hdelete]
    exact performed_quiet hnews hedit.symm
  · set w : Workspace := { h.workspace ws with
      projects := dropMember name (h.workspace ws).projects } with hw
    have hdelete : (h.workspace ws).delete name =
        .ok (.leaf (p.resource name) removedKind 0, w) := by
      rw [Workspace.delete, Workspace.require, hfind]
    have hedit : edit st ws (.delete name) h = h.setWorkspace ws w := by
      rw [edit, hdelete]
    have hnews : news st ws (.delete name) h =
        some (.folders (Folders.changeParams [] [p.location.uri])) := by
      rw [news, hfind]
      rfl
    rw [hdelete]
    set logged := (h.setWorkspace ws w).log "workspace" .info "Project removed"
      [("project", name)]
    have hannounced := announced_project react hsub (w := w) rfl logged.platform
      (note_removed (p.resource name) rfl) rfl rfl (Folders.addresses_project name p)
    change Performed d st ws _ h ((announce react ws (.leaf (p.resource name) removedKind 0) 0 >>=
      fun _ => pure (p.resource name)) logged).2
    rw [bind_pure_snd]
    refine ⟨fun hnone => ?_, fun notice hnotice => ?_,
      hannounced.cwd.trans (Platform.cwd_log _ _ _ _ h.platform)⟩
    · rw [hnews] at hnone
      cases hnone
    · rw [hnews] at hnotice
      cases hnotice
      rw [hedit]
      exact ⟨logged.platform, hannounced⟩

lemma performed_setProjectOpen (react : List γ → Act γ Unit) (hsub : Subscribed d st ws h)
    (name : String) (isOpen : Bool) :
    Performed d st ws (.setOpen name isOpen) h (setProjectOpen react ws name isOpen h).2 := by
  refine performed_quiet rfl ?_
  unfold setProjectOpen
  rw [get_bind]
  rcases hfind : (h.workspace ws).find? name with _ | p
  · have hset : (h.workspace ws).setOpen name isOpen = .error (.projectUnknown name) := by
      rw [Workspace.setOpen, Workspace.require, hfind]
    rw [edit, hset]
    rfl
  · by_cases hsame : p.isOpen = isOpen
    · have hset : (h.workspace ws).setOpen name isOpen = .ok none := by
        rw [Workspace.setOpen, Workspace.require, hfind]
        exact if_pos hsame
      rw [edit, hset]
      rfl
    · set changed : Project := { p with isOpen } with hchanged
      set w : Workspace := { h.workspace ws with
        projects := putMember name changed (h.workspace ws).projects } with hw
      have hset : (h.workspace ws).setOpen name isOpen =
          .ok (some (.leaf (changed.resource name) changedKind openFlag, w)) := by
        rw [Workspace.setOpen, Workspace.require, hfind]
        exact if_neg hsame
      rw [edit, hset]
      have hworkspace : ((h.setWorkspace ws w).workspace ws).bus = (h.workspace ws).bus := by
        rw [workspace_setWorkspace, if_pos ⟨rfl, hsub.workspace⟩]
      change (announce react ws (.leaf (changed.resource name) changedKind openFlag) 0
        (h.setWorkspace ws w)).2 = _
      rw [announce_run react hsub (h.setWorkspace ws w) rfl hworkspace]
      exact receive_folders_other react _ _ (Or.inr rfl)

/-- **A change is made, and told to the linked sessions.** -/
theorem performed (react : List γ → Act γ Unit) (hsub : Subscribed d st ws h) (change : Change) :
    Performed d st ws change h (change.perform react st ws h).2 := by
  cases change with
  | set key value => exact performed_setPreference react hsub key value
  | reset key => exact performed_resetPreference react hsub key
  | create name location hidden isOpen =>
    rw [perform, bind_pure_snd]
    exact performed_createProject react hsub name location hidden isOpen
  | delete name =>
    rw [perform, bind_pure_snd]
    exact performed_deleteProject react hsub name
  | setOpen name isOpen => exact performed_setProjectOpen react hsub name isOpen
  | touch r =>
    refine performed_quiet rfl ?_
    change (announce react ws (.leaf r changedKind markersFlag) markersFlag h).2 = h
    rw [announce_run react hsub h rfl rfl]
    exact receive_folders_other react _ _ (Or.inl rfl)

/-! ## What a change leaves as it is -/

/-- Only what a store and a workspace hold differs in two hosts. -/
structure Edited (st ws : Nat) (h h' : Host γ) : Prop where
  sessions : h'.sessions = h.sessions
  active : h'.active = h.active
  sent : h'.sent = h.sent
  listeners : h'.listeners = h.listeners
  stores : h'.stores.length = h.stores.length
  workspaces : h'.workspaces.length = h.workspaces.length
  storeBus : (h'.store st).bus = (h.store st).bus
  workspaceBus : (h'.workspace ws).bus = (h.workspace ws).bus

lemma Edited.refl (st ws : Nat) (h : Host γ) : Edited st ws h h :=
  ⟨rfl, rfl, rfl, rfl, rfl, rfl, rfl, rfl⟩

lemma Edited.session {h' : Host γ} (a : Edited st ws h h') (n : Nat) :
    h'.session n = h.session n := by
  rw [Host.session, Host.session, a.sessions]

lemma Edited.said {h' : Host γ} (a : Edited st ws h h') (n : Nat) : h'.said n = h.said n := by
  rw [Host.said, Host.said, a.sent]

lemma edited_write (key value : Text) :
    Edited st ws h (h.setStore st ((h.store st).write key value)) := by
  refine ⟨rfl, rfl, rfl, rfl, by simp [setStore], rfl, ?_, rfl⟩
  rw [store_setStore]
  split
  · exact bus_write key value _
  · rfl

lemma edited_setWorkspace {w : Workspace} (hbus : w.bus = (h.workspace ws).bus) :
    Edited st ws h (h.setWorkspace ws w) := by
  refine ⟨rfl, rfl, rfl, rfl, rfl, by simp [setWorkspace], rfl, ?_⟩
  rw [workspace_setWorkspace]
  split
  · exact hbus
  · rfl

theorem edited (st ws : Nat) (change : Change) (h : Host γ) :
    Edited st ws h (change.edit st ws h) := by
  cases change with
  | set key value => exact edited_write key value
  | reset key => exact edited_write key _
  | create name location hidden isOpen =>
    rw [edit, Workspace.create]
    cases (h.workspace ws).find? name with
    | none => exact edited_setWorkspace rfl
    | some p => exact .refl st ws h
  | delete name =>
    rw [edit, Workspace.delete, Workspace.require]
    cases (h.workspace ws).find? name with
    | none => exact .refl st ws h
    | some p => exact edited_setWorkspace rfl
  | setOpen name isOpen =>
    rw [edit, Workspace.setOpen, Workspace.require]
    cases (h.workspace ws).find? name with
    | none => exact .refl st ws h
    | some p =>
      dsimp only
      by_cases hsame : p.isOpen = isOpen
      · rw [if_pos hsame]
        exact .refl st ws h
      · rw [if_neg hsame]
        exact edited_setWorkspace rfl
  | touch r => exact .refl st ws h

namespace Performed

variable {change : Change} {h' : Host γ}

lemma undisturbed (a : Performed d st ws change h h') : Undisturbed (change.edit st ws h) h' := by
  rcases hnews : change.news st ws h with _ | notice
  · obtain ⟨platform, rfl⟩ := a.silent hnews
    exact undisturbed_platform _ platform
  · obtain ⟨platform, htold⟩ := a.told notice hnews
    exact (undisturbed_platform _ platform).trans htold.undisturbed

lemma ends (a : Performed d st ws change h h') (n : Nat) :
    Session.SameEnd (h.session n) (h'.session n) := by
  rw [← (edited st ws change h).session n]
  rcases hnews : change.news st ws h with _ | notice
  · obtain ⟨platform, rfl⟩ := a.silent hnews
    exact .refl _
  · obtain ⟨platform, htold⟩ := a.told notice hnews
    exact htold.ends n

lemma active (a : Performed d st ws change h h') : h'.active = h.active := by
  rw [← (edited st ws change h).active]
  rcases hnews : change.news st ws h with _ | notice
  · obtain ⟨platform, rfl⟩ := a.silent hnews
    rfl
  · obtain ⟨platform, htold⟩ := a.told notice hnews
    exact htold.active

lemma said_grows (a : Performed d st ws change h h') (n : Nat) :
    ∃ l, h'.said n = h.said n ++ l := by
  have hsaid := (edited st ws change h).said n
  rcases hnews : change.news st ws h with _ | notice
  · obtain ⟨platform, rfl⟩ := a.silent hnews
    exact ⟨[], by rw [List.append_nil]; exact hsaid⟩
  · obtain ⟨platform, htold⟩ := a.told notice hnews
    obtain ⟨l, hl, -⟩ := htold.said n
    exact ⟨l, hl.trans (congrArg (· ++ l) hsaid)⟩

end Performed

end Change

namespace Host

variable {d st ws : Nat} {h h' : Host γ}

lemma Subscribed.of_edited (hsub : Subscribed d st ws h) (a : Change.Edited st ws h h') :
    Subscribed d st ws h' := by
  refine ⟨a.stores ▸ hsub.store, a.workspaces ▸ hsub.workspace, ?_, ?_, ?_⟩
  · rw [a.listeners, a.storeBus]
    exact hsub.settings
  · rw [a.listeners, a.workspaceBus]
    exact hsub.folders
  · rw [a.active]
    exact hsub.distinct

/-- Who is subscribed stays subscribed as long as nothing is disturbed. -/
lemma Subscribed.transport (hsub : Subscribed d st ws h) (hu : Undisturbed h h')
    (hdistinct : h'.active.Nodup) : Subscribed d st ws h' := by
  refine ⟨hu.stores ▸ hsub.store, hu.workspaces ▸ hsub.workspace, ?_, ?_, hdistinct⟩
  · rw [hu.listeners, hu.store]
    exact hsub.settings
  · rw [hu.listeners, hu.workspace]
    exact hsub.folders

/-- The listeners stay subscribed when a change is made. -/
theorem Subscribed.of_performed {change : Change} (hsub : Subscribed d st ws h)
    (a : Change.Performed d st ws change h h') : Subscribed d st ws h' := by
  refine (hsub.of_edited (Change.edited st ws change h)).transport a.undisturbed ?_
  rw [a.active]
  exact hsub.distinct

lemma Linked.of_edited (hlinked : Linked d st ws h) (a : Change.Edited st ws h h') :
    Linked d st ws h' := by
  refine ⟨hlinked.toSubscribed.of_edited a, fun n => ?_⟩
  rw [a.session]
  exact hlinked.seeds n

/-- What is linked stays linked as long as nothing is disturbed. -/
lemma Linked.transport (hlinked : Linked d st ws h) (hu : Undisturbed h h')
    (hseeds : Seeds d st ws h') (hdistinct : h'.active.Nodup) : Linked d st ws h' :=
  ⟨hlinked.toSubscribed.transport hu hdistinct, hseeds⟩

/-- Sessions that talk stay linked. -/
lemma Linked.of_undisturbed (hlinked : Linked d st ws h) (hu : Undisturbed h h')
    (hends : ∀ n, Session.SameEnd (h.session n) (h'.session n)) (hdistinct : h'.active.Nodup) :
    Linked d st ws h' := by
  refine hlinked.transport hu (fun n hdefinition hopen => ?_) hdistinct
  rw [(hends n).hook]
  exact hlinked.seeds n ((hends n).definition.symm.trans hdefinition)
    ((hends n).endpoint.symm.trans hopen)

lemma Linked.of_talk {joins : Bool} {n : Nat} {l : List Sent} (hlinked : Linked d st ws h)
    (a : Talk joins n h h' l) : Linked d st ws h' :=
  hlinked.of_undisturbed a.undisturbed a.sameEnd (a.nodup hlinked.distinct)

/-- What is linked stays linked when a change is made. -/
theorem Linked.of_performed {change : Change} (hlinked : Linked d st ws h)
    (a : Change.Performed d st ws change h h') : Linked d st ws h' := by
  refine ⟨hlinked.toSubscribed.of_performed a, fun n hdefinition hopen => ?_⟩
  rw [(a.ends n).hook]
  exact hlinked.seeds n ((a.ends n).definition.symm.trans hdefinition)
    ((a.ends n).endpoint.symm.trans hopen)

end Host

end LanguageHost
