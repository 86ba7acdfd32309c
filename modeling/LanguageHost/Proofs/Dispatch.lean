import LanguageHost.Proofs.Coherence

/-!
# What is dispatched to each session

While an adapter runs, changes are made, and sessions are registered and taken from the registered
ones in between, at any time and any number of times. `Host.due` is what is due to one session of
the definition on the way: for each change that is made while the session is registered, the
settings if the schema preference now shows another text, and the folder of a project that was
created or deleted. It is read off the results of the changes, and not off what listeners do.

The session hears what is due to it, once and in order, as far as it can be told; sessions of other
definitions hear nothing. What is due depends on the store, the workspace and the session's own
coming and going, so no other session makes a difference to what one session hears.
-/

namespace LanguageHost

open Act Host

variable {γ : Type} {d st ws n : Nat} {h h' h'' : Host γ}

/-- What happens while an adapter runs. A session may be registered again while it is registered,
and taken away while it is not. -/
inductive Occasion where
  | change (change : Change)
  | enter (n : Nat)
  | leave (n : Nat)

namespace Occasion

/-- The host after an occasion. A change that fails leaves a host behind all the same. -/
def perform (react : List γ → Act γ Unit) (st ws : Nat) : Occasion → Host γ → Host γ
  | change c, h => (c.perform react st ws h).2
  | enter n, h => h.register n
  | leave n, h => h.unregister n

/-- The occasion is a change, or a coming or going of this session. -/
def concerns (n : Nat) : Occasion → Bool
  | change _ => true
  | enter m => m = n
  | leave m => m = n

end Occasion

/-- What the registered sessions of the definition are owed for a change: settings if the schema
preference shows another text than before, and the folder of a project that was created or
deleted. -/
def Change.owed (react : List γ → Act γ Unit) (st ws : Nat) (change : Change) (h : Host γ) :
    List Notice :=
  let made := change.perform react st ws h
  match change with
  | set _ _ | reset _ =>
    if (made.2.store st).get schemaKey = (h.store st).get schemaKey then []
    else [.configuration (Settings.build (made.2.store st)).1]
  | create _ location hidden isOpen =>
    if made.1.isOk then
      [.folders (Folders.changeParams [(project location hidden isOpen h).location.uri] [])]
    else []
  | delete name =>
    if made.1.isOk then
      ((h.workspace ws).find? name).toList.map fun p =>
        .folders (Folders.changeParams [] [p.location.uri])
    else []
  | setOpen _ _ | touch _ => []

/-- What an occasion owes. -/
def Occasion.owed (react : List γ → Act γ Unit) (st ws : Nat) : Occasion → Host γ → List Notice
  | change c, h => c.owed react st ws h
  | enter _, _ => []
  | leave _, _ => []

/-- Those of some notices that the session can tell its server. -/
def Session.tellable (notices : List Notice) (s : Session) : List Notice :=
  notices.filter fun notice => s.takes notice.word

lemma Session.SameEnd.tellable {s s' : Session} (a : SameEnd s s') (notices : List Notice) :
    s'.tellable notices = s.tellable notices := by
  simp only [Session.tellable, a.takes]

/-- The settings and folders that a stream brings. -/
def tidings (l : List Sent) : List Notice :=
  (l.filter Sent.informs).filterMap Sent.notice?

namespace Host

/-- The host after some occasions. -/
def proceed (react : List γ → Act γ Unit) (st ws : Nat) (occasions : List Occasion) (h : Host γ) :
    Host γ :=
  occasions.foldl (fun h occasion => occasion.perform react st ws h) h

/-- What is due to a session on some occasions, as it is registered or not. -/
def due (react : List γ → Act γ Unit) (st ws n : Nat) : List Occasion → Host γ → List Notice
  | [], _ => []
  | occasion :: rest, h =>
    (if n ∈ h.active then occasion.owed react st ws h else []) ++
      due react st ws n rest (occasion.perform react st ws h)

/-- From one host to another a session hears these notices and nothing else. A stand-in is sent
nothing but them. Over a wire they are the settings and folders that are sent, unless the server
makes the session shake hands with it on the way. -/
def Receives (n : Nat) (notices : List Notice) (h h' : Host γ) : Prop :=
  ∃ l, h'.said n = h.said n ++ l ∧
    (h'.greetings n = h.greetings n → tidings l = notices) ∧
    ((h.session n).isWired = false → l.map Sent.notice? = notices.map some)

/-- What a store, a workspace and the machine mean to the sessions that are linked to them. -/
structure Outline where
  shown : Text → Text
  defaults : Text → Text
  projects : List (String × Project)
  cwd : Path

/-- The outline of a host for a store and a workspace in it. -/
def outline (st ws : Nat) (h : Host γ) : Outline where
  shown key := (h.store st).get key
  defaults key := (h.store st).getDefault key
  projects := (h.workspace ws).projects
  cwd := h.platform.cwd

/-! ## Hearing a notice -/

lemma Receives.trans {notices notices' : List Notice} (a : Receives n notices h h')
    (b : Receives n notices' h' h'')
    (hwired : (h'.session n).isWired = (h.session n).isWired) :
    Receives n (notices ++ notices') h h'' := by
  obtain ⟨l, hl, htold, hkept⟩ := a
  obtain ⟨l', hl', htold', hkept'⟩ := b
  refine ⟨l ++ l', by rw [hl', hl, List.append_assoc], fun hsame => ?_, fun hw => ?_⟩
  · -- no greeting in both parts together means none in either
    have hfirst : h'.greetings n = h.greetings n + l.countP Sent.starts := by
      rw [greetings, greetings, hl, List.countP_append]
    have hsecond : h''.greetings n = h'.greetings n + l'.countP Sent.starts := by
      rw [greetings, greetings, hl', List.countP_append]
    have hl₀ : tidings l = notices := htold (by omega)
    have hl₁ : tidings l' = notices' := htold' (by omega)
    rw [tidings, List.filter_append, List.filterMap_append]
    exact congrArg₂ (· ++ ·) hl₀ hl₁
  · rw [List.map_append, List.map_append, hkept hw, hkept' (hwired.trans hw)]

lemma Receives.of_said (hsaid : h'.said n = h.said n) : Receives n [] h h' :=
  ⟨[], by rw [hsaid, List.append_nil], fun _ => rfl, fun _ => rfl⟩

/-- The news of a change are settings or folders. -/
lemma informs_of_news {change : Change} {notice : Notice}
    (hnews : change.news st ws h = some notice) : (Sent.notice notice).informs = true := by
  have hsettings : ∀ {key value}, Change.settingsNews st key value h = some notice →
      (Sent.notice notice).informs = true := by
    intro key value hsome
    rw [Change.settingsNews] at hsome
    split at hsome
    · obtain ⟨-, -, rfl⟩ := Option.map_eq_some_iff.1 hsome
      rfl
    · cases hsome
  cases change with
  | set key value => exact hsettings hnews
  | reset key => exact hsettings hnews
  | create name location hidden isOpen =>
    rw [Change.news] at hnews
    split at hnews
    · cases hnews
      rfl
    · cases hnews
  | delete name =>
    obtain ⟨p, -, rfl⟩ := Option.map_eq_some_iff.1 hnews
    rfl
  | setOpen name isOpen => cases hnews
  | touch r => cases hnews

/-- A session that is told a notice of settings or folders hears it, if it can be told. -/
lemma Hears.receives {notice : Notice} {recipients : List Nat} {l : List Sent}
    (hears : Hears notice recipients h n l) (hsaid : h'.said n = h.said n ++ l)
    (hinforms : (Sent.notice notice).informs = true) :
    Receives n ((h.session n).tellable (if n ∈ recipients then [notice] else [])) h h' := by
  by_cases htold : n ∈ recipients ∧ (h.session n).takes notice.word = true
  · obtain ⟨hmem, htakes⟩ := htold
    obtain ⟨x, rest, rfl, hx, hopened, hrest⟩ := hears.told hmem htakes
    have hnotices : (h.session n).tellable (if n ∈ recipients then [notice] else []) =
        [notice] := by
      simp [Session.tellable, hmem, htakes]
    have hxi : x.informs = true := by
      rw [← hinforms, Sent.informs, Sent.informs, Sent.settings?, Sent.settings?, Sent.folders?,
        Sent.folders?, hx]
      rfl
    rw [hnotices]
    refine ⟨x :: rest, hsaid, fun hsame => ?_, fun hwired => ?_⟩
    · -- behind the notice there is only what nobody calls news
      have hstarts := unstarted_of_greetings hsaid hsame
      rw [List.any_cons, Bool.or_eq_false_iff] at hstarts
      have hsilent : rest.filter Sent.informs = [] :=
        List.filter_eq_nil_iff.2 fun y hy => by simp [hopened.unheard hstarts.2 y hy]
      rw [tidings, List.filter_cons_of_pos hxi, hsilent, List.filterMap_cons_some hx]
      rfl
    · rw [hrest hwired, List.map_singleton, hx]
      rfl
  · have hnone : l = [] := hears.quiet (by
      by_cases hmem : n ∈ recipients
      · exact Or.inr (Bool.eq_false_iff.2 fun ht => htold ⟨hmem, ht⟩)
      · exact Or.inl hmem)
    have hnotices : (h.session n).tellable (if n ∈ recipients then [notice] else []) = [] := by
      simpa [Session.tellable] using not_and.1 htold
    rw [hnotices]
    exact .of_said (by rw [hsaid, hnone, List.append_nil])

end Host

namespace Change

/-- A registered session of the definition hears the news of a change, if it can be told. -/
lemma Performed.receives {change : Change} (a : Performed d st ws change h h')
    (hdefinition : (h.session n).definition = some d) :
    Receives n ((h.session n).tellable
      (if n ∈ h.active then (change.news st ws h).toList else [])) h h' := by
  have hedited := edited st ws change h
  rcases hnews : change.news st ws h with _ | notice
  · obtain ⟨platform, rfl⟩ := a.silent hnews
    rw [Option.toList_none, ite_self]
    exact .of_said (hedited.said n)
  · obtain ⟨platform, htold⟩ := a.told notice hnews
    obtain ⟨l, hl, hears⟩ := htold.said n
    have hsession : ({ change.edit st ws h with platform } : Host γ).session n = h.session n :=
      hedited.session n
    have hsaid : ({ change.edit st ws h with platform } : Host γ).said n = h.said n :=
      hedited.said n
    have hmatching : (n ∈ h.matching (some d)) ↔ n ∈ h.active := by
      rw [mem_matching, and_iff_left hdefinition]
    have hreceives := hears.receives hl (informs_of_news hnews)
    rw [hsession] at hreceives
    simp only [hmatching] at hreceives
    obtain ⟨l', hl', htold', hkept'⟩ := hreceives
    rw [Receives, ← hsaid]
    refine ⟨l', hl', fun hsame => htold' ?_, fun hwired => hkept' ?_⟩
    · rw [hsame, greetings, greetings, hsaid]
    · rw [hsession, hwired]

/-- A session of another definition hears nothing of a change. -/
lemma Performed.unheard {change : Change} (a : Performed d st ws change h h')
    (hdefinition : (h.session n).definition ≠ some d) : h'.said n = h.said n := by
  have hedited := edited st ws change h
  rcases hnews : change.news st ws h with _ | notice
  · obtain ⟨platform, rfl⟩ := a.silent hnews
    exact hedited.said n
  · obtain ⟨platform, htold⟩ := a.told notice hnews
    obtain ⟨l, hl, hears⟩ := htold.said n
    have hnone : l = [] := hears.quiet (Or.inl fun hmem => hdefinition (mem_matching.1 hmem).2)
    rw [hl, hnone, List.append_nil]
    exact hedited.said n

/-! ## What a change owes -/

lemma announce_fst (react : List γ → Act γ Unit) (ws : Nat) (delta : Delta) (rootFlags : Int)
    (h : Host γ) : (announce react ws delta rootFlags h).1 = .ok () := by
  unfold announce
  rw [get_bind]
  exact publish_fst react _ _ _ _ h

/-- A project is created exactly if there is none of its name. -/
lemma isOk_create (react : List γ → Act γ Unit) (st ws : Nat) (name : String) (location : Path)
    (hidden isOpen : Bool) (h : Host γ) :
    ((create name location hidden isOpen).perform react st ws h).1.isOk =
      ((h.workspace ws).find? name).isNone := by
  set p := project location hidden isOpen h with hp
  rw [perform, isOk_bind_pure]
  unfold createProject
  rw [get_bind]
  change ((Act.ofProblem ((h.workspace ws).create name p) >>= _) h).1.isOk = _
  rw [Workspace.create]
  rcases (h.workspace ws).find? name with _ | old
  · exact (isOk_bind_pure _ _ _).trans (congrArg Except.isOk (announce_fst react ws _ 0 _))
  · rfl

/-- A project is deleted exactly if there is one of its name. -/
lemma isOk_delete (react : List γ → Act γ Unit) (st ws : Nat) (name : String) (h : Host γ) :
    ((delete name).perform react st ws h).1.isOk = ((h.workspace ws).find? name).isSome := by
  rw [perform, isOk_bind_pure]
  unfold deleteProject
  rw [get_bind, Workspace.delete, Workspace.require]
  rcases (h.workspace ws).find? name with _ | p
  · rfl
  · exact (isOk_bind_pure _ _ _).trans (congrArg Except.isOk (announce_fst react ws _ 0 _))

/-- Whether the schema preference shows another text after a key was set is what the store looks
at. -/
lemma settings_owed (h : Host γ) (st : Nat) (key value : Text) :
    (if ((h.store st).write key value).get schemaKey = (h.store st).get schemaKey then []
      else [.configuration (Settings.build ((h.store st).write key value)).1]) =
      (settingsNews st key value h).toList := by
  rw [settingsNews, PreferenceStore.get_write]
  by_cases hkey : key = schemaKey
  · subst hkey
    rw [if_pos rfl, if_pos rfl]
    simp only [PreferenceStore.changeOf]
    by_cases hsame : (h.store st).get schemaKey = value
    · rw [if_pos hsame.symm, if_pos hsame]
      rfl
    · rw [if_neg (Ne.symm hsame), if_neg hsame]
      rfl
  · rw [if_neg hkey, if_pos rfl, if_neg hkey]
    rfl

/-- What is owed for a change, as it shows in its results, is the news of it. -/
theorem owed_eq (react : List γ → Act γ Unit) (hsub : Subscribed d st ws h) (change : Change) :
    change.owed react st ws h = (change.news st ws h).toList := by
  have hstore : ∀ key value, change.edit st ws h = h.setStore st ((h.store st).write key value) →
      (change.perform react st ws h).2.store st = (h.store st).write key value := by
    intro key value hedit
    rw [(performed react hsub change).undisturbed.store, hedit, store_setStore,
      if_pos ⟨rfl, hsub.store⟩]
  cases change with
  | set key value =>
    rw [owed, news, ← settings_owed, hstore key value rfl]
  | reset key =>
    rw [owed, news, ← settings_owed, hstore key _ rfl]
  | create name location hidden isOpen =>
    simp only [owed, news, isOk_create]
    cases (h.workspace ws).find? name <;> rfl
  | delete name =>
    simp only [owed, news, isOk_delete]
    cases (h.workspace ws).find? name <;> rfl
  | setOpen name isOpen => rfl
  | touch r => rfl

end Change

namespace Host

/-! ## Outlines -/

lemma outline_write (hst : st < h.stores.length) (key value : Text) :
    (h.setStore st ((h.store st).write key value)).outline st ws =
      { h.outline st ws with
        shown := fun other => if key = other then value else (h.outline st ws).shown other } := by
  have hstore : (h.setStore st ((h.store st).write key value)).store st =
      (h.store st).write key value := by
    rw [store_setStore, if_pos ⟨rfl, hst⟩]
  simp only [outline, hstore, PreferenceStore.get_write, PreferenceStore.getDefault_write]
  rfl

lemma outline_setWorkspace (hws : ws < h.workspaces.length) (w : Workspace) :
    (h.setWorkspace ws w).outline st ws = { h.outline st ws with projects := w.projects } := by
  have hworkspace : (h.setWorkspace ws w).workspace ws = w := by
    rw [workspace_setWorkspace, if_pos ⟨rfl, hws⟩]
  simp only [outline, hworkspace]
  rfl

lemma find?_outline (hsame : h'.outline st ws = h.outline st ws) (name : String) :
    (h'.workspace ws).find? name = (h.workspace ws).find? name := by
  have hprojects : (h'.workspace ws).projects = (h.workspace ws).projects :=
    congrArg Outline.projects hsame
  rw [Workspace.find?, Workspace.find?, hprojects]

/-- Where two hosts have one outline, so they have after a change is made in both. -/
lemma outline_edit (hsub : Subscribed d st ws h) (hsub' : Subscribed d st ws h')
    (hsame : h'.outline st ws = h.outline st ws) (change : Change) :
    (change.edit st ws h').outline st ws = (change.edit st ws h).outline st ws := by
  have hprojects : (h'.workspace ws).projects = (h.workspace ws).projects :=
    congrArg Outline.projects hsame
  have hfind := find?_outline hsame
  cases change with
  | set key value =>
    rw [Change.edit, Change.edit, outline_write hsub.store, outline_write hsub'.store, hsame]
  | reset key =>
    have hdefault : (h'.store st).getDefault key = (h.store st).getDefault key :=
      congrFun (congrArg Outline.defaults hsame) key
    rw [Change.edit, Change.edit, outline_write hsub.store, outline_write hsub'.store, hsame,
      hdefault]
  | create name location hidden isOpen =>
    have hcwd : h'.platform.cwd = h.platform.cwd := congrArg Outline.cwd hsame
    rw [Change.edit, Change.edit, Workspace.create, Workspace.create, hfind, Change.project,
      Change.project, hcwd]
    cases (h.workspace ws).find? name with
    | none =>
      dsimp only
      rw [outline_setWorkspace hsub.workspace, outline_setWorkspace hsub'.workspace, hsame,
        hprojects]
    | some old => exact hsame
  | delete name =>
    rw [Change.edit, Change.edit, Workspace.delete, Workspace.delete, Workspace.require,
      Workspace.require, hfind]
    cases (h.workspace ws).find? name with
    | none => exact hsame
    | some p =>
      dsimp only
      rw [outline_setWorkspace hsub.workspace, outline_setWorkspace hsub'.workspace, hsame,
        hprojects]
  | setOpen name isOpen =>
    rw [Change.edit, Change.edit, Workspace.setOpen, Workspace.setOpen, Workspace.require,
      Workspace.require, hfind]
    cases (h.workspace ws).find? name with
    | none => exact hsame
    | some p =>
      dsimp only
      by_cases hp : p.isOpen = isOpen
      · rw [if_pos hp, if_pos hp]
        exact hsame
      · rw [if_neg hp, if_neg hp]
        dsimp only
        rw [outline_setWorkspace hsub.workspace, outline_setWorkspace hsub'.workspace, hsame,
          hprojects]
  | touch r => exact hsame

/-- Nothing but the change that is made shows in the outline. -/
lemma outline_of_performed {change : Change} (a : Change.Performed d st ws change h h') :
    h'.outline st ws = (change.edit st ws h).outline st ws := by
  have hu := a.undisturbed
  have hcwd : h'.platform.cwd = (change.edit st ws h).platform.cwd := by
    rw [a.cwd, Change.platform_edit]
  simp only [outline, hu.store, hu.workspace, hcwd]

/-- The news of a change are seen from the outline. -/
lemma news_outline (hsame : h'.outline st ws = h.outline st ws) (change : Change) :
    change.news st ws h' = change.news st ws h := by
  have hshown : ∀ key, (h'.store st).get key = (h.store st).get key :=
    congrFun (congrArg Outline.shown hsame)
  have hsettings : ∀ key value,
      Change.settingsNews st key value h' = Change.settingsNews st key value h := by
    intro key value
    have hbuild : Settings.build ((h'.store st).write key value) =
        Settings.build ((h.store st).write key value) :=
      Settings.build_congr (by rw [PreferenceStore.get_write, PreferenceStore.get_write, hshown])
    simp only [Change.settingsNews, PreferenceStore.changeOf, hshown, hbuild]
  have hfind := find?_outline hsame
  cases change with
  | set key value => exact hsettings key value
  | reset key =>
    have hdefault : (h'.store st).getDefault key = (h.store st).getDefault key :=
      congrFun (congrArg Outline.defaults hsame) key
    rw [Change.news, Change.news, hdefault]
    exact hsettings key _
  | create name location hidden isOpen =>
    have hcwd : h'.platform.cwd = h.platform.cwd := congrArg Outline.cwd hsame
    rw [Change.news, Change.news, hfind, Change.project, Change.project, hcwd]
  | delete name => rw [Change.news, Change.news, hfind]
  | setOpen name isOpen => rfl
  | touch r => rfl

lemma outline_register (st ws m : Nat) (h : Host γ) :
    (h.register m).outline st ws = h.outline st ws := by
  unfold register
  split <;> rfl

/-! ## One occasion -/

lemma Subscribed.of_occasion (react : List γ → Act γ Unit) (hsub : Subscribed d st ws h)
    (occasion : Occasion) : Subscribed d st ws (occasion.perform react st ws h) := by
  cases occasion with
  | change c => exact hsub.of_performed (Change.performed react hsub c)
  | enter m =>
    exact hsub.transport (undisturbed_register m h) (nodup_active_register m hsub.distinct)
  | leave m =>
    exact hsub.transport (Turn.undisturbed_prepare (.leave m) h) (hsub.distinct.erase m)

lemma ends_of_occasion (react : List γ → Act γ Unit) (hsub : Subscribed d st ws h)
    (occasion : Occasion) (n : Nat) :
    Session.SameEnd (h.session n) ((occasion.perform react st ws h).session n) := by
  cases occasion with
  | change c => exact (Change.performed react hsub c).ends n
  | enter m =>
    rw [Occasion.perform, session_register]
    exact .refl _
  | leave m => exact .refl _

/-- A session of the definition hears what an occasion owes to it. -/
lemma receives_of_occasion (react : List γ → Act γ Unit) (hsub : Subscribed d st ws h)
    (occasion : Occasion) (hdefinition : (h.session n).definition = some d) :
    Receives n ((h.session n).tellable
      (if n ∈ h.active then occasion.owed react st ws h else [])) h
      (occasion.perform react st ws h) := by
  cases occasion with
  | change c =>
    rw [Occasion.owed, Change.owed_eq react hsub]
    exact (Change.performed react hsub c).receives hdefinition
  | enter m =>
    rw [Occasion.owed, ite_self]
    exact .of_said (said_register m n h)
  | leave m =>
    rw [Occasion.owed, ite_self]
    exact .of_said rfl

lemma unheard_of_occasion (react : List γ → Act γ Unit) (hsub : Subscribed d st ws h)
    (occasion : Occasion) (hdefinition : (h.session n).definition ≠ some d) :
    (occasion.perform react st ws h).said n = h.said n := by
  cases occasion with
  | change c => exact (Change.performed react hsub c).unheard hdefinition
  | enter m => exact said_register m n h
  | leave m => rfl

/-! ## Runs -/

lemma proceed_cons (react : List γ → Act γ Unit) (occasion : Occasion) (rest : List Occasion)
    (h : Host γ) : proceed react st ws (occasion :: rest) h =
      proceed react st ws rest (occasion.perform react st ws h) :=
  rfl

/-- A session of the definition hears what is due to it, as far as it can be told. -/
theorem receives_due (react : List γ → Act γ Unit) (hsub : Subscribed d st ws h)
    (hdefinition : (h.session n).definition = some d) (occasions : List Occasion) :
    Receives n ((h.session n).tellable (due react st ws n occasions h)) h
      (proceed react st ws occasions h) := by
  induction occasions generalizing h with
  | nil => exact .of_said rfl
  | cons occasion rest ih =>
    have hends := ends_of_occasion react hsub occasion n
    have hfirst := receives_of_occasion react hsub occasion hdefinition
    have hrest := ih (hsub.of_occasion react occasion) (hends.definition.trans hdefinition)
    rw [hends.tellable] at hrest
    have hboth := hfirst.trans hrest hends.isWired
    rwa [Session.tellable, Session.tellable, ← List.filter_append] at hboth

/-- A session of another definition hears nothing. -/
theorem unheard_after (react : List γ → Act γ Unit) (hsub : Subscribed d st ws h)
    (hdefinition : (h.session n).definition ≠ some d) (occasions : List Occasion) :
    (proceed react st ws occasions h).said n = h.said n := by
  induction occasions generalizing h with
  | nil => rfl
  | cons occasion rest ih =>
    have hends := ends_of_occasion react hsub occasion n
    rw [proceed_cons, ih (hsub.of_occasion react occasion) (hends.definition.trans_ne hdefinition)]
    exact unheard_of_occasion react hsub occasion hdefinition

/-! ## Two runs -/

/-- Two hosts look the same to a session of the definition: they have one outline, and the session
is registered in both or in neither. -/
structure LookSame (d st ws n : Nat) (h h' : Host γ) : Prop where
  left : Subscribed d st ws h
  right : Subscribed d st ws h'
  outline : h'.outline st ws = h.outline st ws
  active : n ∈ h'.active ↔ n ∈ h.active

namespace LookSame

lemma refl (n : Nat) (hsub : Subscribed d st ws h) : LookSame d st ws n h h :=
  ⟨hsub, hsub, rfl, Iff.rfl⟩

/-- What happens in both hosts is owed alike, and they look the same after that. -/
lemma step (react react' : List γ → Act γ Unit) (a : LookSame d st ws n h h')
    (occasion : Occasion) :
    LookSame d st ws n (occasion.perform react st ws h) (occasion.perform react' st ws h') ∧
      occasion.owed react' st ws h' = occasion.owed react st ws h := by
  have hleft := a.left.of_occasion react occasion
  have hright := a.right.of_occasion react' occasion
  cases occasion with
  | change c =>
    have hperformed := Change.performed react a.left c
    have hperformed' := Change.performed react' a.right c
    refine ⟨⟨hleft, hright, ?_, ?_⟩, ?_⟩
    · calc (c.perform react' st ws h').2.outline st ws
          = (c.edit st ws h').outline st ws := outline_of_performed hperformed'
        _ = (c.edit st ws h).outline st ws := outline_edit a.left a.right a.outline c
        _ = (c.perform react st ws h).2.outline st ws := (outline_of_performed hperformed).symm
    · rw [Occasion.perform, Occasion.perform, hperformed.active, hperformed'.active, a.active]
    · rw [Occasion.owed, Occasion.owed, Change.owed_eq react a.left, Change.owed_eq react' a.right,
        news_outline a.outline]
  | enter m =>
    refine ⟨⟨hleft, hright, ?_, ?_⟩, rfl⟩
    · rw [Occasion.perform, Occasion.perform, outline_register, outline_register, a.outline]
    · simp only [Occasion.perform, mem_active_register, a.active]
  | leave m =>
    refine ⟨⟨hleft, hright, a.outline, ?_⟩, rfl⟩
    simp only [Occasion.perform, mem_active_unregister m n a.left.distinct,
      mem_active_unregister m n a.right.distinct, a.active]

/-- When another session comes or goes in one host only, the two still look the same, and nothing
is owed for it. -/
lemma skip (react : List γ → Act γ Unit) (a : LookSame d st ws n h h') {occasion : Occasion}
    (hother : occasion.concerns n = false) :
    LookSame d st ws n (occasion.perform react st ws h) h' ∧
      occasion.owed react st ws h = [] := by
  have hleft := a.left.of_occasion react occasion
  cases occasion with
  | change c => cases hother
  | enter m =>
    have hm : n ≠ m := Ne.symm (of_decide_eq_false hother)
    refine ⟨⟨hleft, a.right, ?_, ?_⟩, rfl⟩
    · rw [Occasion.perform, outline_register, a.outline]
    · rw [Occasion.perform, mem_active_register, or_iff_right hm, a.active]
  | leave m =>
    have hm : n ≠ m := Ne.symm (of_decide_eq_false hother)
    refine ⟨⟨hleft, a.right, a.outline, ?_⟩, rfl⟩
    rw [Occasion.perform, mem_active_unregister m n a.left.distinct, and_iff_right hm, a.active]

/-- What is due to a session comes from the changes and its own coming and going alone. -/
theorem due_eq (react react' : List γ → Act γ Unit) (a : LookSame d st ws n h h')
    (occasions : List Occasion) : due react st ws n occasions h =
      due react' st ws n (occasions.filter (Occasion.concerns n)) h' := by
  induction occasions generalizing h h' with
  | nil => rfl
  | cons occasion rest ih =>
    cases hconcerns : occasion.concerns n with
    | true =>
      obtain ⟨hafter, howed⟩ := a.step react react' occasion
      rw [List.filter_cons_of_pos hconcerns, due, due, ih hafter, howed]
      simp only [a.active]
    | false =>
      obtain ⟨hafter, howed⟩ := a.skip react hconcerns
      rw [List.filter_cons_of_neg (Bool.eq_false_iff.1 hconcerns), due, howed, ite_self, ih hafter,
        List.nil_append]

end LookSame

lemma Ready.outline_left {k : Nat} (hready : Ready k d st ws h) :
    (startAdapter k h).2.outline st ws = h.outline st ws := by
  obtain ⟨-, -, -, hprojects⟩ := hready.left
  obtain ⟨hvalues, hdefaults, hcwd⟩ := hready.store_left
  simp only [outline, PreferenceStore.get, PreferenceStore.getDefault, hvalues, hdefaults,
    hprojects, hcwd]

/-- Where the run begins, the adapter was started, which no session notices. -/
lemma Receives.of_started {k : Nat} {notices : List Notice} (hready : Ready k d st ws h)
    (a : Receives n notices (startAdapter k h).2 h') : Receives n notices h h' := by
  obtain ⟨hsessions, -, hsent, -⟩ := hready.left
  simpa only [Receives, greetings, said, session, hsessions, hsent] using a

/-- **Dispatch is exact and isolated.** An adapter is started for a definition, and then changes are
made, and sessions of any definitions registered and taken away, in any order. A session of another
definition hears nothing. A session of the definition hears what is due to it, as far as it can be
told: the settings for each change of the schema preference that is made while it is registered,
and the folder of each project that is created or deleted then, in order, and nothing else. And in
every run with the same changes and the same coming and going of this session it hears the same,
whichever other sessions are there, are registered, or cannot be told. -/
theorem dispatch_exact (react react' : List γ → Act γ Unit) {k : Nat}
    (hready : Ready k d st ws h) (occasions : List Occasion) (n : Nat) :
    let started := (startAdapter k h).2
    let reached := proceed react st ws occasions started
    let notices := (h.session n).tellable (due react st ws n occasions started)
    ((h.session n).definition ≠ some d → reached.said n = h.said n) ∧
    ((h.session n).definition = some d → Receives n notices h reached ∧
      ∀ (k' : Nat) (h' : Host γ) (occasions' : List Occasion), Ready k' d st ws h' →
        h'.session n = h.session n → h'.outline st ws = h.outline st ws →
        (n ∈ h'.active ↔ n ∈ h.active) →
        occasions'.filter (Occasion.concerns n) = occasions.filter (Occasion.concerns n) →
          Receives n notices h' (proceed react' st ws occasions' (startAdapter k' h').2)) := by
  intro started reached notices
  obtain ⟨hsessions, hactive, hsent, -⟩ := hready.left
  have hsession : started.session n = h.session n := by rw [session, session, hsessions]
  refine ⟨fun hother => ?_, fun hdefinition => ⟨?_, ?_⟩⟩
  · have hunheard := unheard_after react hready.subscribed (hsession ▸ hother) occasions
    rw [hunheard, said, said, hsent]
  · have hreceives := receives_due react hready.subscribed (hsession ▸ hdefinition) occasions
    rw [hsession] at hreceives
    exact hreceives.of_started hready
  · intro k' h' occasions' hready' hsame houtline hregistered hoccasions
    obtain ⟨hsessions', hactive', -, -⟩ := hready'.left
    have hsession' : (startAdapter k' h').2.session n = h.session n := by
      rw [session, hsessions', ← hsame, session]
    have hlook : LookSame d st ws n started (startAdapter k' h').2 := by
      refine ⟨hready.subscribed, hready'.subscribed, ?_, ?_⟩
      · rw [hready'.outline_left, houtline, hready.outline_left]
      · rw [hactive', hactive]
        exact hregistered
    have hdue : due react' st ws n occasions' (startAdapter k' h').2 =
        due react st ws n occasions started := by
      rw [(LookSame.refl n hready'.subscribed).due_eq react' react', hoccasions,
        ← hlook.due_eq react react']
    have hreceives := receives_due react' hready'.subscribed
      (hsession' ▸ hdefinition) occasions'
    rw [hsession', hdue] at hreceives
    exact hreceives.of_started hready'

/-- A host with one store, one workspace and two definitions that are alike. Three stand-ins are
there: two of the first definition, of which one can be told nothing, and one of the second. -/
def crowd : Host Empty :=
  { Host.empty default ⟨.root, []⟩ with
    stores := [.empty ⟨.root, []⟩]
    workspaces := [.empty]
    definitions := [.yaml 0 0, .yaml 0 0]
    sessions := [{ (default : Session) with definition := some 0 },
      { (default : Session) with definition := some 0, peer := .standIn ["config", "folders"] none },
      { (default : Session) with definition := some 1 }]
    adapters := [⟨some 0, 0, 0, none, []⟩] }

lemma ready_crowd : Ready 0 0 0 0 crowd :=
  ⟨rfl, by decide, by decide, rfl, rfl, List.nodup_nil⟩

/-- Changes while the first stand-in is registered, twice in a row, and after it was taken away. -/
def visit : List Occasion :=
  [.enter 0, .change (.set schemaKey "x"), .enter 0, .change (.set "other" "x"),
    .change (.create "p" ⟨.root, ["p"]⟩ true true), .change (.create "p" ⟨.root, ["q"]⟩ true true),
    .leave 0, .change (.delete "p")]

/-- The first stand-in hears of the changes that are made during its visit, whether it is alone or
the others are registered as well. -/
theorem dispatch_in_crowd :
    let react : List Empty → Act Empty Unit := fun _ => pure ()
    let started := (startAdapter 0 crowd).2
    let reached := proceed react 0 0 visit started
    let notices := (crowd.session 0).tellable (due react 0 0 0 visit started)
    Ready 0 0 0 0 crowd ∧ notices.map Notice.word = ["config", "folders"] ∧
      Receives 0 notices crowd reached ∧
      Receives 0 notices crowd
        (proceed react 0 0 ([.enter 1, .enter 2] ++ visit ++ [.leave 2]) started) ∧
      (proceed react 0 0 ([.enter 1, .enter 2] ++ visit ++ [.leave 2]) started).said 2 = [] := by
  intro react started reached notices
  obtain ⟨hreceives, hisolated⟩ :=
    (dispatch_exact react react ready_crowd visit 0).2 rfl
  refine ⟨ready_crowd, by decide +kernel, hreceives, ?_, ?_⟩
  · exact hisolated 0 crowd _ ready_crowd rfl rfl Iff.rfl rfl
  · exact (dispatch_exact react react ready_crowd _ 2).1 (by decide)

end Host

end LanguageHost
