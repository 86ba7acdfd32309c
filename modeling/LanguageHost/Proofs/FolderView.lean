import LanguageHost.Proofs.Turn
import LanguageHost.Proofs.View

/-!
# What a server knows of the workspace

The view that a server has of the folders is compared with the workspace here, after every turn of a
run; `Host.Mirrors` says what it holds.

A project is introduced to the server once: by the first list if it was there then, and otherwise
when it is created. Opening and closing are no events for the server. So whether a project is in the
view depends on what it was when it was introduced, and not on what it has become.
-/

namespace LanguageHost

open Act Host

variable {γ : Type} {d st ws n : Nat} {h h' : Host γ}

/-! ## Introductions -/

/-- How a project was introduced to a server: it was there when the first list was made, and was a
workspace folder or not, or it was created afterwards. -/
inductive Introduction where
  | listed (eligible : Bool)
  | created

/-- The introduction brought the project to the server. -/
def Introduction.arrives : Introduction → Bool
  | listed eligible => eligible
  | created => true

/-- The projects that are there when the first list is made. -/
def Workspace.introductions (w : Workspace) : List (String × Introduction) :=
  w.projects.map fun entry => (entry.1, .listed (entry.2.resource entry.1).isWorkspaceFolder)

/-- A turn in which a session may be sent the first list: it is registered and its server seeded, or
its server says something. -/
def Turn.introduces (n : Nat) : Turn → Prop
  | join m _ | receive m _ => m = n
  | _ => False

/-- The introductions after a turn. -/
def Turn.introduce (ws : Nat) (h : Host γ) (table : List (String × Introduction)) :
    Turn → List (String × Introduction)
  | change (.create name _ _ _) =>
    match (h.workspace ws).find? name with
    | none => table ++ [(name, .created)]
    | some _ => table
  | change (.delete name) => dropMember name table
  | _ => table

namespace Host

/-- The introductions after some turns. -/
def introduced (react : List γ → Act γ Unit) (d st ws : Nat) :
    List Turn → Host γ → List (String × Introduction) → List (String × Introduction)
  | [], _, table => table
  | turn :: rest, h, table =>
    introduced react d st ws rest (turn.perform react d st ws h).2 (turn.introduce ws h table)

/-- Different projects lie at different places. -/
def Apart (w : Workspace) : Prop :=
  ∀ entry ∈ w.projects, ∀ entry' ∈ w.projects,
    entry.2.location.text = entry'.2.location.text → entry.1 = entry'.1

/-- The view of a session's server holds the projects of the workspace that were brought to it when
they were introduced. -/
structure Mirrors (ws n : Nat) (h : Host γ) (table : List (String × Introduction)) : Prop where
  known : ∀ name, (findMember? name table).isSome = ((h.workspace ws).find? name).isSome
  view : ∀ u, u ∈ Folders.view (h.said n) ↔ ∃ name p i, (h.workspace ws).find? name = some p ∧
    findMember? name table = some i ∧ i.arrives = true ∧ u = Text.ofString p.location.uri

lemma Mirrors.of_same {table : List (String × Introduction)} (hm : Mirrors ws n h table)
    (hworkspace : h'.workspace ws = h.workspace ws)
    (hview : Folders.view (h'.said n) = Folders.view (h.said n)) : Mirrors ws n h' table :=
  ⟨fun name => hworkspace ▸ hm.known name, fun u => by rw [hview, hworkspace]; exact hm.view u⟩

/-- A project is created under a name that is free. -/
lemma Mirrors.of_create {table : List (String × Introduction)} (hm : Mirrors ws n h table)
    {name : String} {p : Project} (hfree : (h.workspace ws).find? name = none)
    (hworkspace : (h'.workspace ws).projects = (h.workspace ws).projects ++ [(name, p)])
    (hview : Folders.view (h'.said n) =
      Folders.applyChange (Folders.view (h.said n)) (Folders.changeParams [p.location.uri] [])) :
    Mirrors ws n h' (table ++ [(name, .created)]) := by
  have hfresh : findMember? name table = none := by
    have hknown := hm.known name
    rw [hfree] at hknown
    simpa using hknown
  have hfind : ∀ other, (h'.workspace ws).find? other =
      if other = name then some p else (h.workspace ws).find? other := by
    intro other
    rw [Workspace.find?, hworkspace, findMember?_append, findMember?_cons]
    by_cases hother : other = name
    · subst hother
      rw [Workspace.find?] at hfree
      simp [hfree]
    · simp [hother, Ne.symm hother, Workspace.find?]
  have htable : ∀ other, findMember? other (table ++ [(name, .created)]) =
      if other = name then some .created else findMember? other table := by
    intro other
    rw [findMember?_append, findMember?_cons]
    by_cases hother : other = name
    · subst hother
      simp [hfresh]
    · simp [hother, Ne.symm hother]
  refine ⟨fun other => ?_, fun u => ?_⟩
  · rw [hfind, htable]
    split
    · rfl
    · exact hm.known other
  · rw [hview, Folders.mem_applyChange, hm.view]
    constructor
    · rintro ⟨⟨other, q, i, hq, hi, hlisted, hu⟩ | ⟨uri, huri, hu⟩, -⟩
      · have hother : other ≠ name := by
          rintro rfl
          rw [hfree] at hq
          cases hq
        exact ⟨other, q, i, by rw [hfind, if_neg hother, hq], by rw [htable, if_neg hother, hi],
          hlisted, hu⟩
      · rw [List.mem_singleton] at huri
        exact ⟨name, p, _, by rw [hfind, if_pos rfl], by rw [htable, if_pos rfl], rfl,
          by rw [← hu, huri]⟩
    · rintro ⟨other, q, i, hq, hi, hlisted, hu⟩
      refine ⟨?_, by simp⟩
      rw [hfind] at hq
      rw [htable] at hi
      by_cases hother : other = name
      · rw [if_pos hother] at hq
        cases hq
        exact Or.inr ⟨p.location.uri, List.mem_singleton.2 rfl, hu.symm⟩
      · rw [if_neg hother] at hq hi
        exact Or.inl ⟨other, q, i, hq, hi, hlisted, hu⟩

/-- A project is deleted; the others stay in the view, because they lie elsewhere. -/
lemma Mirrors.of_delete {table : List (String × Introduction)} (hm : Mirrors ws n h table)
    {name : String} {p : Project} (hfound : (h.workspace ws).find? name = some p)
    (hapart : Apart (h.workspace ws))
    (hworkspace : (h'.workspace ws).projects = dropMember name (h.workspace ws).projects)
    (hview : Folders.view (h'.said n) =
      Folders.applyChange (Folders.view (h.said n)) (Folders.changeParams [] [p.location.uri])) :
    Mirrors ws n h' (dropMember name table) := by
  have hfind : ∀ other, (h'.workspace ws).find? other =
      if name = other then none else (h.workspace ws).find? other := by
    intro other
    rw [Workspace.find?, hworkspace, findMember?_dropMember]
    rfl
  refine ⟨fun other => ?_, fun u => ?_⟩
  · rw [hfind, findMember?_dropMember]
    split
    · rfl
    · exact hm.known other
  · rw [hview, Folders.mem_applyChange, hm.view]
    constructor
    · rintro ⟨⟨other, q, i, hq, hi, hlisted, hu⟩ | ⟨uri, huri, -⟩, hkept⟩
      · have hother : name ≠ other := by
          rintro rfl
          rw [hfound] at hq
          cases hq
          exact hkept ⟨p.location.uri, List.mem_singleton.2 rfl, hu.symm⟩
        exact ⟨other, q, i, by rw [hfind, if_neg hother, hq],
          by rw [findMember?_dropMember, if_neg hother, hi], hlisted, hu⟩
      · cases huri
    · rintro ⟨other, q, i, hq, hi, hlisted, hu⟩
      rw [hfind] at hq
      rw [findMember?_dropMember] at hi
      by_cases hother : name = other
      · rw [if_pos hother] at hq
        cases hq
      · rw [if_neg hother] at hq hi
        refine ⟨Or.inl ⟨other, q, i, hq, hi, hlisted, hu⟩, ?_⟩
        rintro ⟨uri, huri, hsame⟩
        rw [List.mem_singleton] at huri
        rw [huri, hu, Text.ofString_inj] at hsame
        exact hother (hapart _ (Workspace.mem_of_find? hfound) _ (Workspace.mem_of_find? hq)
          (Path.uri_injective hsame))

/-- A project is opened or closed, which the server is not told. -/
lemma Mirrors.of_setOpen {table : List (String × Introduction)} (hm : Mirrors ws n h table)
    {name : String} {p : Project} (hfound : (h.workspace ws).find? name = some p) (p' : Project)
    (hlocation : p'.location = p.location)
    (hworkspace : (h'.workspace ws).projects = putMember name p' (h.workspace ws).projects)
    (hview : Folders.view (h'.said n) = Folders.view (h.said n)) : Mirrors ws n h' table := by
  have hfind : ∀ other, (h'.workspace ws).find? other =
      if name = other then some p' else (h.workspace ws).find? other := by
    intro other
    rw [Workspace.find?, hworkspace, findMember?_putMember]
    rfl
  refine ⟨fun other => ?_, fun u => ?_⟩
  · rw [hfind, hm.known]
    by_cases hother : name = other
    · subst hother
      simp [hfound]
    · rw [if_neg hother]
  · rw [hview, hm.view]
    constructor
    · rintro ⟨other, q, i, hq, hi, hlisted, hu⟩
      by_cases hother : name = other
      · subst hother
        rw [hfound] at hq
        cases hq
        exact ⟨name, p', i, by rw [hfind, if_pos rfl], hi, hlisted, by rw [hu, hlocation]⟩
      · exact ⟨other, q, i, by rw [hfind, if_neg hother, hq], hi, hlisted, hu⟩
    · rintro ⟨other, q, i, hq, hi, hlisted, hu⟩
      rw [hfind] at hq
      by_cases hother : name = other
      · subst hother
        rw [if_pos rfl] at hq
        cases hq
        exact ⟨name, p, i, hfound, hi, hlisted, by rw [hu, hlocation]⟩
      · rw [if_neg hother] at hq
        exact ⟨other, q, i, hq, hi, hlisted, hu⟩

/-! ## A session that listens -/

/-- A registered session of the linked definition that can be told of folders. -/
structure Attends (d n : Nat) (h : Host γ) : Prop where
  active : n ∈ h.active
  definition : (h.session n).definition = some d
  takes : (h.session n).takes "folders" = true

lemma Attends.of_sameEnd (ha : Attends d n h) (hactive : n ∈ h'.active)
    (hsame : Session.SameEnd (h.session n) (h'.session n)) : Attends d n h' :=
  ⟨hactive, hsame.definition.trans ha.definition, (hsame.takes _).trans ha.takes⟩

/-- A notice without folders changes no view. -/
lemma Hears.silent {notice : Notice} {recipients : List Nat} {l : List Sent}
    (hears : Hears notice recipients h n l) (hnotice : notice.folders? = none)
    (hnone : l.any Sent.starts = false) : ∀ x ∈ l, x.folders? = none := by
  by_cases htold : n ∈ recipients ∧ (h.session n).takes notice.word = true
  · obtain ⟨x, rest, rfl, hx, hopened, -⟩ := hears.told htold.1 htold.2
    rw [List.any_cons, Bool.or_eq_false_iff] at hnone
    intro y hy
    rcases List.mem_cons.1 hy with rfl | hy
    · rw [Sent.folders?, hx]
      exact hnotice
    · exact hopened.silent hnone.2 y hy
  · have hquiet : l = [] := hears.quiet (by
      by_cases hmem : n ∈ recipients
      · exact Or.inr (Bool.eq_false_iff.2 fun ht => htold ⟨hmem, ht⟩)
      · exact Or.inl hmem)
    simp [hquiet]

/-- What a change means for the view of a session that attends: its news, and nothing else as long
as the server is not told to have started. -/
lemma Attends.performed {change : Change} (ha : Attends d n h)
    (hperformed : Change.Performed d st ws change h h')
    (hsame : h'.greetings n = h.greetings n) :
    h'.workspace ws = (change.edit st ws h).workspace ws ∧ Attends d n h' ∧
    ((∀ params, change.news st ws h ≠ some (.folders params)) →
      Folders.view (h'.said n) = Folders.view (h.said n)) ∧
    ∀ params, change.news st ws h = some (.folders params) →
      Folders.view (h'.said n) = Folders.applyChange (Folders.view (h.said n)) params := by
  have hedited := Change.edited st ws change h
  have hsession := hedited.session n
  have hsaid := hedited.said n
  have ha₁ : Attends d n (change.edit st ws h) :=
    ⟨hedited.active ▸ ha.active, hsession ▸ ha.definition, hsession ▸ ha.takes⟩
  rcases hnews : change.news st ws h with _ | notice
  · obtain ⟨platform, rfl⟩ := hperformed.silent hnews
    refine ⟨rfl, ⟨ha₁.active, ha₁.definition, ha₁.takes⟩, fun _ => ?_, fun params h => by cases h⟩
    exact congrArg Folders.view hsaid
  · obtain ⟨platform, htold⟩ := hperformed.told notice hnews
    obtain ⟨l, hl, hears⟩ := htold.said n
    have hl' : h'.said n = h.said n ++ l := hl.trans (congrArg (· ++ l) hsaid)
    have hnone : l.any Sent.starts = false := unstarted_of_greetings hl' hsame
    refine ⟨htold.undisturbed.workspace ws,
      ha₁.of_sameEnd (htold.active ▸ ha₁.active) (htold.ends n), fun hother => ?_,
      fun params hfolders => ?_⟩
    · have hnotice : notice.folders? = none := by
        cases notice with
        | folders params => exact absurd rfl (hother params)
        | _ => rfl
      rw [hl', Folders.view_append_silent (hears.silent hnotice hnone)]
    · obtain rfl := Option.some.inj hfolders
      obtain ⟨x, rest, rfl, hx, hopened, -⟩ :=
        hears.told (mem_matching.2 ⟨ha.active, ha.definition⟩) ha₁.takes
      rw [List.any_cons, Bool.or_eq_false_iff] at hnone
      rw [hl', Folders.view_append_cons hx (hopened.silent hnone.2)]

lemma settingsNews_ne_folders (key value : Text) (params : Json) :
    Change.settingsNews st key value h ≠ some (.folders params) := by
  rw [Change.settingsNews]
  split
  · cases (h.store st).changeOf key value <;> simp
  · simp

/-- A change of preferences leaves the workspace and the view alone. -/
lemma Mirrors.of_preference {table : List (String × Introduction)} (hm : Mirrors ws n h table)
    {change : Change} (hperformed : Change.Performed d st ws change h h') (ha : Attends d n h)
    (hsame : h'.greetings n = h.greetings n)
    (hnews : ∀ params, change.news st ws h ≠ some (.folders params))
    (hedit : (change.edit st ws h).workspace ws = h.workspace ws) : Mirrors ws n h' table := by
  obtain ⟨hworkspace, -, hsilent, -⟩ := ha.performed hperformed hsame
  exact hm.of_same (hworkspace.trans hedit) (hsilent hnews)

/-- Every change keeps the view in step with what is introduced. -/
theorem Mirrors.of_change (react : List γ → Act γ Unit) (hlinked : Linked d st ws h)
    {table : List (String × Introduction)} (hm : Mirrors ws n h table) (ha : Attends d n h)
    (hapart : Apart (h.workspace ws)) (change : Change)
    (hsame : (change.perform react st ws h).2.greetings n = h.greetings n) :
    Mirrors ws n (change.perform react st ws h).2
      ((Turn.change change).introduce ws h table) := by
  have hperformed := Change.performed react hlinked.toSubscribed change
  obtain ⟨hworkspace, -, hsilent, htold⟩ := ha.performed hperformed hsame
  have hset : ∀ w : Workspace, (h.setWorkspace ws w).workspace ws = w := fun w => by
    rw [workspace_setWorkspace, if_pos ⟨rfl, hlinked.workspace⟩]
  cases change with
  | set key value =>
    exact hm.of_preference hperformed ha hsame (settingsNews_ne_folders key value) rfl
  | reset key =>
    exact hm.of_preference hperformed ha hsame (settingsNews_ne_folders key _) rfl
  | create name location hidden isOpen =>
    rw [Turn.introduce]
    rw [Change.edit, Workspace.create] at hworkspace
    rw [Change.news] at hsilent htold
    rcases hfind : (h.workspace ws).find? name with _ | old
    · rw [hfind] at hworkspace htold
      refine hm.of_create hfind ?_ (htold _ rfl)
      rw [hworkspace, hset]
    · rw [hfind] at hworkspace hsilent
      exact hm.of_same hworkspace (hsilent fun _ => by simp)
  | delete name =>
    rw [Turn.introduce]
    rw [Change.edit, Workspace.delete, Workspace.require] at hworkspace
    rw [Change.news] at hsilent htold
    rcases hfind : (h.workspace ws).find? name with _ | p
    · rw [hfind] at hworkspace hsilent
      have habsent : findMember? name table = none := by
        have hknown := hm.known name
        rw [hfind] at hknown
        simpa using hknown
      rw [dropMember_absent habsent]
      exact hm.of_same hworkspace (hsilent fun _ => by simp)
    · rw [hfind] at hworkspace htold
      refine hm.of_delete hfind hapart ?_ (htold _ rfl)
      rw [hworkspace, hset]
  | setOpen name isOpen =>
    have hview := hsilent fun _ => by simp [Change.news]
    rw [Change.edit, Workspace.setOpen, Workspace.require] at hworkspace
    rcases hfind : (h.workspace ws).find? name with _ | p
    · rw [hfind] at hworkspace
      exact hm.of_same hworkspace hview
    · rw [hfind] at hworkspace
      by_cases hopen : p.isOpen = isOpen
      · simp only [if_pos hopen] at hworkspace
        exact hm.of_same hworkspace hview
      · simp only [if_neg hopen] at hworkspace
        refine hm.of_setOpen hfind { p with isOpen } rfl ?_ hview
        rw [hworkspace, hset]
  | touch r => exact hm.of_same hworkspace (hsilent fun _ => by simp [Change.news])

/-! ## Turns of others -/

/-- A turn in which a session talks or is registered or leaves, seen from another session. -/
structure Elsewhere (ws n : Nat) (h h' : Host γ) : Prop where
  workspace : h'.workspace ws = h.workspace ws
  said : h'.said n = h.said n
  same : Session.SameEnd (h.session n) (h'.session n)
  active : n ∈ h'.active ↔ n ∈ h.active

lemma Elsewhere.trans {h'' : Host γ} (a : Elsewhere ws n h h') (b : Elsewhere ws n h' h'') :
    Elsewhere ws n h h'' :=
  ⟨b.workspace.trans a.workspace, b.said.trans a.said, a.same.trans b.same,
    b.active.trans a.active⟩

lemma Talk.elsewhere {joins : Bool} {m : Nat} {l : List Sent} (a : Talk joins m h h' l)
    (hne : n ≠ m) : Elsewhere ws n h h' :=
  ⟨a.undisturbed.workspace ws, a.said_other hne, a.sameEnd n,
    fun hn => (a.mem_active hn).resolve_right hne, a.subset_active⟩

lemma elsewhere_prepare {turn : Turn} (hother : ¬ turn.concerns n) :
    Elsewhere ws n h (turn.prepare h) := by
  refine ⟨(turn.undisturbed_prepare h).workspace ws, turn.said_prepare n h, ?_, ?_⟩
  · rw [Turn.session_prepare]
    exact .refl _
  · cases turn with
    | join m answer =>
      exact (mem_active_register m n h).trans (or_iff_right fun hsame => hother hsame.symm)
    | leave m => exact List.mem_erase_of_ne fun hsame => hother hsame.symm
    | _ => exact Iff.rfl

/-- What the session reads changes no view, as long as it is not introduced anew. -/
lemma Mirrors.of_receive (react : List γ → Act γ Unit) {table : List (String × Introduction)}
    (hm : Mirrors ws n h table) (ha : Attends d n h) (message : Json)
    (hsame : ((Turn.receive n message).perform react d st ws h).2.greetings n = h.greetings n) :
    Mirrors ws n ((Turn.receive n message).perform react d st ws h).2 table ∧
      Attends d n ((Turn.receive n message).perform react d st ws h).2 := by
  cases hwired : (h.session n).isWired with
  | true =>
    rw [Turn.receive_wired react message hwired] at hsame ⊢
    obtain ⟨l, a, horderly, -⟩ :=
      Wire.Usable.talk_consume (n := n) (Or.inr Wire.prompt_opened) message h
    have hnone := (horderly hwired).opened.silent (unstarted_of_greetings a.said hsame)
    refine ⟨hm.of_same (a.undisturbed.workspace ws) ?_,
      ha.of_sameEnd (a.subset_active ha.active) a.self⟩
    rw [a.said, Folders.view_append_silent hnone]
  | false =>
    rw [Turn.receive_standIn react message hwired]
    exact ⟨hm, ha⟩

/-- Every turn keeps the view in step, as long as the session neither arrives nor departs nor is
introduced anew. -/
theorem Mirrors.of_turn (react : List γ → Act γ Unit) (hlinked : Linked d st ws h)
    {table : List (String × Introduction)} (hm : Mirrors ws n h table) (ha : Attends d n h)
    (hapart : Apart (h.workspace ws)) {turn : Turn} (hstays : ¬ turn.moves n)
    (hsame : (turn.perform react d st ws h).2.greetings n = h.greetings n) :
    Mirrors ws n (turn.perform react d st ws h).2 (turn.introduce ws h table) ∧
      Attends d n (turn.perform react d st ws h).2 := by
  rcases talk_of_turn react hlinked turn with ⟨c, rfl⟩ | ⟨m, l, htalks, a⟩
  · obtain ⟨-, ha', -, -⟩ := ha.performed (Change.performed react hlinked.toSubscribed c) hsame
    exact ⟨hm.of_change react hlinked ha hapart c hsame, ha'⟩
  by_cases hconcerns : turn.concerns n
  · cases turn with
    | change c => exact hconcerns.elim
    | join m answer => exact absurd hconcerns hstays
    | leave m => exact absurd hconcerns hstays
    | receive m message =>
      obtain rfl : m = n := hconcerns
      exact hm.of_receive react ha message hsame
  · have hne : n ≠ m := by
      rintro rfl
      exact hconcerns htalks
    have b : Elsewhere ws n h (turn.perform react d st ws h).2 :=
      (elsewhere_prepare hconcerns).trans (a.elsewhere hne)
    have htable : turn.introduce ws h table = table := by
      cases turn with
      | change c => exact htalks.elim
      | _ => rfl
    rw [htable]
    exact ⟨hm.of_same b.workspace (congrArg Folders.view b.said),
      ha.of_sameEnd (b.active.2 ha.active) b.same⟩

/-! ## Before the first list -/

/-- A session of the linked definition, and a workspace whose projects have different names. -/
structure Awaited (d ws n : Nat) (h : Host γ) : Prop where
  definition : (h.session n).definition = some d
  names : ((h.workspace ws).projects.map Prod.fst).Nodup

/-- No change makes two projects have one name. -/
lemma nodup_names_edit (hws : ws < h.workspaces.length) (change : Change)
    (hnames : ((h.workspace ws).projects.map Prod.fst).Nodup) :
    (((change.edit st ws h).workspace ws).projects.map Prod.fst).Nodup := by
  have hset : ∀ w : Workspace, (h.setWorkspace ws w).workspace ws = w := fun w => by
    rw [workspace_setWorkspace, if_pos ⟨rfl, hws⟩]
  cases change with
  | set key value => exact hnames
  | reset key => exact hnames
  | create name location hidden isOpen =>
    rw [Change.edit, Workspace.create]
    rcases hfind : (h.workspace ws).find? name with _ | p
    · dsimp only
      rw [hset]
      have hfresh : name ∉ (h.workspace ws).projects.map Prod.fst := by
        rw [← isSome_findMember?]
        rw [Workspace.find?] at hfind
        simp [hfind]
      rw [List.map_append]
      refine List.nodup_append.2 ⟨hnames, by simp, ?_⟩
      rintro a ha b hb rfl
      have hsame : a = name := by simpa using hb
      exact hfresh (hsame ▸ ha)
    · exact hnames
  | delete name =>
    rw [Change.edit, Workspace.delete, Workspace.require]
    rcases (h.workspace ws).find? name with _ | p
    · exact hnames
    · dsimp only
      rw [hset, keys_dropMember]
      exact hnames.filter _
  | setOpen name isOpen =>
    rw [Change.edit, Workspace.setOpen, Workspace.require]
    rcases (h.workspace ws).find? name with _ | p
    · exact hnames
    · dsimp only
      by_cases hsame : p.isOpen = isOpen
      · rw [if_pos hsame]
        exact hnames
      · rw [if_neg hsame]
        dsimp only
        rw [hset]
        exact nodup_keys_putMember name _ hnames
  | touch r => exact hnames

lemma Awaited.of_turn (react : List γ → Act γ Unit) (hlinked : Linked d st ws h)
    (hawaited : Awaited d ws n h) (turn : Turn) :
    Awaited d ws n (turn.perform react d st ws h).2 := by
  rcases talk_of_turn react hlinked turn with ⟨c, rfl⟩ | ⟨m, l, -, a⟩
  · have hperformed := Change.performed react hlinked.toSubscribed c
    have hnames : (((c.edit st ws h).workspace ws).projects.map Prod.fst).Nodup :=
      nodup_names_edit hlinked.workspace c hawaited.names
    have hdefinition : ((c.edit st ws h).session n).definition = some d := by
      rw [(Change.edited st ws c h).session, hawaited.definition]
    rcases hnews : c.news st ws h with _ | notice
    · obtain ⟨platform, hsame⟩ := hperformed.silent hnews
      change Awaited d ws n (c.perform react st ws h).2
      rw [hsame]
      exact ⟨hdefinition, hnames⟩
    · obtain ⟨platform, htold⟩ := hperformed.told notice hnews
      have hworkspace : (c.perform react st ws h).2.workspace ws = (c.edit st ws h).workspace ws :=
        htold.undisturbed.workspace ws
      exact ⟨(htold.ends n).definition.trans hdefinition, hworkspace ▸ hnames⟩
  · have hworkspace := ((turn.undisturbed_prepare h).trans a.undisturbed).workspace ws
    refine ⟨?_, hworkspace ▸ hawaited.names⟩
    rw [(a.sameEnd n).definition, Turn.session_prepare, hawaited.definition]

/-! ## The first list -/

lemma findMember?_introductions (name : String) (w : Workspace) :
    findMember? name w.introductions =
      (w.find? name).map fun p => .listed (p.resource name).isWorkspaceFolder := by
  rw [Workspace.introductions, Workspace.find?]
  induction w.projects with
  | nil => rfl
  | cons entry rest ih =>
    rw [List.map_cons, findMember?_cons, findMember?_cons, ih]
    by_cases hentry : entry.1 = name
    · simp [hentry]
    · rw [if_neg hentry, if_neg hentry]

/-- The first list brings the addresses of the eligible projects. -/
lemma mem_eligible {w : Workspace} (hnames : (w.projects.map Prod.fst).Nodup) (u : Text) :
    (∃ uri ∈ w.eligible, Text.ofString uri = u) ↔ ∃ name p i, w.find? name = some p ∧
      findMember? name w.introductions = some i ∧ i.arrives = true ∧
        u = Text.ofString p.location.uri := by
  have hmem : ∀ name p, (name, p) ∈ w.sortedProjects ↔ w.find? name = some p := by
    intro name p
    rw [Workspace.sortedProjects, sortByName, List.mem_mergeSort]
    exact mem_iff_findMember? hnames name p
  constructor
  · rintro ⟨uri, huri, hu⟩
    obtain ⟨⟨name, q⟩, hentry, huri'⟩ := List.mem_map.1 huri
    obtain ⟨hin, heligible⟩ := List.mem_filter.1 hentry
    have hfind := (hmem name q).1 hin
    refine ⟨name, q, .listed (q.resource name).isWorkspaceFolder, hfind, ?_, heligible, ?_⟩
    · rw [findMember?_introductions, hfind, Option.map_some]
    · rw [← hu, ← huri']
  · rintro ⟨name, q, i, hfind, hi, heligible, hu⟩
    rw [findMember?_introductions, hfind, Option.map_some] at hi
    have hi' := Option.some.inj hi
    refine ⟨q.location.uri, List.mem_map.2 ⟨(name, q), ?_, rfl⟩, hu.symm⟩
    refine List.mem_filter.2 ⟨(hmem name q).2 hfind, ?_⟩
    rwa [← hi'] at heligible

/-- All folders that a session was sent since are those of the workspace, and there are none if it
cannot be told of folders. -/
structure Listed (ws n : Nat) (h h' : Host γ) (l : List Sent) : Prop where
  workspace : h'.workspace ws = h.workspace ws
  same : Session.SameEnd (h.session n) (h'.session n)
  said : h'.said n = h.said n ++ l
  lists : ∀ x ∈ l, ∀ params, x.folders? = some params →
    params = Folders.changeParams (h.workspace ws).eligible []
  silent : (h.session n).takes "folders" = false → ∀ x ∈ l, x.folders? = none

namespace Listed

variable {h'' : Host γ} {l l' : List Sent}

lemma trans (a : Listed ws n h h' l) (b : Listed ws n h' h'' l') :
    Listed ws n h h'' (l ++ l') where
  workspace := b.workspace.trans a.workspace
  same := a.same.trans b.same
  said := by rw [b.said, a.said, List.append_assoc]
  lists := List.forall_mem_append.2 ⟨a.lists, a.workspace ▸ b.lists⟩
  silent htakes := List.forall_mem_append.2
    ⟨a.silent htakes, b.silent ((a.same.takes _).trans htakes)⟩

end Listed

lemma Talk.listed_nil {joins : Bool} (a : Talk joins n h h' []) : Listed ws n h h' [] :=
  ⟨a.undisturbed.workspace ws, a.self, a.said, by simp, by simp⟩

/-- What comes back over a wire lists the folders of the workspace that the server is seeded
with. -/
lemma Talk.listed {joins : Bool} {l : List Sent} (a : Talk joins n h h' l)
    (hlists : ∀ x ∈ l, h.ListsFolders n x) (hwired : (h.session n).isWired = true)
    (hhook : (h.session n).endpoint.isSome = true → (h.session n).hook = .seed st ws)
    (hclosed : (h.session n).endpoint.isSome = false → l = []) : Listed ws n h h' l := by
  cases hopen : (h.session n).endpoint.isSome with
  | false =>
    rw [hclosed hopen] at a ⊢
    exact a.listed_nil
  | true =>
    refine ⟨a.undisturbed.workspace ws, a.self, a.said, fun x hx params hfolders => ?_,
      fun htakes => ?_⟩
    · exact hlists x hx params st ws hfolders hopen (hhook hopen)
    · rw [Session.takes_of_isWired hwired, hopen] at htakes
      cases htakes

/-- So does a notice that is told, if the folders in it are these. -/
lemma Tells.listed {joins : Bool} {notice : Notice} (a : Tells joins n notice h h')
    (hhook : (h.session n).endpoint.isSome = true → (h.session n).hook = .seed st ws)
    (hnotice : ∀ params, notice.folders? = some params →
      params = Folders.changeParams (h.workspace ws).eligible []) :
    ∃ l, Listed ws n h h' l := by
  rcases a with ⟨-, a⟩ | ⟨htakes, x, l, a, hx, horderly, hstandIn⟩
  · exact ⟨[], a.listed_nil⟩
  have hfirst : x.folders? = notice.folders? := by
    rw [Sent.folders?, hx]
    rfl
  refine ⟨x :: l, a.undisturbed.workspace ws, a.self, a.said,
    List.forall_mem_cons.2 ⟨fun params hfolders => hnotice params (hfirst ▸ hfolders), ?_⟩,
    fun hrefused => List.forall_mem_cons.2 ⟨?_, ?_⟩⟩
  · intro y hy params hfolders
    cases hwired : (h.session n).isWired with
    | true =>
      have hopen := (Session.takes_of_isWired hwired _).symm.trans htakes
      exact horderly.lists y hy params st ws hfolders hopen (hhook hopen)
    | false =>
      rw [hstandIn hwired] at hy
      cases hy
  · -- a session that is told of folders takes them
    rw [hfirst]
    cases notice with
    | folders params => exact absurd (hrefused.symm.trans htakes) Bool.false_ne_true
    | _ => rfl
  · cases hwired : (h.session n).isWired with
    | true =>
      rw [Session.takes_of_isWired hwired] at hrefused htakes
      exact absurd (hrefused.symm.trans htakes) Bool.false_ne_true
    | false => simp [hstandIn hwired]

/-- Whatever a session is sent when it joins or hears from its server lists the folders of the
workspace. -/
lemma listed_of_turn (react : List γ → Act γ Unit) (hlinked : Linked d st ws h) {turn : Turn}
    (hturn : turn.introduces n) (hdefinition : (h.session n).definition = some d) :
    ∃ l, Listed ws n h (turn.perform react d st ws h).2 l := by
  cases turn with
  | change c => exact hturn.elim
  | leave m => exact hturn.elim
  | join m answer =>
    obtain rfl : m = n := hturn
    have hlinked₁ := hlinked.of_register m
    have hdefinition₁ : ((h.register m).session m).definition = some d := by
      rw [session_register, hdefinition]
    have hregistered : Listed ws m h (h.register m) [] := by
      refine ⟨(undisturbed_register m h).workspace ws, ?_, by simp, by simp, by simp⟩
      rw [session_register]
      exact .refl _
    have htold := Wire.prompt_opened.tells_settings (hlinked₁.seeds m hdefinition₁)
    obtain ⟨l, hsettings⟩ :=
      htold.listed (hlinked₁.seeds m hdefinition₁) fun params hfolders => by cases hfolders
    rw [Turn.join_run react answer hdefinition]
    set h₂ := (Wire.sendSettings Wire.opened st m (h.register m)).2
    obtain ⟨_, a⟩ := htold.talk
    have hlinked₂ : Linked d st ws h₂ := hlinked₁.of_talk a
    rcases hinitial : Folders.initial (h₂.workspace ws) h₂.platform with ⟨fault | uris, platform⟩
    · have b : Talk true m h₂ (Wire.sendFolders Wire.opened ws m h₂).2 [] :=
        Wire.talk_sendFolders_failed hinitial
      exact ⟨_, hregistered.trans (hsettings.trans b.listed_nil)⟩
    · have b := Wire.prompt_opened.tells_folders (n := m) hinitial
      obtain ⟨l', hfolders⟩ := b.listed
        (hlinked₂.seeds m (a.self.definition.trans hdefinition₁)) fun params hfolders => by
          rw [← Option.some.inj hfolders, Folders.initial_ok hinitial]
      exact ⟨_, hregistered.trans (hsettings.trans hfolders)⟩
  | receive m message =>
    obtain rfl : m = n := hturn
    cases hwired : (h.session m).isWired with
    | true =>
      rw [Turn.receive_wired react message hwired]
      obtain ⟨l, a, horderly, hclosed⟩ :=
        Wire.Usable.talk_consume (n := m) (Or.inr Wire.prompt_opened) message h
      exact ⟨l, a.listed (horderly hwired).lists hwired (hlinked.seeds m hdefinition)
        (hclosed hwired)⟩
    | false =>
      rw [Turn.receive_standIn react message hwired]
      exact ⟨[], (Talk.refl true m h).listed_nil⟩

/-- A session that is registered and was sent the first list just now knows the eligible
projects. -/
theorem Awaited.introduced (react : List γ → Act γ Unit) (hlinked : Linked d st ws h)
    (hawaited : Awaited d ws n h) {turn : Turn} (hturn : turn.introduces n)
    (hunlisted : ∀ x ∈ h.said n, x.folders? = none) :
    let joined := (turn.perform react d st ws h).2
    n ∈ joined.active → (∃ x ∈ joined.said n, x.folders?.isSome = true) →
      Mirrors ws n joined (joined.workspace ws).introductions ∧ Attends d n joined := by
  intro joined hactive hlisted
  obtain ⟨l, a⟩ := listed_of_turn react hlinked hturn hawaited.definition
  have hsaid : joined.said n = h.said n ++ l := a.said
  have hworkspace : joined.workspace ws = h.workspace ws := a.workspace
  obtain ⟨x, hx, hfolders⟩ := hlisted
  have hnew : x ∈ l := by
    rw [hsaid] at hx
    refine (List.mem_append.1 hx).resolve_left fun hold => ?_
    rw [hunlisted x hold] at hfolders
    cases hfolders
  have htakes : (h.session n).takes "folders" = true := by
    refine eq_true_of_ne_false fun hrefused => ?_
    rw [a.silent hrefused x hnew] at hfolders
    cases hfolders
  have hempty : Folders.view (h.said n) = [] := Folders.view_append_silent (l := []) hunlisted
  refine ⟨⟨fun name => ?_, fun u => ?_⟩, hactive, a.same.definition.trans hawaited.definition,
    (a.same.takes _).trans htakes⟩
  · rw [findMember?_introductions, Option.isSome_map]
  · rw [hsaid, hworkspace, ← mem_eligible hawaited.names, Folders.mem_view_append a.lists, hempty]
    simp only [List.not_mem_nil, false_or, and_iff_right_iff_imp]
    exact fun _ => ⟨x, hnew, hfolders⟩

/-! ## Runs -/

/-- A run keeps the view in step with what is introduced. -/
theorem Mirrors.of_run (react : List γ → Act γ Unit) (hlinked : Linked d st ws h)
    {table : List (String × Introduction)} (hm : Mirrors ws n h table) (ha : Attends d n h)
    {turns : List Turn} (hstays : ∀ turn ∈ turns, ¬ turn.moves n)
    (hapart : ∀ past, past <+: turns → Apart ((run react d st ws past h).workspace ws))
    (hsame : (run react d st ws turns h).greetings n = h.greetings n) :
    Mirrors ws n (run react d st ws turns h) (introduced react d st ws turns h table) := by
  induction turns generalizing h table with
  | nil => exact hm
  | cons turn rest ih =>
    have hlinked' := hlinked.of_turn react turn
    -- there is no greeting in the whole run, so there is none in its first turn
    have hfirst := greetings_of_turn react hlinked turn n
    have hrest := greetings_of_run react hlinked' rest n
    rw [run_cons] at hsame
    obtain ⟨hm', ha'⟩ := hm.of_turn react hlinked ha (hapart [] List.nil_prefix)
      (hstays turn List.mem_cons_self) (by omega)
    refine ih hlinked' hm' ha' (fun t ht => hstays t (List.mem_cons_of_mem turn ht))
      (fun past hpast => ?_) (by omega)
    exact hapart (turn :: past) ((List.prefix_cons_inj turn).2 hpast)

/-- **Servers mirror what they were introduced to.** At some time of a run a session is registered
and its server is sent a first list of folders; it is not greeted again, and stays registered. At
any time later the server's view holds exactly the addresses of the projects that exist and that
either were workspace folders when the list was made or were created afterwards. -/
theorem folders_mirrored_after_run (react : List γ → Act γ Unit) {k : Nat}
    (hprep : Prepared k d st ws h) (hawaited : Awaited d ws n h) (before : List Turn) {turn : Turn}
    (hturn : turn.introduces n) {after : List Turn} (hafter : ∀ turn ∈ after, ¬ turn.moves n) :
    let awaiting := run react d st ws before (startAdapter k h).2
    let joined := (turn.perform react d st ws awaiting).2
    let reached := run react d st ws after joined
    let table := introduced react d st ws after joined (joined.workspace ws).introductions
    (∀ x ∈ awaiting.said n, x.folders? = none) → n ∈ joined.active →
    (∃ x ∈ joined.said n, x.folders?.isSome = true) → reached.greetings n = joined.greetings n →
    (∀ past, past <+: after → Apart ((run react d st ws past joined).workspace ws)) →
      (∀ name, (findMember? name table).isSome = ((reached.workspace ws).find? name).isSome) ∧
      ∀ u, u ∈ Folders.view (reached.said n) ↔ ∃ name p i,
        (reached.workspace ws).find? name = some p ∧ findMember? name table = some i ∧
          i.arrives = true ∧ u = Text.ofString p.location.uri := by
  intro awaiting joined reached table hunlisted hactive hlisted hsame hapart
  have hstart : Linked d st ws (startAdapter k h).2 ∧ Awaited d ws n (startAdapter k h).2 := by
    obtain ⟨hsessions, -, -, hprojects⟩ := hprep.left
    refine ⟨hprep.linked, ?_, hprojects ▸ hawaited.names⟩
    rw [session, hsessions]
    exact hawaited.definition
  obtain ⟨hlinked, hawaited'⟩ := run_induction
    (P := fun h => Linked d st ws h ∧ Awaited d ws n h) react before
    (fun h turn _ hinv => ⟨hinv.1.of_turn react turn, hinv.2.of_turn react hinv.1 turn⟩) hstart
  obtain ⟨hm, ha⟩ := hawaited'.introduced react hlinked hturn hunlisted hactive hlisted
  have hmirrors := hm.of_run react (hlinked.of_turn react turn) ha hafter hapart hsame
  exact ⟨hmirrors.known, hmirrors.view⟩

/-- A project that is closed after the first list stays in the view, and a hidden project that is
created after it is in the view as well. -/
theorem folders_mirrored_after_close :
    let react : List Empty → Act Empty Unit := fun _ => pure ()
    let before := [Turn.change (.create "p" ⟨.root, ["p"]⟩ false true)]
    let turn := Turn.receive 0 StartResult.plain.1
    let after := [Turn.change (.setOpen "p" false), .change (.create "q" ⟨.root, ["q"]⟩ true true)]
    let awaiting := run react 0 0 0 before (startAdapter 0 small).2
    let joined := (turn.perform react 0 0 0 awaiting).2
    let reached := run react 0 0 0 after joined
    let table := introduced react 0 0 0 after joined (joined.workspace 0).introductions
    Prepared 0 0 0 0 small ∧ Awaited 0 0 0 small ∧
      (∃ x ∈ joined.said 0, x.folders?.isSome = true) ∧
      reached.greetings 0 = joined.greetings 0 ∧
      (∀ name, (findMember? name table).isSome = ((reached.workspace 0).find? name).isSome) ∧
      ∀ u, u ∈ Folders.view (reached.said 0) ↔ ∃ name p i,
        (reached.workspace 0).find? name = some p ∧ findMember? name table = some i ∧
          i.arrives = true ∧ u = Text.ofString p.location.uri := by
  intro react before turn after awaiting joined reached table
  have hawaited : Awaited 0 0 0 small := ⟨rfl, List.nodup_nil⟩
  have hturn : turn.introduces 0 := rfl
  have hunlisted : ∀ x ∈ awaiting.said 0, x.folders? = none := by decide +kernel
  have hlisted : ∃ x ∈ joined.said 0, x.folders?.isSome = true := by decide +kernel
  have hsame : reached.greetings 0 = joined.greetings 0 := by decide +kernel
  have hapart : ∀ past, past <+: after → Apart ((run react 0 0 0 past joined).workspace 0) := by
    intro past hpast
    rcases List.prefix_cons_iff.1 hpast with rfl | ⟨later, rfl, hlater⟩
    · unfold Apart
      decide +kernel
    rcases List.prefix_cons_iff.1 hlater with rfl | ⟨last, rfl, hlast⟩
    · unfold Apart
      decide +kernel
    · rw [List.prefix_nil.1 hlast]
      unfold Apart
      decide +kernel
  exact ⟨prepared_small, hawaited, hlisted, hsame,
    folders_mirrored_after_run react prepared_small hawaited before hturn
      (by simp [after, Turn.moves]) hunlisted (by decide +kernel) hlisted hsame hapart⟩

/-- A server is not told that a project was closed: afterwards its view is not the set of the
addresses of the projects that are workspace folders now. -/
theorem folders_not_mirrored_after_close :
    let react : List Empty → Act Empty Unit := fun _ => pure ()
    let turns := [Turn.change (.create "p" ⟨.root, ["p"]⟩ false true), .join 0 .plain,
      .change (.setOpen "p" false)]
    let reached := run react 0 0 0 turns (startAdapter 0 small).2
    (∃ x ∈ reached.said 0, x.folders?.isSome = true) ∧
      ¬ ∀ u, u ∈ Folders.view (reached.said 0) ↔ ∃ name p,
        (reached.workspace 0).find? name = some p ∧
          (p.resource name).isWorkspaceFolder = true ∧ u = Text.ofString p.location.uri := by
  intro react turns reached
  refine ⟨by decide +kernel, fun hmirrors => ?_⟩
  have hview : Text.ofString "file:///p" ∈ Folders.view (reached.said 0) := by decide +kernel
  have hclosed : ∀ entry ∈ (reached.workspace 0).projects,
      (entry.2.resource entry.1).isWorkspaceFolder = false := by decide +kernel
  obtain ⟨name, p, hfound, heligible, -⟩ := (hmirrors _).1 hview
  have hnot := hclosed (name, p) (Workspace.mem_of_find? hfound)
  rw [heligible] at hnot
  cases hnot

end Host

end LanguageHost
