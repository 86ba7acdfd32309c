import LanguageHost.Proofs.Delivery
import LanguageHost.Proofs.Link

/-!
# One announcement for a tree of deltas

The folders listener goes through a whole tree of deltas before it says anything. The projects that
it announces are those among the deltas in preorder whose kind is exactly that of an addition or of
a removal; whatever stands above them, and whatever their flags are, does not matter. If the visit
of any delta fails, or if one of these projects lies nowhere, nothing is announced: one error is
written instead.
-/

namespace LanguageHost

namespace Delta

mutual

/-- The deltas of a tree, each in front of those below it. -/
def preorder : Delta → List Delta
  | node r kind flags broken children =>
    node r kind flags broken children :: preorders children

/-- The deltas of several trees, one tree after another. -/
def preorders : List Delta → List Delta
  | [] => []
  | delta :: rest => preorder delta ++ preorders rest

end

/-- How the visit of a delta fails. -/
def fault? : Delta → Option Fault
  | node _ _ _ broken _ => broken

/-- The projects that deltas of a kind are about. -/
def projectsOf (kind : Int) (deltas : List Delta) : List Resource :=
  (deltas.filter fun d => d.resource.type = .project && d.kind = kind).map resource

/-- The projects that a tree adds. -/
def added (delta : Delta) : List Resource :=
  projectsOf addedKind delta.preorder

/-- The projects that a tree removes. -/
def removed (delta : Delta) : List Resource :=
  projectsOf removedKind delta.preorder

end Delta

/-! ## What a visit collects -/

namespace ProjectChanges

/-- The changes that deltas say, noted behind others. -/
def noteAll (changes : ProjectChanges) (deltas : List Delta) : ProjectChanges :=
  ⟨changes.added ++ Delta.projectsOf addedKind deltas,
    changes.removed ++ Delta.projectsOf removedKind deltas⟩

lemma noteAll_nil (changes : ProjectChanges) : changes.noteAll [] = changes := by
  rw [noteAll, Delta.projectsOf, Delta.projectsOf]
  simp

lemma noteAll_append (changes : ProjectChanges) (front back : List Delta) :
    changes.noteAll (front ++ back) = (changes.noteAll front).noteAll back := by
  simp [noteAll, Delta.projectsOf]

/-- The note of a delta, by its kind. -/
lemma note_eq_noteAll (changes : ProjectChanges) (delta : Delta) :
    changes.note delta.resource delta.kind = changes.noteAll [delta] := by
  have hkinds : addedKind ≠ removedKind := by decide
  rw [note, noteAll, Delta.projectsOf, Delta.projectsOf]
  by_cases hproject : delta.resource.type = .project
  · by_cases hadded : delta.kind = addedKind
    · simp [hproject, hadded, hkinds]
    · by_cases hremoved : delta.kind = removedKind
      · simp [hproject, hremoved, hkinds.symm]
      · simp [hproject, hadded, hremoved]
  · simp [hproject]

end ProjectChanges

namespace Delta

mutual

/-- A visit collects the changes of all deltas of the tree, unless it fails at one: then it fails at
the first. -/
lemma collect_eq (changes : ProjectChanges) : ∀ delta : Delta,
    collect changes delta =
      ((preorder delta).findSome? fault?).elim (.ok (changes.noteAll (preorder delta))) .error
  | node r kind flags none children => by
    have hchildren := collectAll_eq (changes.note r kind) children
    rw [collect, preorder, List.findSome?_cons_of_isNone, hchildren, ← List.singleton_append,
      ProjectChanges.noteAll_append, ← ProjectChanges.note_eq_noteAll]
    · rfl
    · rfl
  | node r kind flags (some fault) children => rfl

lemma collectAll_eq (changes : ProjectChanges) : ∀ deltas : List Delta,
    collectAll changes deltas =
      ((preorders deltas).findSome? fault?).elim (.ok (changes.noteAll (preorders deltas))) .error
  | [] => by
    rw [collectAll, preorders, ProjectChanges.noteAll_nil]
    rfl
  | delta :: rest => by
    rw [collectAll, collect_eq changes delta, preorders, List.findSome?_append]
    cases (preorder delta).findSome? fault? with
    | some fault => rfl
    | none =>
      rw [Option.elim_none, Option.none_or, ProjectChanges.noteAll_append]
      exact collectAll_eq _ rest

end

/-- The projects that a tree adds and removes, if nothing in it is broken. -/
lemma changedProjects_eq (delta : Delta) : delta.changedProjects =
    (delta.preorder.findSome? fault?).elim (.ok ⟨delta.added, delta.removed⟩) .error := by
  rw [changedProjects, collect_eq, ProjectChanges.noteAll, List.nil_append, List.nil_append, added,
    removed]

end Delta

/-! ## Addresses of resources -/

namespace Folders

lemma address_located {r : Resource} {place : Path} (hlocation : r.location = some place) :
    address (Json.ofString? r.uri?) = .ok place.uri := by
  rw [Resource.uri?, hlocation]
  exact congrArg Except.ok (Text.display_ofString _)

lemma address_nowhere {r : Resource} (hlocation : r.location = none) :
    ∃ fault, address (Json.ofString? r.uri?) = .error fault := by
  rw [Resource.uri?, hlocation]
  exact ⟨_, rfl⟩

lemma addresses_cons (r : Resource) (rest : List Resource) :
    addresses (r :: rest) = (address (Json.ofString? r.uri?)).bind fun uri =>
      (addresses rest).map (uri :: ·) := by
  rw [addresses, List.mapM_cons]
  cases address (Json.ofString? r.uri?) with
  | error fault => rfl
  | ok uri => rw [← addresses]; cases addresses rest <;> rfl

/-- Resources that lie somewhere have addresses. -/
lemma addresses_located {resources : List Resource}
    (hall : ∀ r ∈ resources, r.location.isSome = true) :
    addresses resources = .ok (resources.filterMap Resource.uri?) := by
  induction resources with
  | nil => rfl
  | cons r rest ih =>
    obtain ⟨hfirst, hrest⟩ := List.forall_mem_cons.1 hall
    obtain ⟨place, hlocation⟩ := Option.isSome_iff_exists.1 hfirst
    have huri : r.uri? = some place.uri := by rw [Resource.uri?, hlocation]; rfl
    rw [addresses_cons, address_located hlocation, ih hrest, List.filterMap_cons_some huri]
    rfl

/-- There are no addresses if one of the resources lies nowhere. -/
lemma addresses_nowhere {resources : List Resource} {r : Resource} (hr : r ∈ resources)
    (hlocation : r.location = none) : ∃ fault, addresses resources = .error fault := by
  induction resources with
  | nil => cases hr
  | cons first rest ih =>
    rw [addresses_cons]
    rcases List.mem_cons.1 hr with rfl | hr
    · obtain ⟨fault, hfault⟩ := address_nowhere hlocation
      exact ⟨fault, by rw [hfault]; rfl⟩
    · obtain ⟨fault, hfault⟩ := ih hr
      rw [hfault]
      cases address (Json.ofString? first.uri?) with
      | error other => exact ⟨other, rfl⟩
      | ok uri => exact ⟨fault, rfl⟩

end Folders

/-! ## What the listener does -/

open Act Host

variable {γ : Type}

namespace Listener

/-- A host on which one error was written, and nothing else happened. -/
def Complained (h h' : Host γ) : Prop :=
  ∃ message extra, h' = h.log "yaml.listeners" .error message extra

lemma Complained.lines {h h' : Host γ} (a : Complained h h') :
    ∃ line, h'.platform.journal.lines = h.platform.journal.lines ++ [line] := by
  obtain ⟨message, extra, rfl⟩ := a
  obtain ⟨-, logger, hlines⟩ := Platform.log_error "yaml.listeners" message extra h.platform
  exact ⟨_, hlines⟩

variable {definition : Option Nat} {h : Host γ} {delta : Delta}

/-- What goes wrong is an error in the journal. -/
lemma complained_of_error (react : List γ → Act γ Unit) (type : Int) {fault : Fault}
    (hforward : forwardProjects definition none delta h = (.error fault, h)) :
    ∃ h', receive react (.resource type delta) (.folders definition none) h = (.ok (), h') ∧
      Complained h h' :=
  ⟨_, tryCatch_error hforward, _, _, rfl⟩

/-- The visit of a delta fails: what goes wrong is the one error that is written. -/
lemma complained_of_broken (react : List γ → Act γ Unit) (type : Int) {fault : Fault}
    (hflags : delta.flags ≠ markersFlag) (hbroken : delta.changedProjects = .error fault) :
    ∃ h', receive react (.resource type delta) (.folders definition none) h = (.ok (), h') ∧
      Complained h h' := by
  have hrun := congrFun (forwardProjects.eq_def (γ := γ) definition none delta) h
  rw [if_neg hflags, hbroken] at hrun
  cases fault with
  | problem problem =>
    dsimp only at hrun
    split at hrun
    · cases hmembers : problem.members with
      | ok members =>
        rw [hmembers] at hrun
        exact ⟨_, tryCatch_ok hrun, _, _, rfl⟩
      | error fault =>
        rw [hmembers] at hrun
        exact complained_of_error react type hrun
    · exact complained_of_error react type hrun
  | _ => exact complained_of_error react type hrun

/-- A project that is to be announced lies nowhere. -/
lemma complained_of_nowhere (react : List γ → Act γ Unit) (type : Int) {r : Resource}
    (hflags : delta.flags ≠ markersFlag)
    (hchanges : delta.changedProjects = .ok ⟨delta.added, delta.removed⟩)
    (hr : r ∈ delta.added ++ delta.removed) (hlocation : r.location = none) :
    ∃ h', receive react (.resource type delta) (.folders definition none) h = (.ok (), h') ∧
      Complained h h' := by
  have hrun := congrFun (forwardProjects.eq_def (γ := γ) definition none delta) h
  have hsome : (delta.added.isEmpty && delta.removed.isEmpty) = false := by
    rw [Bool.and_eq_false_iff, List.isEmpty_eq_false_iff, List.isEmpty_eq_false_iff]
    exact (List.mem_append.1 hr).imp List.ne_nil_of_mem List.ne_nil_of_mem
  rw [if_neg hflags, hchanges] at hrun
  dsimp only at hrun
  rw [hsome, if_neg Bool.false_ne_true] at hrun
  rcases hadded : Folders.addresses delta.added with fault | added
  · rw [hadded] at hrun
    exact complained_of_error react type hrun
  · rcases List.mem_append.1 hr with hr | hr
    · obtain ⟨fault, hfault⟩ := Folders.addresses_nowhere hr hlocation
      rw [hadded] at hfault
      cases hfault
    · obtain ⟨fault, hfault⟩ := Folders.addresses_nowhere hr hlocation
      rw [hadded, hfault] at hrun
      exact complained_of_error react type hrun

/-- **A tree of deltas is one announcement, or one error, or nothing.** For a tree whose top says
that only annotations changed nothing happens. For any other tree without a broken delta, nothing
happens if it neither adds nor removes a project; and if the projects that it adds and removes all
lie somewhere, the sessions of the definition are told their addresses once, the projects in
preorder and as often as they stand in the tree. If a delta is broken, or one of these projects lies
nowhere, one error is written and nothing else happens. -/
theorem tree_announced_once (react : List γ → Act γ Unit) (definition : Option Nat)
    (hdistinct : h.active.Nodup) (type : Int) (delta : Delta) :
    let result := receive react (.resource type delta) (.folders definition none) h
    (delta.flags = markersFlag → result = (.ok (), h)) ∧
    (delta.flags ≠ markersFlag → (∀ d ∈ delta.preorder, d.fault? = none) →
      (delta.added = [] ∧ delta.removed = [] → result = (.ok (), h)) ∧
      (¬ (delta.added = [] ∧ delta.removed = []) →
        (∀ r ∈ delta.added ++ delta.removed, r.location.isSome = true) →
        result.1 = .ok () ∧ Announced (.folders (Folders.changeParams
          (delta.added.filterMap Resource.uri?) (delta.removed.filterMap Resource.uri?)))
          (h.matching definition) h result.2)) ∧
    (delta.flags ≠ markersFlag → (∃ d ∈ delta.preorder, d.fault?.isSome = true) ∨
        (∃ r ∈ delta.added ++ delta.removed, r.location = none) →
      result.1 = .ok () ∧ Complained h result.2 ∧ ∃ line,
        result.2.platform.journal.lines = h.platform.journal.lines ++ [line]) := by
  intro result
  have hok : result.1 = .ok () := guarded_fst h fun fault h' => rfl
  refine ⟨fun hflags => receive_passes react type (.inl hflags), fun hflags hwhole => ?_,
    fun hflags hfails => ?_⟩
  · have hchanges : delta.changedProjects = .ok ⟨delta.added, delta.removed⟩ := by
      rw [Delta.changedProjects_eq, List.findSome?_eq_none_iff.2 hwhole]
      rfl
    refine ⟨fun ⟨hadded, hremoved⟩ => ?_, fun hsome hall => ⟨hok, ?_⟩⟩
    · rw [hadded, hremoved] at hchanges
      exact receive_passes react type (.inr hchanges)
    · obtain ⟨hadded, hremoved⟩ := List.forall_mem_append.1 hall
      exact receive_tells react type hdistinct hflags hchanges (by simpa using hsome)
        (Folders.addresses_located hadded) (Folders.addresses_located hremoved)
  · have hcomplained : ∃ h', result = (.ok (), h') ∧ Complained h h' := by
      rcases hbroken : delta.preorder.findSome? Delta.fault? with _ | fault
      · have hchanges : delta.changedProjects = .ok ⟨delta.added, delta.removed⟩ := by
          rw [Delta.changedProjects_eq, hbroken]
          rfl
        rcases hfails with ⟨d, hd, hfault⟩ | ⟨r, hr, hlocation⟩
        · rw [List.findSome?_eq_none_iff.1 hbroken d hd] at hfault
          cases hfault
        · exact complained_of_nowhere react type hflags hchanges hr hlocation
      · have hchanges : delta.changedProjects = .error fault := by
          rw [Delta.changedProjects_eq, hbroken]
          rfl
        exact complained_of_broken react type hflags hchanges
    obtain ⟨h', hresult, hdone⟩ := hcomplained
    rw [hresult]
    exact ⟨rfl, hdone, hdone.lines⟩

/-- A host with two registered stand-ins, of two definitions. -/
def audience : Host Empty :=
  { Host.empty default ⟨.root, []⟩ with
    definitions := [.yaml 0 0, .yaml 0 0]
    sessions := [{ (default : Session) with definition := some 0 },
      { (default : Session) with definition := some 1 }]
    active := [0, 1] }

/-- A tree in which a project is added twice, once below a folder, and another one is removed that
stands below it; the deltas in it have flags of annotations. -/
def orchard : Delta :=
  let project name : Resource := Project.resource name ⟨⟨.root, [name]⟩, false, true⟩
  .node .root changedKind 0 none
    [.node ((project "p").member "d" true) addedKind markersFlag none
      [.node (project "p") addedKind markersFlag none [.leaf (project "q") removedKind 0]],
    .leaf (project "p") addedKind openFlag, .leaf (project "q") changedKind 0]

/-- The session of the definition is told of both projects. -/
theorem tree_announced_to_audience :
    let result := receive (fun _ => pure ()) (.resource 1 orchard) (.folders (some 0) none) audience
    result.1 = .ok () ∧ Announced
      (.folders (Folders.changeParams ["file:///p", "file:///p"] ["file:///q"])) [0] audience
      result.2 := by
  intro result
  have hadded : orchard.added.filterMap Resource.uri? = ["file:///p", "file:///p"] := by
    decide +kernel
  have hremoved : orchard.removed.filterMap Resource.uri? = ["file:///q"] := by decide +kernel
  have hresult := ((tree_announced_once (h := audience) (fun _ => pure ()) (some 0) (by decide) 1
    orchard).2.1 (by decide) (by decide)).2 (by decide) (by decide)
  rw [hadded, hremoved] at hresult
  exact hresult

end Listener

end LanguageHost
