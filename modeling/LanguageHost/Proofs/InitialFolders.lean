import LanguageHost.Proofs.Delivery
import LanguageHost.Proofs.Traversal

/-!
# The first folders and the problems on the way

The search for the first folders walks every project. What it finds is decided by the table of
projects alone; what stands in the trees only decides what is noted. A project is noted if there is
a folder in its tree that cannot be listed, once however many there are, since the walk over it ends
at the first. Only if the operating system cannot tell of a place whether there is a folder, and a
walk gets that far, is nothing found.
-/

namespace LanguageHost

/-- The problem that ends the walk over a project. -/
def Project.trouble? (fs : FileSystem) (name : String) (p : Project) : Option Problem :=
  ((p.resource name).walkAt fs (fun _ => true) false).fault.bind fun
    | .problem problem => some problem
    | _ => none

/-- What is noted about projects whose walks are ended by a problem. -/
def Project.notes (fs : FileSystem) (entries : List (String × Project)) : List (Text × Tags) :=
  entries.filterMap fun entry => (entry.2.trouble? fs entry.1).map fun problem =>
    (problem.message, [("project", entry.1)])

/-- A folder that cannot be listed. -/
def Resource.IsSealed (fs : FileSystem) (r : Resource) : Prop :=
  r.type ≠ .file ∧ r.accessible = true ∧ ∃ place errno, r.location = some place ∧
    fs.isFolder place = .ok true ∧ fs.list place = .error errno

namespace Walk

lemma fault_along (fault? : Resource → Option Fault) (l : List Resource) :
    (along fault? l).fault = l.findSome? fault? := by
  induction l with
  | nil => rfl
  | cons r rest ih =>
    rw [along, List.findSome?_cons]
    cases fault? r with
    | some fault => rfl
    | none => exact ih

end Walk

namespace FileSystem

variable {fs fs' : FileSystem}

lemma SameTree.trouble? (a : fs.SameTree fs') (name : String) (p : Project) :
    p.trouble? fs' name = p.trouble? fs name := by
  rw [Project.trouble?, a.walkAt, Project.trouble?]

lemma SameTree.notes (a : fs.SameTree fs') (entries : List (String × Project)) :
    Project.notes fs' entries = Project.notes fs entries := by
  rw [Project.notes, Project.notes]
  exact List.filterMap_congr fun entry _ => by rw [a.trouble?]

end FileSystem

namespace Resource

variable {fs : FileSystem} {r : Resource}

/-- A folder that cannot be listed ends a walk by a problem, and nothing else does. -/
lemma isSealed_iff : r.IsSealed fs ↔ ∃ problem, r.membersAt fs = .error (.problem problem) := by
  constructor
  · rintro ⟨htype, haccess, place, errno, hlocation, hfolder, hlist⟩
    exact ⟨_, membersAt_eq_error.2 ⟨htype, haccess, .refused hlocation hfolder hlist⟩⟩
  · rintro ⟨problem, hproblem⟩
    obtain ⟨htype, haccess, hfault⟩ := membersAt_eq_error.1 hproblem
    generalize hsame : Fault.problem problem = fault at hfault
    cases hfault with
    | @refused place errno hlocation hfolder hlist =>
      exact ⟨htype, haccess, place, errno, hlocation, hfolder, hlist⟩
    | unanswered => cases hsame

/-- A walk that visits everything ends at the first resource whose members cannot be told. -/
lemma stop?_eq_some {held : Resource → Except Fault (List Resource)} {x : Resource}
    {fault : Fault} : stop? held (fun _ => true) x = some fault ↔ held x = .error fault := by
  rw [stop?, if_pos rfl]
  rcases held x with other | told
  · exact ⟨fun h => congrArg _ (Option.some.inj h), fun h => congrArg _ (Except.error.inj h)⟩
  · exact iff_of_false (by rintro ⟨⟩) (by rintro ⟨⟩)

end Resource

namespace Project

variable {fs : FileSystem} {name : String} {p : Project}

lemma trouble?_eq_some {problem : Problem} : p.trouble? fs name = some problem ↔
    ((p.resource name).walkAt fs (fun _ => true) false).fault = some (.problem problem) := by
  rw [trouble?]
  rcases ((p.resource name).walkAt fs (fun _ => true) false).fault with _ | fault
  · exact iff_of_false (by rintro ⟨⟩) (by rintro ⟨⟩)
  · cases fault <;> simp

lemma fault_of_closed (hclosed : p.hidden = true ∨ p.isOpen = false) :
    ((p.resource name).walkAt fs (fun _ => true) false).fault = none := by
  rcases hclosed with hhidden | hclosed
  · rw [Resource.walkAt, if_pos (by simp [resource, hhidden])]
  · rw [Resource.walkAt]
    split
    · rfl
    · simp [resource, hclosed]

/-- The walk over a project is ended by a problem exactly if it is visible and open and a folder in
its tree cannot be listed. -/
lemma isSome_trouble? (hfs : fs.IsSound) (hlocation : p.location.IsProper)
    (hanswers : p.Answers fs name) :
    (p.trouble? fs name).isSome = true ↔ p.hidden = false ∧ p.isOpen = true ∧
      ∃ x ∈ ((p.resource name).tree fs).preorder (fun _ => true) false, x.IsSealed fs := by
  have hplaced : (p.resource name).IsPlaced := by
    rintro place ⟨⟩
    exact hlocation
  have hroot : p.resource name ≠ .root := fun h => by cases congrArg Resource.parent h
  have hwalk : (p.resource name).walkAt fs (fun _ => true) false =
      Walk.along (Resource.stop? (Resource.membersAt fs) fun _ => true)
        (((p.resource name).tree fs).preorder (fun _ => true) false) :=
    Resource.walkAt_eq_along (fun _ _ => rfl) hfs hroot hplaced
  have hfault := congrArg Walk.fault hwalk
  rw [Walk.fault_along] at hfault
  constructor
  · intro htrouble
    obtain ⟨problem, hproblem⟩ := Option.isSome_iff_exists.1 htrouble
    have hended := trouble?_eq_some.1 hproblem
    refine ⟨?_, ?_, ?_⟩
    · by_contra hhidden
      rw [fault_of_closed (.inl (by simpa using hhidden))] at hended
      cases hended
    · by_contra hclosed
      rw [fault_of_closed (.inr (by simpa using hclosed))] at hended
      cases hended
    · rw [hfault] at hended
      obtain ⟨x, hx, hstop⟩ := List.exists_of_findSome?_eq_some hended
      exact ⟨x, hx, Resource.isSealed_iff.2 ⟨problem, Resource.stop?_eq_some.1 hstop⟩⟩
  · rintro ⟨-, -, x, hx, hsealed⟩
    obtain ⟨problem, hproblem⟩ := Resource.isSealed_iff.1 hsealed
    rcases hend : ((p.resource name).walkAt fs (fun _ => true) false).fault with _ | fault
    · rw [hfault, List.findSome?_eq_none_iff] at hend
      have hnone := hend x hx
      rw [Resource.stop?_eq_some.2 hproblem] at hnone
      cases hnone
    · rcases Resource.endsWalk_walkAt hend with ⟨first, rfl⟩ | ⟨refused, rfl⟩
      · exact Option.isSome_iff_exists.2 ⟨first, trouble?_eq_some.2 hend⟩
      · rw [Answers, Walk.isRefused, hend] at hanswers
        cases hanswers

end Project

namespace Folders

/-- A collection that no error of the operating system ends notes the projects whose walks are
ended by a problem, in their order, by induction on the projects. -/
lemma collect_eq (found : List Resource) (entries : List (String × Project)) (p : Platform)
    (hanswers : ∀ entry ∈ entries, entry.2.Answers p.files entry.1) :
    collect found (resources entries) p =
      (.ok (found ++ (resources entries).filter Resource.isWorkspaceFolder),
        p.logErrors "yaml.folders" (Project.notes p.files entries)) := by
  induction entries generalizing found p with
  | nil => rw [resources, List.map_nil, List.filter_nil, List.append_nil]; rfl
  | cons entry rest ih =>
    obtain ⟨hfirst, hrest⟩ := List.forall_mem_cons.1 hanswers
    have hfilter := Resource.filter_walkAt p.files (fun _ => true) (entry.2.resource entry.1)
    have hcons : found ++ [entry.2.resource entry.1].filter Resource.isWorkspaceFolder ++
        (resources rest).filter Resource.isWorkspaceFolder =
        found ++ (resources (entry :: rest)).filter Resource.isWorkspaceFolder := by
      rw [List.append_assoc, ← List.filter_append]
      rfl
    rw [← hcons, resources, List.map_cons]
    simp only [collect, Act.get_bind, hfilter]
    rcases hfault : ((entry.2.resource entry.1).walkAt p.files (fun _ => true) false).fault
      with _ | fault
    · have htrouble : entry.2.trouble? p.files entry.1 = none := by
        rw [Project.trouble?, hfault]
        rfl
      rw [Project.notes, List.filterMap_cons_none (by rw [htrouble]; rfl)]
      exact ih _ p hrest
    · rcases Resource.endsWalk_walkAt hfault with ⟨problem, rfl⟩ | ⟨refused, rfl⟩
      · have htrouble := Project.trouble?_eq_some.2 hfault
        have htree : p.files.SameTree (noteProblem entry.1 problem p).files :=
          Platform.sameTree_log _ _ _ _ p
        rw [Project.notes, List.filterMap_cons_some (by rw [htrouble]; rfl)]
        refine (ih _ (noteProblem entry.1 problem p) fun other hother =>
          (htree.answers _ _).2 (hrest other hother)).trans ?_
        rw [htree.notes]
        rfl
      · rw [Project.Answers, Walk.isRefused, hfault] at hfirst
        cases hfirst

lemma isOk_initial (w : Workspace) (p : Platform) :
    (initial w p).1.isOk = true ↔ w.Searchable p.files := by
  have hfound := toOption_initial w p
  by_cases hsearch : w.Searchable p.files
  · rw [if_pos hsearch] at hfound
    refine iff_of_true ?_ hsearch
    rcases hresult : (initial w p).1 with fault | uris
    · rw [hresult] at hfound
      cases hfound
    · rfl
  · rw [if_neg hsearch] at hfound
    refine iff_of_false (fun hok => ?_) hsearch
    rcases hresult : (initial w p).1 with fault | uris
    · rw [hresult] at hok
      cases hok
    · rw [hresult] at hfound
      cases hfound

lemma initial_eq {w : Workspace} {p : Platform} (hsearch : w.Searchable p.files) :
    initial w p = (.ok w.eligible,
      p.logErrors "yaml.folders" (Project.notes p.files w.sortedProjects)) := by
  have hcollect : collect [] w.members p = (.ok (w.members.filter Resource.isWorkspaceFolder),
      p.logErrors "yaml.folders" (Project.notes p.files w.sortedProjects)) :=
    collect_eq [] w.sortedProjects p fun entry hentry =>
      hsearch entry (List.mem_mergeSort.1 hentry)
  have hfound : initial w p = (Task.ofExcept (addresses _) : Task _) _ := Act.bind_ok hcollect
  rw [hfound, Workspace.members, List.filter_map, addresses_projects]
  rfl

/-- **The first folders are decided by the table of projects, and each project with a folder that
cannot be listed is noted once:** the search finds the addresses of the eligible projects, in the
strict order of their names, exactly if no walk over a project is ended by an error of the operating
system; and then it writes one error for each visible, open project in whose tree there is a folder
that cannot be listed, and nothing else. -/
theorem initial_exact {w : Workspace} {p : Platform} (hfs : p.files.IsSound) (hw : w.IsSound) :
    (w.sortedProjects.Perm w.projects ∧ (w.sortedProjects.map Prod.fst).Pairwise (· < ·)) ∧
    ((initial w p).1.isOk = true ↔ w.Searchable p.files) ∧
    (w.Searchable p.files →
      initial w p = (.ok w.eligible,
        p.logErrors "yaml.folders" (Project.notes p.files w.sortedProjects)) ∧
      (∃ loggers : List Logger,
        loggers.length = (Project.notes p.files w.sortedProjects).length ∧
        (initial w p).2.journal.lines = p.journal.lines ++
          List.zipWith (fun logger note => logger.line p.clock .error (.str note.1) note.2) loggers
            (Project.notes p.files w.sortedProjects)) ∧
      ∀ entry ∈ w.projects, (entry.2.trouble? p.files entry.1).isSome = true ↔
        entry.2.hidden = false ∧ entry.2.isOpen = true ∧
        ∃ x ∈ ((entry.2.resource entry.1).tree p.files).preorder (fun _ => true) false,
          x.IsSealed p.files) := by
  refine ⟨⟨List.mergeSort_perm _ _, pairwise_sortByName hw.names⟩, isOk_initial w p,
    fun hsearch => ⟨initial_eq hsearch, ?_, fun entry hentry => ?_⟩⟩
  · rw [initial_eq hsearch]
    exact Platform.lines_logErrors _ _ _
  · exact Project.isSome_trouble? hfs (hw.locations entry hentry) (hsearch entry hentry)

/-- A machine with the folders `FileSystem.looped`. -/
def loopedMachine : Platform :=
  { (default : Platform) with files := .looped }

/-- All three projects are found, and one of them is noted. -/
theorem initial_past_sealed_folder :
    initial .spread loopedMachine = (.ok ["file:///p", "file:///q", "file:///r"],
      loopedMachine.logErrors "yaml.folders" (Project.notes .looped Workspace.spread.projects)) ∧
    (Workspace.spread.projects.map fun entry => (entry.2.trouble? .looped entry.1).isSome) =
      [false, true, false] := by
  have hsearch : Workspace.spread.Searchable loopedMachine.files := by decide +kernel
  have heligible : Workspace.spread.eligible = ["file:///p", "file:///q", "file:///r"] := by
    rw [Workspace.eligible, Workspace.sortedProjects_spread]
    decide +kernel
  obtain ⟨hfound, -, -⟩ := (initial_exact (p := loopedMachine) FileSystem.isSound_looped
    Workspace.isSound_spread).2.2 hsearch
  rw [heligible, Workspace.sortedProjects_spread] at hfound
  exact ⟨hfound, by decide +kernel⟩

/-- A machine with the folders `FileSystem.bare`. -/
def bareMachine : Platform :=
  { (default : Platform) with files := .bare }

/-- Beside a project at a location with too long a name, nothing is found at all. -/
theorem initial_fails_beside_overlong :
    Workspace.strained.eligible =
        [Path.uri ⟨.root, [String.ofList FileSystem.overlong]⟩, "file:///b"] ∧
      (initial .strained bareMachine).1.isOk = false := by
  have hsorted : Workspace.strained.sortedProjects = Workspace.strained.projects :=
    List.mergeSort_of_pairwise (by decide +kernel)
  have hsearch : ¬ Workspace.strained.Searchable bareMachine.files := by
    intro hall
    have hanswers := hall _ List.mem_cons_self
    rw [Project.Answers, Project.walkAt_overlong rfl rfl rfl rfl] at hanswers
    cases hanswers
  constructor
  · rw [Workspace.eligible, hsorted]
    have hother : Path.uri ⟨.root, ["b"]⟩ = "file:///b" := by decide +kernel
    rw [← hother]
    rfl
  · exact eq_false_of_ne_true fun hok => hsearch ((isOk_initial .strained bareMachine).1 hok)

end Folders

end LanguageHost
