import Mathlib.Logic.Basic
import Mathlib.Tactic.Set
import LanguageHost.Proofs.Folders

/-!
# When the folders of a workspace can be found

The search for folders goes on past a folder whose listing is refused, but not past a path at which
the operating system does not look. So it comes to its end exactly if no walk over a project is
ended by such a path, and `Workspace.Searchable` says so. What the search finds then are the
eligible projects, and nothing but the tree of files decides whether it finds them.
-/

namespace LanguageHost

namespace FileSystem

/-- The same files, folders and links, seen from the same place and by the same one. -/
structure SameTree (fs fs' : FileSystem) : Prop where
  root : fs'.root = fs.root
  cwd : fs'.cwd = fs.cwd
  denied : fs'.denied = fs.denied

variable {fs fs' fs'' : FileSystem}

lemma SameTree.refl (fs : FileSystem) : SameTree fs fs :=
  ⟨rfl, rfl, rfl⟩

lemma SameTree.trans (a : SameTree fs fs') (b : SameTree fs' fs'') : SameTree fs fs'' :=
  ⟨b.root.trans a.root, b.cwd.trans a.cwd, b.denied.trans a.denied⟩

lemma SameTree.isFolder (a : SameTree fs fs') (p : Path) : fs'.isFolder p = fs.isFolder p := by
  simp only [FileSystem.isFolder, query, stat, find, lookUp, a.root, a.cwd]

lemma SameTree.stat (a : SameTree fs fs') (p : Path) : fs'.stat p = fs.stat p := by
  simp only [FileSystem.stat, find, lookUp, a.root, a.cwd]

lemma sameTree_writeThrough (fs : FileSystem) (handle : FileHandle) (written : List UInt8) :
    SameTree fs (fs.writeThrough handle written).2 := by
  refine ⟨?_, cwd_writeThrough fs handle written, ?_⟩
  all_goals
    unfold writeThrough
    cases fs.body? handle.inode with
    | some body =>
      unfold putBody
      dsimp only
      split <;> rfl
    | none => rfl

end FileSystem

/-- Writing to the journal changes no folder. -/
lemma Platform.sameTree_logWith (n : Nat) (level : Level) (message : Json) (extra : Tags)
    (p : Platform) : p.files.SameTree (p.logWith n level message extra).files := by
  unfold logWith
  split
  · unfold writeLine
    dsimp only
    split
    · exact .refl _
    · exact FileSystem.sameTree_writeThrough _ _ _
  · exact .refl _

lemma Platform.sameTree_log (service : String) (level : Level) (message : Text) (extra : Tags)
    (p : Platform) : p.files.SameTree (p.log service level message extra).files := by
  unfold log
  exact sameTree_logWith _ _ _ _ (p.serviceLogger service).2

/-- An error of the operating system ended the walk. -/
def Walk.isRefused (w : Walk) : Bool :=
  match w.fault with
  | some (.os _) => true
  | _ => false

/-- The walk over a project is not ended by an error of the operating system. -/
def Project.Answers (fs : FileSystem) (name : String) (p : Project) : Prop :=
  ((p.resource name).walkAt fs (fun _ => true) false).isRefused = false

instance (fs : FileSystem) (name : String) (p : Project) : Decidable (p.Answers fs name) :=
  inferInstanceAs (Decidable (_ = _))

/-- No walk over a project is ended by an error of the operating system. -/
def Workspace.Searchable (fs : FileSystem) (w : Workspace) : Prop :=
  ∀ entry ∈ w.projects, entry.2.Answers fs entry.1

instance (fs : FileSystem) (w : Workspace) : Decidable (w.Searchable fs) :=
  inferInstanceAs (Decidable (∀ entry ∈ w.projects, entry.2.Answers fs entry.1))

/-! ## Faults of walks -/

namespace Resource

/-- The first of several walks that has a fault gives it to all. -/
lemma fault_joined {walks : List Walk} {fault : Fault}
    (hfault : (Walk.joined walks).fault = some fault) : ∃ w ∈ walks, w.fault = some fault := by
  induction walks with
  | nil => cases hfault
  | cons w rest ih =>
    have hcons : Walk.joined (w :: rest) = w.andThen (Walk.joined rest) := rfl
    rw [hcons, Walk.andThen] at hfault
    split at hfault
    · exact ⟨w, List.mem_cons_self, hfault⟩
    · obtain ⟨w', hw', hfault'⟩ := ih hfault
      exact ⟨w', List.mem_cons_of_mem w hw', hfault'⟩

/-- What ends a walk: a problem, or an error of the operating system. -/
def EndsWalk (fault : Fault) : Prop :=
  (∃ problem, fault = .problem problem) ∨ ∃ refused, fault = .os refused

lemma endsWalk_listingProblem (r : Resource) (errno : Errno) :
    EndsWalk (r.listingProblem errno) :=
  .inl ⟨_, rfl⟩

lemma endsWalk_refusal {denied : List String} {r : Resource} {fault : Fault}
    (hrefusal : r.refusal? denied = some fault) : EndsWalk fault := by
  unfold refusal? at hrefusal
  dsimp only at hrefusal
  split at hrefusal
  · cases hrefusal
    exact .inr ⟨_, rfl⟩
  split at hrefusal
  · cases hrefusal
    exact endsWalk_listingProblem r .accessDenied
  · cases hrefusal

mutual

lemma endsWalk_walkNode (denied : List String) (visitor : Resource → Bool) (r : Resource) :
    ∀ (node : Node) (fault : Fault), (walkNode denied visitor r node).fault = some fault →
      EndsWalk fault
  | .file _, _, hfault | .link _, _, hfault | .device, _, hfault => by
    rw [walkNode] at hfault
    · cases hfault
    all_goals nofun
  | .folder modified entries, fault, hfault => by
    rw [walkNode] at hfault
    split at hfault
    · cases hfault
    cases hrefusal : r.refusal? denied with
    | some refusal =>
      rw [hrefusal] at hfault
      cases hfault
      exact endsWalk_refusal hrefusal
    | none =>
      rw [hrefusal] at hfault
      obtain ⟨w, hw, hfault⟩ := fault_joined hfault
      obtain ⟨entry, hentry, rfl⟩ := List.mem_map.1 hw
      exact endsWalk_walkEntries denied visitor r entries entry (List.mem_mergeSort.1 hentry)
        fault hfault

lemma endsWalk_walkEntries (denied : List String) (visitor : Resource → Bool)
    (holder : Resource) :
    ∀ entries : List (String × Node), ∀ entry ∈ walkEntries denied visitor holder entries,
      ∀ fault, entry.2.fault = some fault → EndsWalk fault
  | [] => by simp [walkEntries]
  | (name, node) :: rest => by
    intro entry hentry fault hfault
    rw [walkEntries] at hentry
    rcases List.mem_cons.1 hentry with rfl | hentry
    · exact endsWalk_walkNode denied visitor (holder.member name node.isFolder) node fault hfault
    · exact endsWalk_walkEntries denied visitor holder rest entry hentry fault hfault

end

/-- Nothing else ends a walk. -/
lemma endsWalk_walkAt {fs : FileSystem} {visitor : Resource → Bool} {includeHidden : Bool}
    {r : Resource} {fault : Fault}
    (hfault : (r.walkAt fs visitor includeHidden).fault = some fault) : EndsWalk fault := by
  rw [walkAt] at hfault
  split at hfault
  · cases hfault
  split at hfault
  · cases hfault
  · cases hfault
  split at hfault
  · cases hfault
  split at hfault
  · cases hfault
    exact .inr ⟨_, rfl⟩
  · cases hfault
  split at hfault
  · exact endsWalk_walkNode _ _ _ _ fault hfault
  · cases hfault
    exact endsWalk_listingProblem r _

end Resource

/-- A walk depends on the tree of files only. -/
lemma FileSystem.SameTree.walkAt {fs fs' : FileSystem} (a : fs.SameTree fs')
    (visitor : Resource → Bool) (includeHidden : Bool) (r : Resource) :
    r.walkAt fs' visitor includeHidden = r.walkAt fs visitor includeHidden := by
  simp only [Resource.walkAt, a.isFolder, a.stat, a.denied]

lemma FileSystem.SameTree.answers {fs fs' : FileSystem} (a : fs.SameTree fs') (name : String)
    (p : Project) : p.Answers fs' name ↔ p.Answers fs name := by
  simp only [Project.Answers, a.walkAt]

/-! ## The search -/

namespace Folders

/-- Projects as the resources that the search goes through. -/
abbrev resources (entries : List (String × Project)) : List Resource :=
  entries.map fun entry => entry.2.resource entry.1

lemma sameTree_collect (found projects : List Resource) (p : Platform) :
    p.files.SameTree (collect found projects p).2.files := by
  induction projects generalizing found p with
  | nil => exact .refl _
  | cons project rest ih =>
    simp only [collect, Act.get_bind]
    rcases (project.walkAt p.files (fun _ => true) false).fault with _ | fault
    · exact ih _ p
    · cases fault with
      | problem problem =>
        exact (Platform.sameTree_log _ _ _ _ p).trans (ih _ (noteProblem project.name problem p))
      | _ => exact .refl _

/-- The collection comes to its end if every project answers, by induction on the projects. -/
lemma isOk_collect (found : List Resource) (entries : List (String × Project)) (p : Platform) :
    (collect found (resources entries) p).1.isOk = true ↔
      ∀ entry ∈ entries, entry.2.Answers p.files entry.1 := by
  induction entries generalizing found p with
  | nil => exact iff_of_true rfl (List.forall_mem_nil _)
  | cons entry rest ih =>
    rw [resources, List.map_cons, List.forall_mem_cons]
    simp only [collect, Act.get_bind]
    rcases hfault : ((entry.2.resource entry.1).walkAt p.files (fun _ => true) false).fault
      with _ | fault
    · have hanswers : entry.2.Answers p.files entry.1 := by
        rw [Project.Answers, Walk.isRefused, hfault]
      rw [and_iff_right hanswers]
      exact ih _ p
    · rcases Resource.endsWalk_walkAt hfault with ⟨problem, rfl⟩ | ⟨refused, rfl⟩
      · have hanswers : entry.2.Answers p.files entry.1 := by
          rw [Project.Answers, Walk.isRefused, hfault]
        rw [and_iff_right hanswers]
        refine (ih _ (noteProblem _ problem p)).trans ?_
        simp only [noteProblem, (Platform.sameTree_log _ _ _ _ p).answers]
      · refine iff_of_false (fun hok => ?_) fun hall => ?_
        · cases hok
        · have hanswers := hall.1
          rw [Project.Answers, Walk.isRefused, hfault] at hanswers
          cases hanswers

lemma sameTree_initial (w : Workspace) (p : Platform) :
    p.files.SameTree (initial w p).2.files := by
  have htree := sameTree_collect [] w.members p
  rcases hcollect : collect [] w.members p with ⟨fault | result, p₁⟩
  · have hfailed : initial w p = (.error fault, p₁) := Act.bind_error hcollect
    rw [hfailed]
    rwa [hcollect] at htree
  · have hfound : initial w p = (Task.ofExcept (addresses result) : Task _) p₁ :=
      Act.bind_ok hcollect
    rw [hcollect] at htree
    rw [hfound]
    cases addresses result <;> exact htree

/-- **The search for folders finds the eligible projects, or nothing:** it comes to its end exactly
if no walk over a project is ended by an error of the operating system. -/
theorem toOption_initial (w : Workspace) (p : Platform) :
    (initial w p).1.toOption = if w.Searchable p.files then some w.eligible else none := by
  have hsearch := isOk_collect [] w.sortedProjects p
  have hsearchable : (∀ entry ∈ w.sortedProjects, entry.2.Answers p.files entry.1) ↔
      w.Searchable p.files := by
    simp only [Workspace.Searchable, Workspace.sortedProjects, sortByName, List.mem_mergeSort]
  rw [hsearchable] at hsearch
  rcases hcollect : collect [] w.members p with ⟨fault | result, p₁⟩
  · have hfailed : initial w p = (.error fault, p₁) := Act.bind_error hcollect
    have hnot : ¬ w.Searchable p.files := fun hall => by
      have hok := hsearch.2 hall
      rw [show collect [] (resources w.sortedProjects) p = _ from hcollect] at hok
      cases hok
    rw [hfailed, if_neg hnot]
    rfl
  · have hall : w.Searchable p.files := hsearch.1 (by
      rw [show collect [] (resources w.sortedProjects) p = _ from hcollect]
      rfl)
    rw [if_pos hall]
    have hfound : initial w p = (Task.ofExcept (addresses result) : Task _) p₁ :=
      Act.bind_ok hcollect
    have hresult := collect_ok hcollect
    rw [List.nil_append, Workspace.members, List.filter_map] at hresult
    rw [hfound, hresult, addresses_projects]
    rfl

/-- Only the tree of files decides what the search finds. -/
lemma toOption_initial_congr (w : Workspace) {p p' : Platform}
    (htree : p.files.SameTree p'.files) :
    (initial w p').1.toOption = (initial w p).1.toOption := by
  rw [toOption_initial, toOption_initial]
  refine if_congr ?_ rfl rfl
  simp only [Workspace.Searchable, htree.answers]

end Folders

/-! ## A location that does not answer -/

/-- The letters of a name that is one byte longer than a file system takes. -/
def FileSystem.overlong : List Char :=
  List.replicate 256 'n'

/-- Of a location with too long a name it cannot be told whether there is a folder. -/
lemma FileSystem.isFolder_overlong {fs : FileSystem} (hroot : fs.root.isFolder = true) :
    fs.isFolder ⟨.root, [String.ofList overlong]⟩ = .error .nameTooLong := by
  set p : Path := ⟨.root, [String.ofList overlong]⟩ with hp
  have htext : p.text = String.ofList ('/' :: overlong) := by decide +kernel
  have hempty : p.text.isEmpty = false := rfl
  have hfits : ¬ maxPathBytes < p.text.utf8ByteSize := by decide +kernel
  have hsteps : Path.steps p.text = [String.ofList overlong] := by
    rw [htext, Path.steps, String.toList_ofList]
    decide +kernel
  have habsolute : (Path.ofString p.text).isAbsolute = true := by
    rw [htext, Path.ofString, String.toList_ofList]
    rfl
  have hnul : hasNul p = false := by
    rw [hasNul, hp, List.any_cons, List.any_nil, String.toList_ofList]
    rfl
  have hdots : String.ofList overlong ≠ "." ∧ String.ofList overlong ≠ ".." := by decide +kernel
  have hlong : maxNameBytes < (String.ofList overlong).utf8ByteSize := by decide +kernel
  have hwalk : walk fs.root true [] fs.root [String.ofList overlong] = .failed .nameTooLong := by
    simp [walk, hroot, hdots, hlong]
  have hfind : fs.find true p = .error .nameTooLong := by
    rw [find, lookUp, hempty, if_neg nofun, if_neg hfits, habsolute, hsteps]
    unfold follow
    simp [Node.at?, hwalk]
  rw [isFolder, query, hnul, stat, hfind]
  rfl

/-- The walk over a visible, open project at such a location visits the project and is ended by an
error. -/
lemma Project.walkAt_overlong {fs : FileSystem} (hroot : fs.root.isFolder = true)
    {project : Project}
    (hlocation : project.location = ⟨.root, [String.ofList FileSystem.overlong]⟩)
    (hvisible : project.hidden = false) (hopen : project.isOpen = true) (name : String) :
    (project.resource name).walkAt fs (fun _ => true) false =
      ⟨[project.resource name], some (.os ⟨.nameTooLong, project.location.text⟩)⟩ := by
  have hfailed : fs.isFolder project.location = .error .nameTooLong := by
    rw [hlocation]
    exact FileSystem.isFolder_overlong hroot
  rw [Resource.walkAt]
  simp [Project.resource, hvisible, hopen, hfailed]

end LanguageHost
