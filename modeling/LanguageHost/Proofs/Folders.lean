import LanguageHost.Proofs.Action
import LanguageHost.Proofs.Address

/-!
# The folders that a server is told at first

The search for workspace folders walks the tree of every project, but nothing below a project is a
project. So whatever the trees hold, and whether or not they can be walked to their ends, the
folders that are found are the eligible projects, in the order of their names.
-/

namespace LanguageHost

/-! ## The order of names -/

/-- Names that are not repeated are sorted strictly. -/
lemma pairwise_sortByName {α : Type} {xs : List (String × α)} (hnames : (xs.map Prod.fst).Nodup) :
    ((sortByName xs).map Prod.fst).Pairwise (· < ·) := by
  have hsorted : (sortByName xs).Pairwise fun a b => a.1 ≤ b.1 := by
    have hle : ∀ a b : String × α, (!decide (b.1 < a.1)) = true ↔ a.1 ≤ b.1 := by
      intro a b
      rw [Bool.not_eq_true', decide_eq_false_iff_not, String.not_lt]
    refine (List.pairwise_mergeSort ?_ ?_ xs).imp fun h => (hle _ _).1 h
    · intro a b c hab hbc
      exact (hle a c).2 (String.le_trans ((hle a b).1 hab) ((hle b c).1 hbc))
    · intro a b
      rw [Bool.or_eq_true, hle, hle]
      exact String.le_total a.1 b.1
  have hperm : ((sortByName xs).map Prod.fst).Perm (xs.map Prod.fst) :=
    (List.mergeSort_perm xs _).map Prod.fst
  have hdistinct : ((sortByName xs).map Prod.fst).Nodup := hperm.nodup_iff.2 hnames
  have hordered : ((sortByName xs).map Prod.fst).Pairwise (· ≤ ·) := List.pairwise_map.2 hsorted
  refine hordered.imp₂ ?_ hdistinct
  intro a b hle hne
  exact String.not_le.1 fun hge => hne (String.le_antisymm hle hge)

namespace Resource

/-! ## Walks meet no projects below a project -/

lemma type_member (holder : Resource) (name : String) (isFolder : Bool) :
    (holder.member name isFolder).type ≠ .project := by
  cases isFolder <;> simp [member]

/-- The walk starts with the resource itself, and whatever follows is no project. -/
def StartsAt (r : Resource) (w : Walk) : Prop :=
  ∃ rest, w.visited = r :: rest ∧ ∀ x ∈ rest, x.type ≠ .project

lemma startsAt_single (r : Resource) (fault : Option Fault) : StartsAt r ⟨[r], fault⟩ :=
  ⟨[], rfl, by simp⟩

/-- Walks one after another meet only what the single ones meet. -/
lemma visited_joined (walks : List Walk) : ∀ x ∈ (Walk.joined walks).visited,
    ∃ w ∈ walks, x ∈ w.visited := by
  induction walks with
  | nil => simp [Walk.joined]
  | cons w rest ih =>
    intro x hx
    have hcons : Walk.joined (w :: rest) = w.andThen (Walk.joined rest) := rfl
    rw [hcons, Walk.andThen] at hx
    split at hx
    · exact ⟨w, List.mem_cons_self, hx⟩
    · rcases List.mem_append.1 hx with hx | hx
      · exact ⟨w, List.mem_cons_self, hx⟩
      · obtain ⟨w', hw', hx'⟩ := ih x hx
        exact ⟨w', List.mem_cons_of_mem w hw', hx'⟩

lemma startsAt_andThen {r : Resource} {w : Walk} (hw : ∀ x ∈ w.visited, x.type ≠ .project) :
    StartsAt r (Walk.andThen ⟨[r], none⟩ w) :=
  ⟨w.visited, rfl, hw⟩

mutual

lemma startsAt_walkNode (denied : List String) (visitor : Resource → Bool) (r : Resource) :
    ∀ node : Node, StartsAt r (walkNode denied visitor r node)
  | .file _ | .link _ | .device => by simp [walkNode, startsAt_single]
  | .folder modified entries => by
    rw [walkNode]
    split
    · exact startsAt_single r none
    cases r.refusal? denied with
    | some fault => exact startsAt_single r fault
    | none =>
      refine startsAt_andThen fun x hx => ?_
      obtain ⟨w, hw, hxw⟩ := visited_joined _ x hx
      obtain ⟨entry, hentry, rfl⟩ := List.mem_map.1 hw
      have hsorted := List.mem_mergeSort.1 hentry
      exact type_walkEntries denied visitor r entries entry hsorted x hxw

lemma type_walkEntries (denied : List String) (visitor : Resource → Bool) (holder : Resource) :
    ∀ entries : List (String × Node), ∀ entry ∈ walkEntries denied visitor holder entries,
      ∀ x ∈ entry.2.visited, x.type ≠ .project
  | [] => by simp [walkEntries]
  | (name, node) :: rest => by
    intro entry hentry x hx
    rw [walkEntries] at hentry
    rcases List.mem_cons.1 hentry with rfl | hentry
    · obtain ⟨below, hbelow, hall⟩ :=
        startsAt_walkNode denied visitor (holder.member name node.isFolder) node
      rw [hbelow] at hx
      rcases List.mem_cons.1 hx with rfl | hx
      · exact type_member holder name node.isFolder
      · exact hall x hx
    · exact type_walkEntries denied visitor holder rest entry hentry x hx

end

lemma startsAt_walkAt (fs : FileSystem) (visitor : Resource → Bool) {r : Resource}
    (hvisible : r.hidden = false) : StartsAt r (walkAt fs visitor false r) := by
  rw [walkAt, if_neg (by simp [hvisible])]
  split
  · exact startsAt_single r none
  · exact startsAt_single r none
  split
  · exact startsAt_single r none
  split
  · exact startsAt_single r _
  · exact startsAt_single r none
  split
  · exact startsAt_walkNode _ _ _ _
  · exact startsAt_single r _

/-- Of all that a walk over a resource meets, at most the resource itself is a workspace folder. -/
theorem filter_walkAt (fs : FileSystem) (visitor : Resource → Bool) (r : Resource) :
    (walkAt fs visitor false r).visited.filter isWorkspaceFolder =
      [r].filter isWorkspaceFolder := by
  cases hhidden : r.hidden with
  | true =>
    have hnone : walkAt fs visitor false r = ⟨[], none⟩ := by
      rw [walkAt, if_pos (by simp [hhidden])]
    simp [hnone, isWorkspaceFolder, hhidden]
  | false =>
    obtain ⟨rest, hvisited, hrest⟩ := startsAt_walkAt fs visitor hhidden
    have hbelow : rest.filter isWorkspaceFolder = [] := by
      refine List.filter_eq_nil_iff.2 fun x hx => ?_
      simp [isWorkspaceFolder, hrest x hx]
    rw [hvisited, ← List.singleton_append, List.filter_append, hbelow, List.append_nil]

end Resource

/-- The addresses of the projects that are workspace folders, in the order of their names. -/
def Workspace.eligible (w : Workspace) : List String :=
  (w.sortedProjects.filter fun entry => (entry.2.resource entry.1).isWorkspaceFolder).map
    fun entry => entry.2.location.uri

namespace Folders

/-- A search that comes to its end has found the eligible projects. -/
lemma collect_ok {found projects result : List Resource} {p p' : Platform}
    (hrun : collect found projects p = (.ok result, p')) :
    result = found ++ projects.filter Resource.isWorkspaceFolder := by
  induction projects generalizing found p with
  | nil =>
    cases hrun
    simp
  | cons project rest ih =>
    have hfilter := Resource.filter_walkAt p.files (fun _ => true) project
    have hcons : (project :: rest).filter Resource.isWorkspaceFolder =
        [project].filter Resource.isWorkspaceFolder ++
          rest.filter Resource.isWorkspaceFolder := by
      rw [← List.filter_append, List.singleton_append]
    simp only [collect, Act.get_bind, hfilter] at hrun
    rw [hcons, ← List.append_assoc]
    rcases hfault : (project.walkAt p.files (fun _ => true) false).fault with _ | fault
    · rw [hfault] at hrun
      exact ih hrun
    · rw [hfault] at hrun
      cases fault with
      | problem problem => exact ih hrun
      | _ => cases hrun

lemma cwd_collect (found projects : List Resource) (p : Platform) :
    (collect found projects p).2.cwd = p.cwd := by
  induction projects generalizing found p with
  | nil => rfl
  | cons project rest ih =>
    simp only [collect, Act.get_bind]
    rcases (project.walkAt p.files (fun _ => true) false).fault with _ | fault
    · exact ih _ p
    · cases fault with
      | problem problem =>
        exact (ih _ (noteProblem project.name problem p)).trans (Platform.cwd_log _ _ _ _ p)
      | _ => rfl

lemma address_project (name : String) (project : Project) :
    address (Json.ofString? (project.resource name).uri?) = .ok project.location.uri := by
  simp [Project.resource, Resource.uri?, Json.ofString?, Json.ofString, address]

/-- The addresses of projects are those of their locations. -/
lemma addresses_projects (entries : List (String × Project)) :
    addresses (entries.map fun entry => entry.2.resource entry.1) =
      .ok (entries.map fun entry => entry.2.location.uri) := by
  induction entries with
  | nil => rfl
  | cons entry rest ih =>
    rw [addresses] at ih ⊢
    rw [List.map_cons, List.mapM_cons, ih, address_project]
    rfl

/-- **The folders that a server is told at first are the eligible projects,** if the search for
them comes to its end. -/
theorem initial_ok {w : Workspace} {uris : List String} {p p' : Platform}
    (hrun : initial w p = (.ok uris, p')) : uris = w.eligible := by
  rcases hcollect : collect [] w.members p with ⟨fault | result, p₁⟩
  · have hfailed : initial w p = (.error fault, p₁) := Act.bind_error hcollect
    rw [hfailed] at hrun
    cases hrun
  · have hresult := collect_ok hcollect
    rw [List.nil_append, Workspace.members, List.filter_map] at hresult
    have hfound : initial w p = (Task.ofExcept (addresses result) : Task _) p₁ :=
      Act.bind_ok hcollect
    rw [hresult, addresses_projects] at hfound
    rw [hfound] at hrun
    cases hrun
    rfl

/-- The search for folders does not change where the program runs. -/
lemma cwd_initial (w : Workspace) (p : Platform) : (initial w p).2.cwd = p.cwd := by
  have hcwd := cwd_collect [] w.members p
  rcases hcollect : collect [] w.members p with ⟨fault | result, p₁⟩
  · have hfailed : initial w p = (.error fault, p₁) := Act.bind_error hcollect
    rw [hfailed]
    rwa [hcollect] at hcwd
  · have hfound : initial w p = (Task.ofExcept (addresses result) : Task _) p₁ :=
      Act.bind_ok hcollect
    rw [hcollect] at hcwd
    rw [hfound]
    cases addresses result <;> exact hcwd

end Folders

end LanguageHost
