import LanguageHost.Proofs.Folders
import LanguageHost.Proofs.Places

/-!
# Trees of resources

A resource with all that it holds is a tree. Its preorder has every resource in front of what it
holds, with the members in the order of their names; a hidden resource is left out with all below
it, and below a resource that the visitor declines nothing follows. A resource can stand in a tree
more than once as far as its record tells, since two projects may share a directory; what tells its
places apart is its lineage.

`Workspace.tree` is the tree that the nodes of the file system give, whatever can be listed. It
shows what can be listed: `ResourceTree.Shows`.
-/

namespace LanguageHost

/-- A resource and what it holds. -/
inductive ResourceTree where
  | node (resource : Resource) (members : List ResourceTree)

namespace ResourceTree

/-- The resource at the top. -/
def resource : ResourceTree → Resource
  | node r _ => r

section
variable (visitor : Resource → Bool) (includeHidden : Bool)

mutual

/-- The resources of a tree, each in front of what it holds. -/
def preorder : ResourceTree → List Resource
  | node r members =>
    if r.hidden && !includeHidden then []
    else r :: if visitor r then preorders members else []

/-- The resources of several trees, one tree after another. -/
def preorders : List ResourceTree → List Resource
  | [] => []
  | tree :: rest => preorder tree ++ preorders rest

end

mutual

/-- The resources of a tree in preorder, each with the resources that hold it, the next one
first. -/
def lineages (above : List Resource) : ResourceTree → List (List Resource)
  | node r members =>
    if r.hidden && !includeHidden then []
    else (r :: above) :: if visitor r then memberLineages (r :: above) members else []

/-- The same for several trees below the same resources. -/
def memberLineages (above : List Resource) : List ResourceTree → List (List Resource)
  | [] => []
  | tree :: rest => lineages above tree ++ memberLineages above rest

end

end

/-- Below every resource of the tree stands what it holds, if that can be told, and the names there
are in their order without repetition. -/
inductive Shows (held : Resource → Except Fault (List Resource)) : ResourceTree → Prop
  | node {r : Resource} {members : List ResourceTree} :
    (∀ told, held r = .ok told → members.map resource = told) →
    (members.map fun m => m.resource.name).Pairwise (· < ·) →
    (∀ m ∈ members, m.Shows held) → Shows held (node r members)

variable {visitor : Resource → Bool} {includeHidden : Bool}

lemma preorders_eq (trees : List ResourceTree) :
    preorders visitor includeHidden trees =
      (trees.map (preorder visitor includeHidden)).flatten := by
  induction trees with
  | nil => rfl
  | cons tree rest ih => rw [preorders, ih, List.map_cons, List.flatten_cons]

lemma preorder_hidden {tree : ResourceTree}
    (hhidden : (tree.resource.hidden && !includeHidden) = true) :
    preorder visitor includeHidden tree = [] := by
  cases tree with
  | node r members =>
    rw [preorder]
    exact if_pos hhidden

/-! ## Lineages -/

mutual

lemma head_lineages : ∀ (above : List Resource) (tree : ResourceTree),
    (lineages visitor includeHidden above tree).map List.head? =
      (preorder visitor includeHidden tree).map some
  | above, node r members => by
    rw [lineages, preorder]
    split
    · rfl
    · rw [List.map_cons, List.map_cons, List.head?_cons]
      congr 1
      split
      · exact head_memberLineages (r :: above) members
      · rfl

lemma head_memberLineages : ∀ (above : List Resource) (trees : List ResourceTree),
    (memberLineages visitor includeHidden above trees).map List.head? =
      (preorders visitor includeHidden trees).map some
  | _, [] => rfl
  | above, tree :: rest => by
    rw [memberLineages, preorders, List.map_append, List.map_append, head_lineages above tree,
      head_memberLineages above rest]

end

mutual

/-- Whatever stands in a tree is held by its top, or is the top. -/
lemma suffix_lineages : ∀ (above : List Resource) (tree : ResourceTree),
    ∀ l ∈ lineages visitor includeHidden above tree, tree.resource :: above <:+ l
  | above, node r members => by
    rw [lineages]
    intro l hl
    split at hl
    · cases hl
    rcases List.mem_cons.1 hl with rfl | hl
    · exact List.suffix_refl _
    split at hl
    · obtain ⟨m, -, hm⟩ := suffix_memberLineages (r :: above) members l hl
      exact (List.suffix_cons m.resource (r :: above)).trans hm
    · cases hl

lemma suffix_memberLineages : ∀ (above : List Resource) (trees : List ResourceTree),
    ∀ l ∈ memberLineages visitor includeHidden above trees,
      ∃ m ∈ trees, m.resource :: above <:+ l
  | _, [] => by simp [memberLineages]
  | above, tree :: rest => by
    rw [memberLineages]
    intro l hl
    rcases List.mem_append.1 hl with hl | hl
    · exact ⟨tree, List.mem_cons_self, suffix_lineages above tree l hl⟩
    · obtain ⟨m, hm, hsuffix⟩ := suffix_memberLineages above rest l hl
      exact ⟨m, List.mem_cons_of_mem tree hm, hsuffix⟩

end

/-- Two resources that the same ones hold do not share a lineage below them. -/
lemma eq_of_suffix {a b : Resource} {above l : List Resource} (ha : a :: above <:+ l)
    (hb : b :: above <:+ l) : a = b := by
  have hsame : a :: above = b :: above :=
    (List.suffix_of_suffix_length_le ha hb (Nat.le_refl _)).eq_of_length rfl
  exact (List.cons.inj hsame).1

/-- Trees whose tops differ have no lineage twice if none of them has. -/
lemma nodup_memberLineages {above : List Resource} {trees : List ResourceTree}
    (hnames : (trees.map fun m => m.resource.name).Pairwise (· < ·))
    (hone : ∀ m ∈ trees, (lineages visitor includeHidden above m).Nodup) :
    (memberLineages visitor includeHidden above trees).Nodup := by
  induction trees with
  | nil => exact List.nodup_nil
  | cons tree rest ih =>
    obtain ⟨hfirst, hrest⟩ := List.pairwise_cons.1 hnames
    refine List.nodup_append'.2
      ⟨hone tree List.mem_cons_self, ih hrest fun m hm => hone m (List.mem_cons_of_mem tree hm), ?_⟩
    intro l hl hl'
    obtain ⟨m, hm, hsuffix⟩ := suffix_memberLineages above rest l hl'
    have hsame : tree.resource = m.resource :=
      eq_of_suffix (suffix_lineages above tree l hl) hsuffix
    exact absurd (hfirst _ (List.mem_map_of_mem hm)) (by simp [hsame])

/-- No place of a tree comes twice in its preorder. -/
lemma Shows.nodup_lineages {held : Resource → Except Fault (List Resource)} {tree : ResourceTree}
    (h : tree.Shows held) (above : List Resource) :
    (lineages visitor includeHidden above tree).Nodup := by
  induction h generalizing above with
  | @node r members _ hnames _ ih =>
    rw [lineages]
    split
    · exact List.nodup_nil
    refine List.nodup_cons.2 ⟨fun hagain => ?_, ?_⟩
    · split at hagain
      · obtain ⟨m, -, hm⟩ := suffix_memberLineages (r :: above) members _ hagain
        exact absurd hm.length_le (by simp)
      · cases hagain
    · split
      · exact nodup_memberLineages hnames fun m hm => ih m hm (r :: above)
      · exact List.nodup_nil

end ResourceTree

/-! ## The tree below a resource -/

/-- What is made of each thing by itself can be sorted before or after. -/
lemma sortByName_map {α β : Type} (f : String × α → β) (xs : List (String × α)) :
    sortByName (xs.map fun x => (x.1, f x)) = (sortByName xs).map fun x => (x.1, f x) := by
  rw [sortByName, sortByName]
  refine (List.map_mergeSort ?_).symm
  exact fun _ _ _ _ => rfl

namespace Resource

mutual

/-- The tree below a resource, from the node at its location. -/
def treeOf (r : Resource) : Node → ResourceTree
  | .folder _ es =>
    .node r (if r.accessible then (sortByName (treesOf r es)).map (·.2) else [])
  | _ => .node r []

/-- The trees below the entries of a folder, each under its name. -/
def treesOf (holder : Resource) : List (String × Node) → List (String × ResourceTree)
  | [] => []
  | (name, node) :: rest =>
    (name, treeOf (holder.member name node.isFolder) node) :: treesOf holder rest

end

/-- The tree below a resource that is not the root. -/
def tree (fs : FileSystem) (r : Resource) : ResourceTree :=
  if r.type = .file then .node r []
  else
    (r.location.bind fun place =>
      if FileSystem.hasNul place then none else (fs.stat place).toOption).elim (.node r []) r.treeOf

@[simp]
lemma resource_treeOf (r : Resource) (node : Node) : (r.treeOf node).resource = r := by
  cases node <;> rw [treeOf, ResourceTree.resource] <;> rintro _ _ ⟨⟩

lemma treesOf_eq (holder : Resource) (es : List (String × Node)) :
    treesOf holder es = es.map fun e => (e.1, (holder.member e.1 e.2.isFolder).treeOf e.2) := by
  induction es with
  | nil => rfl
  | cons e rest ih =>
    rw [treesOf, ih]
    rfl

/-- The trees of what a folder holds, by name. -/
lemma treeOf_folder (r : Resource) (modified : Int) (es : List (String × Node)) :
    r.treeOf (.folder modified es) = .node r (if r.accessible then
      (sortByName es).map fun e => (r.member e.1 e.2.isFolder).treeOf e.2 else []) := by
  rw [treeOf, treesOf_eq, sortByName_map, List.map_map]
  rfl

lemma treeOf_of_not_folder (r : Resource) {node : Node} (hnode : node.isFolder = false) :
    r.treeOf node = .node r [] := by
  cases node with
  | folder => cases hnode
  | file | link | device => rw [treeOf]; rintro _ _ ⟨⟩

end Resource

namespace Workspace

/-- The tree below a resource of the workspace. -/
def tree (fs : FileSystem) (w : Workspace) (r : Resource) : ResourceTree :=
  if r = .root then .node r (w.members.map (Resource.tree fs)) else r.tree fs

/-- What a resource of the workspace holds. -/
def held (fs : FileSystem) (w : Workspace) (r : Resource) : Except Fault (List Resource) :=
  if r = .root then .ok w.members else r.membersAt fs

end Workspace

end LanguageHost
