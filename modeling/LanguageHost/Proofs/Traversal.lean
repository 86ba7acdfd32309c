import LanguageHost.Proofs.FolderSearch
import LanguageHost.Proofs.ResourceTree

/-!
# Walks are preorders

The walk over a resource goes along the preorder of its tree, and comes to its end there unless it
asks a resource for what it holds and that cannot be told. The first such resource is the last one
visited, and the fault is the resource's own.

The walk looks at the nodes of the file system one inside the other, while a resource is asked for
its members at its location. Both agree because a folder stands at the location of the resource that
is made for it: `Resource.StandsFor` is what the induction over the nodes carries.
-/

namespace LanguageHost

namespace Walk

/-- The walk along resources up to the first that has a fault, which is visited too. -/
def along (fault? : Resource → Option Fault) : List Resource → Walk
  | [] => ⟨[], none⟩
  | r :: rest =>
    (fault? r).elim (andThen ⟨[r], none⟩ (along fault? rest)) fun fault => ⟨[r], some fault⟩

variable {fault? : Resource → Option Fault}

lemma along_append (front back : List Resource) :
    along fault? (front ++ back) = (along fault? front).andThen (along fault? back) := by
  induction front with
  | nil => rfl
  | cons r rest ih =>
    rw [List.cons_append, along, along, ih]
    cases fault? r with
    | some fault => rfl
    | none =>
      rw [Option.elim_none, Option.elim_none]
      rcases along fault? rest with ⟨visited, _ | fault⟩ <;> rfl

lemma joined_along (lists : List (List Resource)) :
    joined (lists.map (along fault?)) = along fault? lists.flatten := by
  induction lists with
  | nil => rfl
  | cons l rest ih =>
    rw [List.flatten_cons, along_append, ← ih]
    rfl

/-- A walk goes along the whole list, or up to a resource that has a fault behind ones that have
none. -/
theorem along_cases (l : List Resource) :
    (along fault? l = ⟨l, none⟩ ∧ ∀ r ∈ l, fault? r = none) ∨
      ∃ front r back fault, l = front ++ r :: back ∧ (∀ x ∈ front, fault? x = none) ∧
        fault? r = some fault ∧ along fault? l = ⟨front ++ [r], some fault⟩ := by
  induction l with
  | nil => exact .inl ⟨rfl, List.forall_mem_nil _⟩
  | cons r rest ih =>
    cases hfault : fault? r with
    | some fault =>
      refine .inr ⟨[], r, rest, fault, rfl, List.forall_mem_nil _, hfault, ?_⟩
      rw [along, hfault]
      rfl
    | none =>
      have halong : along fault? (r :: rest) = andThen ⟨[r], none⟩ (along fault? rest) := by
        rw [along, hfault]
        rfl
      rw [halong]
      obtain ⟨hwhole, hnone⟩ | ⟨front, x, back, fault, rfl, hfront, hx, hcut⟩ := ih
      · rw [hwhole]
        exact .inl ⟨rfl, List.forall_mem_cons.2 ⟨hfault, hnone⟩⟩
      · rw [hcut]
        exact .inr ⟨r :: front, x, back, fault, rfl, List.forall_mem_cons.2 ⟨hfault, hfront⟩, hx,
          rfl⟩

end Walk

namespace Resource

/-- What ends a walk at a resource: the visitor asks for what the resource holds, and that cannot
be told. -/
def stop? (held : Resource → Except Fault (List Resource)) (visitor : Resource → Bool)
    (r : Resource) : Option Fault :=
  if visitor r then
    match held r with
    | .ok _ => none
    | .error fault => some fault
  else none

variable {held : Resource → Except Fault (List Resource)} {visitor : Resource → Bool}
  {includeHidden : Bool} {r : Resource}

/-- The walk along the preorder of a tree, by its top. -/
lemma along_node (hvisible : (r.hidden && !includeHidden) = false) (members : List ResourceTree) :
    Walk.along (stop? held visitor)
        ((ResourceTree.node r members).preorder visitor includeHidden) =
      (stop? held visitor r).elim
        (Walk.andThen ⟨[r], none⟩ (Walk.joined (if visitor r then members.map fun m =>
          Walk.along (stop? held visitor) (m.preorder visitor includeHidden) else [])))
        fun fault => ⟨[r], some fault⟩ := by
  rw [ResourceTree.preorder, hvisible, if_neg Bool.false_ne_true, Walk.along]
  cases visitor r with
  | false => rfl
  | true =>
    rw [if_pos rfl, if_pos rfl, ResourceTree.preorders_eq, ← Walk.joined_along, List.map_map]
    rfl

/-- The walk along a resource that holds nothing. -/
lemma along_leaf (hvisible : (r.hidden && !includeHidden) = false) (hleaf : held r = .ok []) :
    Walk.along (stop? held visitor)
      ((ResourceTree.node r []).preorder visitor includeHidden) = ⟨[r], none⟩ := by
  rw [along_node hvisible, stop?, hleaf]
  cases visitor r <;> rfl

/-! ## What a resource holds -/

/-- Why it cannot be told what a resource holds. -/
inductive Unlistable (fs : FileSystem) (r : Resource) : Fault → Prop
  /-- There is a folder, but it cannot be listed. -/
  | refused {place : Path} {errno : Errno} : r.location = some place →
    fs.isFolder place = .ok true → fs.list place = .error errno →
    Unlistable fs r (r.listingProblem errno)
  /-- Whether there is a folder cannot be told. -/
  | unanswered {place : Path} {errno : Errno} : r.location = some place →
    fs.isFolder place = .error errno → Unlistable fs r (.os ⟨errno, place.text⟩)

variable {fs : FileSystem}

lemma membersAt_file (htype : r.type = .file) : r.membersAt fs = .ok [] := by
  rw [membersAt, htype]

lemma membersAt_nowhere (hlocation : r.location = none) : r.membersAt fs = .ok [] := by
  rw [membersAt, hlocation]
  cases r.type <;> rfl

/-- What a resource holds that is no file and lies somewhere. -/
lemma membersAt_eq {place : Path} (htype : r.type ≠ .file) (hlocation : r.location = some place) :
    r.membersAt fs = if r.accessible then
      ((fs.isFolder place).mapError fun errno => Fault.os ⟨errno, place.text⟩).bind fun isFolder =>
        if isFolder then ((fs.list place).mapError r.listingProblem).map fun es =>
          (sortByName es).map fun e => r.member e.1 e.2.isFolder
        else .ok []
      else .ok [] := by
  rw [membersAt, hlocation]
  cases hkind : r.type with
  | file => exact absurd hkind htype
  | folder | project | root =>
    dsimp only
    cases r.accessible with
    | false => rfl
    | true =>
      rcases fs.isFolder place with errno | _ | _
      · rfl
      · rfl
      · rcases fs.list place with errno | es <;> rfl

/-- A resource holds something unknown only if its folder cannot be listed, or if it cannot be told
whether there is a folder. -/
lemma membersAt_eq_error {fault : Fault} :
    r.membersAt fs = .error fault ↔
      r.type ≠ .file ∧ r.accessible = true ∧ r.Unlistable fs fault := by
  constructor
  · intro hfault
    have htype : r.type ≠ .file := fun h => by
      rw [membersAt_file h] at hfault
      cases hfault
    cases hlocation : r.location with
    | none =>
      rw [membersAt_nowhere hlocation] at hfault
      cases hfault
    | some place =>
      rw [membersAt_eq htype hlocation] at hfault
      split at hfault
      next haccess =>
        refine ⟨htype, haccess, ?_⟩
        rcases hfolder : fs.isFolder place with errno | _ | _
        · rw [hfolder] at hfault
          cases hfault
          exact .unanswered hlocation hfolder
        · rw [hfolder] at hfault
          cases hfault
        · rcases hlist : fs.list place with errno | es
          · rw [hfolder, hlist] at hfault
            cases hfault
            exact .refused hlocation hfolder hlist
          · rw [hfolder, hlist] at hfault
            cases hfault
      next => cases hfault
  · rintro ⟨htype, haccess, hfault⟩
    cases hfault with
    | refused hlocation hfolder hlist =>
      rw [membersAt_eq htype hlocation, if_pos haccess, hfolder, hlist]
      rfl
    | unanswered hlocation hfolder =>
      rw [membersAt_eq htype hlocation, if_pos haccess, hfolder]
      rfl

lemma refusal?_eq {place : Path} (hlocation : r.location = some place) (denied : List String) :
    r.refusal? denied =
      if FileSystem.IsOverlong place then some (.os ⟨.nameTooLong, place.text⟩)
      else if denied.contains place.text then some (r.listingProblem .accessDenied) else none := by
  rw [refusal?, hlocation]
  rfl

/-- What the resource holds whose folder stands at its location. -/
lemma membersAt_stands (hroot : fs.root.isFolder = true) {place : Path} (htype : r.type ≠ .file)
    (hlocation : r.location = some place) {modified : Int} {es : List (String × Node)}
    (hstands : fs.Stands place (.folder modified es)) :
    r.membersAt fs = if r.accessible then
      (r.refusal? fs.denied).elim
        (.ok ((sortByName es).map fun e => r.member e.1 e.2.isFolder)) .error
      else .ok [] := by
  have hplace : (place.absolute fs.cwd).text = place.text := by
    rw [Path.absolute, Path.append, if_pos hstands.proper.absolute]
  rw [membersAt_eq htype hlocation, hstands.isFolder_eq hroot, FileSystem.list,
    hstands.stat_eq hroot, hplace, refusal?_eq hlocation]
  refine congrArg (if r.accessible then · else _) ?_
  by_cases hlong : FileSystem.IsOverlong place
  · rw [if_pos hlong, if_pos hlong, if_pos hlong]
    rfl
  · rw [if_neg hlong, if_neg hlong, if_neg hlong]
    cases fs.denied.contains place.text <;> rfl

/-! ## Walks over nodes -/

/-- A resource of a walk and the node that is walked over for it. -/
inductive StandsFor (fs : FileSystem) (r : Resource) (node : Node) : Prop
  | leaf : node.isFolder = false → r.type = .file → StandsFor fs r node
  | folder {place : Path} : node.isFolder = true → r.type ≠ .file → r.location = some place →
    fs.Stands place node → StandsFor fs r node

lemma member_ne_root (holder : Resource) (name : String) (isFolder : Bool) :
    holder.member name isFolder ≠ root := by
  intro h
  cases congrArg parent h

/-- What a folder holds stands for its entries. -/
lemma StandsFor.member (hfs : fs.IsSound) {modified : Int} {es : List (String × Node)}
    (h : StandsFor fs r (.folder modified es)) {e : String × Node} (he : e ∈ es) :
    StandsFor fs (r.member e.1 e.2.isFolder) e.2 := by
  cases h with
  | leaf hnode => cases hnode
  | @folder place _ _ hlocation hstands =>
    cases hfolder : e.2.isFolder with
    | false => exact .leaf hfolder rfl
    | true =>
      have hlink : ∀ target, e.2 ≠ .link target := by
        intro target h
        rw [h] at hfolder
        cases hfolder
      refine .folder hfolder (by simp [Resource.member]) ?_ (hstands.child hfs rfl he hlink)
      rw [Resource.member, hlocation]
      rfl

lemma walkEntries_eq (denied : List String) (visitor : Resource → Bool) (holder : Resource)
    (es : List (String × Node)) :
    walkEntries denied visitor holder es =
      es.map fun e => (e.1, walkNode denied visitor (holder.member e.1 e.2.isFolder) e.2) := by
  induction es with
  | nil => rfl
  | cons e rest ih =>
    rw [walkEntries, ih]
    rfl

/-- The walk over a folder, by the walks over what it holds. -/
lemma walkNode_folder (denied : List String) (visitor : Resource → Bool) (r : Resource)
    (modified : Int) (es : List (String × Node)) :
    walkNode denied visitor r (.folder modified es) =
      if visitor r && r.accessible then
        (r.refusal? denied).elim
          (Walk.andThen ⟨[r], none⟩ (Walk.joined ((sortByName es).map fun e =>
            walkNode denied visitor (r.member e.1 e.2.isFolder) e.2)))
          fun fault => ⟨[r], some fault⟩
      else ⟨[r], none⟩ := by
  rw [walkNode, walkEntries_eq, sortByName_map]
  cases visitor r && r.accessible with
  | false => rfl
  | true =>
    cases r.refusal? denied with
    | some fault => rfl
    | none =>
      dsimp only
      rw [List.map_map]
      rfl

lemma walkNode_leaf (denied : List String) (visitor : Resource → Bool) (r : Resource)
    {node : Node} (hnode : node.isFolder = false) :
    walkNode denied visitor r node = ⟨[r], none⟩ := by
  cases node with
  | folder => cases hnode
  | file | link | device => rw [walkNode]; rintro _ _ ⟨⟩

lemma shows_leaf (hleaf : ∀ told, held r = .ok told → told = []) :
    (ResourceTree.node r []).Shows held :=
  .node (fun told htold => (hleaf told htold).symm) .nil (List.forall_mem_nil _)

section
variable (hheld : ∀ x, x ≠ root → held x = x.membersAt fs)

include hheld

/-- A walk over a node goes along the preorder of the tree there, by induction on the node. -/
lemma walkNode_eq_along (hfs : fs.IsSound) {node : Node} (hnode : node.IsSound) (hr : r ≠ root)
    (hstands : StandsFor fs r node) (hvisible : (r.hidden && !includeHidden) = false) :
    walkNode fs.denied visitor r node =
      Walk.along (stop? held visitor) ((r.treeOf node).preorder visitor includeHidden) := by
  induction hnode generalizing r with
  | file | link | device =>
    cases hstands with
    | leaf hother htype =>
      have hleaf : held r = .ok [] := (hheld r hr).trans (membersAt_file htype)
      rw [walkNode_leaf _ _ _ hother, treeOf_of_not_folder _ hother, along_leaf hvisible hleaf]
    | folder hfolder => cases hfolder
  | @folder modified es _ _ _ ih =>
    have hmembers : (sortByName es).map
        (fun e => walkNode fs.denied visitor (r.member e.1 e.2.isFolder) e.2) =
        ((sortByName es).map fun e => (r.member e.1 e.2.isFolder).treeOf e.2).map
          fun m => Walk.along (stop? held visitor) (m.preorder visitor includeHidden) := by
      rw [List.map_map]
      refine List.map_congr_left fun e he => ?_
      have he : e ∈ es := List.mem_mergeSort.1 he
      exact ih e he (member_ne_root _ _ _) (hstands.member hfs he) rfl
    cases hstands with
    | leaf hother => cases hother
    | folder _ htype hlocation hstands =>
      have hr := (hheld r hr).trans (membersAt_stands hfs.root htype hlocation hstands)
      rw [walkNode_folder, treeOf_folder, along_node hvisible, stop?, hr]
      cases visitor r with
      | false => rfl
      | true =>
        cases r.accessible with
        | false => rfl
        | true =>
          cases r.refusal? fs.denied with
          | some fault => rfl
          | none =>
            rw [hmembers]
            rfl

/-- The tree at a node shows what is held, by induction on the node. -/
lemma shows_treeOf (hfs : fs.IsSound) {node : Node} (hnode : node.IsSound) (hr : r ≠ root)
    (hstands : StandsFor fs r node) : (r.treeOf node).Shows held := by
  induction hnode generalizing r with
  | file | link | device =>
    cases hstands with
    | leaf hother htype =>
      rw [treeOf_of_not_folder _ hother]
      refine shows_leaf fun told htold => ?_
      rw [hheld r hr, membersAt_file htype] at htold
      exact (Except.ok.inj htold).symm
    | folder hfolder => cases hfolder
  | @folder modified es hdistinct _ _ ih =>
    have hbelow : ∀ e ∈ sortByName es, ((r.member e.1 e.2.isFolder).treeOf e.2).Shows held :=
      fun e he => ih e (List.mem_mergeSort.1 he) (member_ne_root _ _ _)
        (hstands.member hfs (List.mem_mergeSort.1 he))
    cases hstands with
    | leaf hother => cases hother
    | folder _ htype hlocation hstands =>
      have hr := (hheld r hr).trans (membersAt_stands hfs.root htype hlocation hstands)
      rw [treeOf_folder]
      cases haccess : r.accessible with
      | false =>
        refine shows_leaf fun told htold => ?_
        rw [hr, haccess] at htold
        exact (Except.ok.inj htold).symm
      | true =>
        rw [haccess] at hr
        rw [if_pos rfl]
        refine .node (fun told htold => ?_) ?_ fun m hm => ?_
        · cases hrefusal : r.refusal? fs.denied with
          | some fault =>
            rw [hr, hrefusal] at htold
            cases htold
          | none =>
            rw [hr, hrefusal] at htold
            cases htold
            simp
        · simpa [Resource.member, Function.comp_def] using pairwise_sortByName hdistinct
        · obtain ⟨e, he, rfl⟩ := List.mem_map.1 hm
          exact hbelow e he

end

/-! ## Walks from anywhere -/

lemma tree_file (htype : r.type = .file) : r.tree fs = .node r [] :=
  if_pos htype

lemma tree_nowhere (hlocation : r.location = none) : r.tree fs = .node r [] := by
  rw [tree, hlocation]
  exact ite_self _

/-- The tree below a resource is made from the folder at its location, or there is none. -/
lemma tree_cases (fs : FileSystem) {place : Path} (htype : r.type ≠ .file)
    (hlocation : r.location = some place) :
    (∃ node, fs.isFolder place = .ok true ∧ fs.stat place = .ok node ∧ node.isFolder = true ∧
      FileSystem.hasNul place = false ∧ r.tree fs = r.treeOf node) ∨
      fs.isFolder place ≠ .ok true ∧ r.tree fs = .node r [] := by
  rw [tree, if_neg htype, hlocation, Option.bind_some, FileSystem.isFolder, FileSystem.query]
  cases FileSystem.hasNul place with
  | true => exact .inr ⟨by rintro ⟨⟩, rfl⟩
  | false =>
    rcases hstat : fs.stat place with errno | node
    · refine .inr ⟨?_, rfl⟩
      cases errno <;> rintro ⟨⟩
    · cases hfolder : node.isFolder with
      | true =>
        refine .inl ⟨node, ?_, rfl, hfolder, rfl, rfl⟩
        rw [if_neg Bool.false_ne_true]
        dsimp only
        rw [hfolder]
      | false =>
        refine .inr ⟨?_, treeOf_of_not_folder r hfolder⟩
        rw [if_neg Bool.false_ne_true]
        dsimp only
        rw [hfolder]
        rintro ⟨⟩

lemma resource_tree (fs : FileSystem) (r : Resource) : (r.tree fs).resource = r := by
  rw [tree]
  split
  · rfl
  · cases r.location.bind _ with
    | none => rfl
    | some node => exact resource_treeOf r node

lemma tree_unanswered {place : Path} (hlocation : r.location = some place) {errno : Errno}
    (hfolder : fs.isFolder place = .error errno) : r.tree fs = .node r [] := by
  by_cases htype : r.type = .file
  · exact tree_file htype
  · obtain ⟨node, hanswer, -⟩ | ⟨-, htree⟩ := tree_cases fs htype hlocation
    · rw [hfolder] at hanswer
      cases hanswer
    · exact htree

/-- A location of the resource is a proper path. -/
def IsPlaced (r : Resource) : Prop :=
  ∀ place, r.location = some place → place.IsProper

lemma walkAt_hidden (hhidden : (r.hidden && !includeHidden) = true) :
    r.walkAt fs visitor includeHidden = ⟨[], none⟩ := by
  rw [walkAt, if_pos hhidden]

lemma walkAt_nothing (hvisible : (r.hidden && !includeHidden) = false)
    (hnothing : r.type = .file ∨ r.location = none) :
    r.walkAt fs visitor includeHidden = ⟨[r], none⟩ := by
  rw [walkAt, if_neg (by simp [hvisible])]
  rcases hnothing with htype | hlocation
  · rw [htype]
  · rw [hlocation]
    cases r.type <;> rfl

/-- The walk over a resource without a folder that is known to be one. -/
lemma walkAt_bare {place : Path} (hvisible : (r.hidden && !includeHidden) = false)
    (htype : r.type ≠ .file) (hlocation : r.location = some place)
    (hfolder : fs.isFolder place ≠ .ok true) :
    r.walkAt fs visitor includeHidden =
      (stop? (membersAt fs) visitor r).elim ⟨[r], none⟩ fun fault => ⟨[r], some fault⟩ := by
  rw [walkAt, if_neg (by simp [hvisible]), stop?, membersAt_eq htype hlocation, hlocation]
  cases hkind : r.type with
  | file => exact absurd hkind htype
  | folder | project | root =>
    dsimp only
    cases visitor r with
    | false => rfl
    | true =>
      cases r.accessible with
      | false => rfl
      | true =>
        rcases hanswer : fs.isFolder place with errno | _ | _
        · rfl
        · rfl
        · exact absurd hanswer hfolder

/-- The walk over a resource with a folder goes over the node of the folder. -/
lemma walkAt_folder {place : Path} (hvisible : (r.hidden && !includeHidden) = false)
    (htype : r.type ≠ .file) (hlocation : r.location = some place)
    (hfolder : fs.isFolder place = .ok true) {node : Node} (hstat : fs.stat place = .ok node)
    (hnode : node.isFolder = true) :
    r.walkAt fs visitor includeHidden = walkNode fs.denied visitor r node := by
  obtain ⟨modified, es, rfl⟩ := Node.exists_eq_folder hnode
  rw [walkAt, if_neg (by simp [hvisible]), hlocation, walkNode_folder]
  cases hkind : r.type with
  | file => exact absurd hkind htype
  | folder | project | root =>
    dsimp only
    rw [hfolder, hstat]
    dsimp only
    rw [walkNode_folder]
    cases visitor r && r.accessible <;> rfl

section
variable (hheld : ∀ x, x ≠ root → held x = x.membersAt fs)

include hheld

/-- The walk over a resource that is not the root goes along the preorder of its tree. -/
lemma walkAt_eq_along (hfs : fs.IsSound) (hr : r ≠ root) (hplaced : r.IsPlaced) :
    r.walkAt fs visitor includeHidden =
      Walk.along (stop? held visitor) ((r.tree fs).preorder visitor includeHidden) := by
  cases hvisible : r.hidden && !includeHidden with
  | true =>
    have hhidden : ((r.tree fs).resource.hidden && !includeHidden) = true := by
      rw [resource_tree]
      exact hvisible
    rw [walkAt_hidden hvisible, ResourceTree.preorder_hidden hhidden]
    rfl
  | false =>
    by_cases htype : r.type = .file
    · have hleaf : held r = .ok [] := (hheld r hr).trans (membersAt_file htype)
      rw [walkAt_nothing hvisible (.inl htype), tree_file htype, along_leaf hvisible hleaf]
    cases hlocation : r.location with
    | none =>
      have hleaf : held r = .ok [] := (hheld r hr).trans (membersAt_nowhere hlocation)
      rw [walkAt_nothing hvisible (.inr hlocation), tree_nowhere hlocation,
        along_leaf hvisible hleaf]
    | some place =>
      obtain ⟨node, hfolder, hstat, hnode, hnul, htree⟩ | ⟨hfolder, htree⟩ :=
        tree_cases fs htype hlocation
      · have hstands := FileSystem.stands_of_stat (hplaced place hlocation) hnul hstat
        rw [walkAt_folder hvisible htype hlocation hfolder hstat hnode, htree]
        exact walkNode_eq_along hheld hfs (hstands.sound hfs) hr
          (.folder hnode htype hlocation hstands) hvisible
      · rw [walkAt_bare hvisible htype hlocation hfolder, htree, along_node hvisible, stop?, stop?,
          hheld r hr]
        cases visitor r <;> rfl

/-- The tree below a resource that is not the root shows what is held. -/
lemma shows_tree (hfs : fs.IsSound) (hr : r ≠ root) (hplaced : r.IsPlaced) :
    (r.tree fs).Shows held := by
  by_cases htype : r.type = .file
  · rw [tree_file htype]
    refine shows_leaf fun told htold => ?_
    rw [hheld r hr, membersAt_file htype] at htold
    exact (Except.ok.inj htold).symm
  cases hlocation : r.location with
  | none =>
    rw [tree_nowhere hlocation]
    refine shows_leaf fun told htold => ?_
    rw [hheld r hr, membersAt_nowhere hlocation] at htold
    exact (Except.ok.inj htold).symm
  | some place =>
    obtain ⟨node, hfolder, hstat, hnode, hnul, htree⟩ | ⟨hfolder, htree⟩ :=
      tree_cases fs htype hlocation
    · have hstands := FileSystem.stands_of_stat (hplaced place hlocation) hnul hstat
      rw [htree]
      exact shows_treeOf hheld hfs (hstands.sound hfs) hr (.folder hnode htype hlocation hstands)
    · rw [htree]
      refine shows_leaf fun told htold => ?_
      rw [hheld r hr, membersAt_eq htype hlocation] at htold
      split at htold
      · rcases hanswer : fs.isFolder place with errno | _ | _
        · rw [hanswer] at htold
          cases htold
        · rw [hanswer] at htold
          exact (Except.ok.inj htold).symm
        · exact absurd hanswer hfolder
      · exact (Except.ok.inj htold).symm

end

end Resource

namespace Workspace

/-- The projects have different names, and lie at proper paths. -/
structure IsSound (w : Workspace) : Prop where
  names : (w.projects.map Prod.fst).Nodup
  locations : ∀ entry ∈ w.projects, entry.2.location.IsProper

lemma isSound_empty : Workspace.empty.IsSound :=
  ⟨List.nodup_nil, List.forall_mem_nil _⟩

lemma IsSound.create {w w' : Workspace} (hw : w.IsSound) {name : String} {project : Project}
    (hlocation : project.location.IsProper) {delta : Delta}
    (hdone : w.create name project = .ok (delta, w')) : w'.IsSound := by
  rw [Workspace.create] at hdone
  split at hdone
  · cases hdone
  · next hnone =>
    cases hdone
    have hfree : name ∉ w.projects.map Prod.fst := by
      rw [← isSome_findMember?, show findMember? name w.projects = none from hnone]
      rintro ⟨⟩
    constructor
    · rw [← putMember_absent _ hfree]
      exact nodup_keys_putMember _ _ hw.names
    · intro entry hentry
      rcases List.mem_append.1 hentry with hold | hnew
      · exact hw.locations entry hold
      · rw [List.mem_singleton.1 hnew]
        exact hlocation

lemma IsSound.delete {w w' : Workspace} (hw : w.IsSound) {name : String} {delta : Delta}
    (hdone : w.delete name = .ok (delta, w')) : w'.IsSound := by
  rw [Workspace.delete] at hdone
  split at hdone
  · cases hdone
  · cases hdone
    exact ⟨hw.names.sublist (List.filter_sublist.map _),
      fun entry hentry => hw.locations entry (List.mem_of_mem_filter hentry)⟩

lemma IsSound.setOpen {w w' : Workspace} (hw : w.IsSound) {name : String} {isOpen : Bool}
    {delta : Delta} (hdone : w.setOpen name isOpen = .ok (some (delta, w'))) : w'.IsSound := by
  rw [Workspace.setOpen, require] at hdone
  cases hfind : w.find? name with
  | none =>
    rw [hfind] at hdone
    cases hdone
  | some project =>
    rw [hfind] at hdone
    dsimp only at hdone
    split at hdone
    · cases hdone
    · cases hdone
      refine ⟨nodup_keys_putMember _ _ hw.names, fun entry hentry => ?_⟩
      rcases mem_putMember hentry with rfl | hold
      · exact hw.locations (name, project) (mem_of_findMember? hfind)
      · exact hw.locations entry hold

/-- The walk from a resource of the workspace. -/
def accept (fs : FileSystem) (visitor : Resource → Bool) (includeHidden : Bool) (w : Workspace)
    (r : Resource) : Walk :=
  if r = .root then w.walk fs visitor includeHidden else r.walkAt fs visitor includeHidden

lemma held_eq {fs : FileSystem} {w : Workspace} :
    ∀ x, x ≠ .root → w.held fs x = x.membersAt fs :=
  fun _ hx => if_neg hx

lemma held_eq_error {fs : FileSystem} {w : Workspace} {x : Resource} {fault : Fault} :
    w.held fs x = .error fault ↔
      x.type ≠ .file ∧ x.accessible = true ∧ x.Unlistable fs fault := by
  by_cases hx : x = .root
  · subst hx
    rw [held, if_pos rfl]
    refine iff_of_false (by rintro ⟨⟩) ?_
    rintro ⟨-, -, hfault⟩
    cases hfault with
    | refused hlocation | unanswered hlocation => cases hlocation
  · rw [held_eq x hx, Resource.membersAt_eq_error]

variable {fs : FileSystem} {w : Workspace} {r : Resource}

lemma IsSound.isPlaced (hw : w.IsSound) {x : Resource} (hx : x ∈ w.members) :
    x.IsPlaced ∧ x ≠ .root := by
  obtain ⟨entry, hentry, rfl⟩ := List.mem_map.1 hx
  refine ⟨fun place hplace => ?_, fun hroot => ?_⟩
  · cases hplace
    exact hw.locations entry (List.mem_mergeSort.1 hentry)
  · cases congrArg Resource.parent hroot

/-- The tree of the workspace shows what is held. -/
lemma shows_tree (hfs : fs.IsSound) (hw : w.IsSound) (hr : r.IsPlaced) :
    (w.tree fs r).Shows (w.held fs) := by
  rw [tree]
  split
  next hroot =>
    subst hroot
    refine .node (fun told htold => ?_) ?_ fun m hm => ?_
    · cases htold
      rw [List.map_map]
      exact (List.map_congr_left fun x _ => Resource.resource_tree fs x).trans (List.map_id _)
    · have hnames := pairwise_sortByName hw.names
      simpa [members, sortedProjects, Resource.resource_tree, Function.comp_def,
        Project.resource] using hnames
    · obtain ⟨x, hx, rfl⟩ := List.mem_map.1 hm
      exact Resource.shows_tree held_eq hfs (hw.isPlaced hx).2 (hw.isPlaced hx).1
  next hother => exact Resource.shows_tree held_eq hfs hother hr

/-- The walk from a resource of the workspace goes along the preorder of its tree. -/
lemma accept_eq_along (hfs : fs.IsSound) (hw : w.IsSound) (hr : r.IsPlaced)
    (visitor : Resource → Bool) (includeHidden : Bool) :
    w.accept fs visitor includeHidden r =
      Walk.along (Resource.stop? (w.held fs) visitor)
        ((w.tree fs r).preorder visitor includeHidden) := by
  rw [accept, tree]
  split
  next hroot =>
    subst hroot
    have hmembers : w.members.map (Resource.walkAt fs visitor includeHidden) =
        (w.members.map (Resource.tree fs)).map fun m =>
          Walk.along (Resource.stop? (w.held fs) visitor) (m.preorder visitor includeHidden) := by
      rw [List.map_map]
      exact List.map_congr_left fun x hx =>
        Resource.walkAt_eq_along held_eq hfs (hw.isPlaced hx).2 (hw.isPlaced hx).1
    rw [walk, hmembers, Resource.along_node rfl, Resource.stop?]
    cases visitor .root <;> rfl
  next hother => exact Resource.walkAt_eq_along held_eq hfs hother hr

/-- **A walk goes along the preorder of the tree of resources, up to the first whose members cannot
be told:** the tree shows what is held, whichever folders cannot be listed; no place of the tree
comes twice; and the fault is the problem of a folder that cannot be listed, or the error of the
operating system that cannot tell whether there is a folder. -/
theorem accept_preorder (hfs : fs.IsSound) (hw : w.IsSound) (hr : r.IsPlaced)
    (visitor : Resource → Bool) (includeHidden : Bool) :
    ((w.tree fs r).resource = r ∧ ∀ denied, w.tree { fs with denied } r = w.tree fs r ∧
      (w.tree fs r).Shows (w.held { fs with denied })) ∧
    w.accept fs visitor includeHidden r =
      Walk.along (Resource.stop? (w.held fs) visitor)
        ((w.tree fs r).preorder visitor includeHidden) ∧
    ((w.tree fs r).lineages visitor includeHidden []).map List.head? =
      ((w.tree fs r).preorder visitor includeHidden).map some ∧
    ((w.tree fs r).lineages visitor includeHidden []).Nodup ∧
    ∀ x fault, w.held fs x = .error fault ↔
      x.type ≠ .file ∧ x.accessible = true ∧ x.Unlistable fs fault := by
  have hshows : ∀ denied, (w.tree fs r).Shows (w.held { fs with denied }) := fun denied =>
    have hdenied : FileSystem.IsSound { fs with denied } := ⟨hfs.root, hfs.tree⟩
    shows_tree hdenied hw hr
  have hresource : (w.tree fs r).resource = r := by
    rw [tree]
    split
    · rfl
    · exact Resource.resource_tree fs r
  exact ⟨⟨hresource, fun denied => ⟨rfl, hshows denied⟩⟩,
    accept_eq_along hfs hw hr visitor includeHidden, ResourceTree.head_lineages [] _,
    (hshows fs.denied).nodup_lineages [], fun _ _ => held_eq_error⟩

end Workspace

/-- A machine with a folder that holds a link to itself, one that cannot be listed, and an empty
one. -/
def FileSystem.looped : FileSystem :=
  { (default : FileSystem) with
    root := .folder 0 [("p", .folder 0 [("l", .link "/p")]), ("q", .folder 0 [("k", .file 0)]),
      ("r", .folder 0 [])]
    denied := ["/q"] }

lemma FileSystem.isSound_looped : FileSystem.looped.IsSound := by
  refine ⟨rfl, .folder (by decide) (by decide) ?_⟩
  simp only [List.forall_mem_cons]
  exact ⟨.folder (by decide) (by decide) (List.forall_mem_singleton.2 (.link _)),
    .folder (by decide) (by decide) (List.forall_mem_singleton.2 (.file 0)),
    .folder .nil (List.forall_mem_nil _) (List.forall_mem_nil _), List.forall_mem_nil _⟩

/-- A project on each of these folders. -/
def Workspace.spread : Workspace :=
  ⟨[("a", ⟨⟨.root, ["p"]⟩, false, true⟩), ("b", ⟨⟨.root, ["q"]⟩, false, true⟩),
    ("c", ⟨⟨.root, ["r"]⟩, false, true⟩)], .empty⟩

lemma Workspace.isSound_spread : Workspace.spread.IsSound :=
  ⟨by decide, by decide⟩

lemma Workspace.sortedProjects_spread :
    Workspace.spread.sortedProjects = Workspace.spread.projects :=
  List.mergeSort_of_pairwise (by decide)

lemma Resource.isPlaced_root : Resource.root.IsPlaced := by
  rintro place ⟨⟩

/-- The walk over these projects does not enter the link, and ends at the folder that cannot be
listed. -/
theorem Workspace.accept_ends_past_link :
    Workspace.spread.accept .looped (fun _ => true) false .root =
        Walk.along (Resource.stop? (Workspace.spread.held .looped) fun _ => true)
          ((Workspace.spread.tree .looped .root).preorder (fun _ => true) false) ∧
      (Workspace.spread.accept .looped (fun _ => true) false .root).visited.map Resource.name =
        ["", "a", "l", "b"] ∧
      ((Workspace.spread.tree .looped .root).preorder (fun _ => true) false).map Resource.name =
        ["", "a", "l", "b", "k", "c"] := by
  refine ⟨(Workspace.accept_preorder FileSystem.isSound_looped Workspace.isSound_spread
    Resource.isPlaced_root (fun _ => true) false).2.1, ?_, ?_⟩
  · rw [Workspace.accept, if_pos rfl, Workspace.walk, Workspace.members,
      Workspace.sortedProjects_spread]
    decide +kernel
  · rw [Workspace.tree, if_pos rfl, Workspace.members, Workspace.sortedProjects_spread]
    decide +kernel

/-! ## A walk that the operating system cuts off -/

/-- A project at a location that has too long a name, and another one. -/
def Workspace.strained : Workspace :=
  ⟨[("a", ⟨⟨.root, [String.ofList FileSystem.overlong]⟩, false, true⟩),
    ("b", ⟨⟨.root, ["b"]⟩, false, true⟩)], .empty⟩

lemma Workspace.members_strained : Workspace.strained.members =
    Workspace.strained.projects.map fun entry => entry.2.resource entry.1 := by
  rw [Workspace.members, Workspace.sortedProjects, sortByName,
    List.mergeSort_of_pairwise (by decide)]

/-- A machine with an empty folder at its root, where every folder can be listed. -/
def FileSystem.bare : FileSystem :=
  { (default : FileSystem) with root := .folder 0 [] }

/-- The walk over both is ended at the first by an error of the operating system, although every
folder can be listed. -/
theorem Workspace.accept_cut_at_overlong :
    FileSystem.bare.denied = [] ∧
      ((Workspace.strained.tree .bare .root).preorder (fun _ => true) false).map Resource.name =
        ["", "a", "b"] ∧
      (Workspace.strained.accept .bare (fun _ => true) false .root).visited.map Resource.name =
        ["", "a"] ∧
      (Workspace.strained.accept .bare (fun _ => true) false .root).fault =
        some (.os ⟨.nameTooLong, (Path.text ⟨.root, [String.ofList FileSystem.overlong]⟩)⟩) := by
  refine ⟨rfl, ?_, ?_⟩
  · have hfirst : (Project.resource "a" ⟨⟨.root, [String.ofList FileSystem.overlong]⟩, false,
        true⟩).tree .bare = .node _ [] :=
      Resource.tree_unanswered rfl (FileSystem.isFolder_overlong rfl)
    rw [Workspace.tree, if_pos rfl, Workspace.members_strained, Workspace.strained, List.map_map,
      List.map_cons, Function.comp, hfirst]
    decide +kernel
  · rw [Workspace.accept, if_pos rfl, Workspace.walk, Workspace.members_strained,
      Workspace.strained, List.map_map, List.map_cons, Function.comp,
      Project.walkAt_overlong rfl rfl rfl rfl]
    exact ⟨rfl, rfl⟩

end LanguageHost
