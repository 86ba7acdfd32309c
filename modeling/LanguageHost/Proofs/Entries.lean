import LanguageHost.Proofs.Locations

/-!
# Entries of a folder

A path leads where it led as long as the folders and links on its way are there and what stands at
its end is. So taking a file away changes nothing for any path that leads elsewhere, and whatever a
path leads to afterwards it led to before.

If a path that was read from a text leads to a folder, the path with a name behind it leads to the
entry of that name, or to the free place for it.
-/

namespace LanguageHost

namespace FileSystem

/-! ## Ways that stay -/

/-- The folders and links of a tree are in the other one too. -/
structure KeepsWays (root root' : Node) : Prop where
  folder : ∀ l, root.look l = some .folder → root'.look l = some .folder
  link : ∀ l target, root.look l = some (.link target) → root'.look l = some (.link target)

/-- A walk ends at the same node, as far as this is seen from outside, or at the same link. -/
inductive Reach.Same : Reach → Reach → Prop
  | node {l : List String} {n n' : Node} : n'.face = n.face →
    Same (.done (.node l n)) (.done (.node l n'))
  | through {l : List String} {target : String} {rest : List String} :
    Same (.through l target rest) (.through l target rest)

variable {root root' node : Node} {followLast : Bool} {here rest : List String}

lemma look_eq_some {l : List String} {face : Face} :
    root.look l = some face ↔ ∃ n, root.at? l = some n ∧ n.face = face :=
  Option.map_eq_some_iff

lemma look_of_at? {l : List String} {n : Node} (h : root.at? l = some n) :
    root.look l = some n.face :=
  look_eq_some.2 ⟨n, h, rfl⟩

lemma KeepsWays.at?_folder (hways : KeepsWays root root') (hnode : root.at? here = some node)
    (hfolder : node.isFolder = true) :
    ∃ node', root'.at? here = some node' ∧ node'.face = node.face := by
  have hface := Node.isFolder_iff.1 hfolder
  have hlook := hways.folder here (hface ▸ look_of_at? hnode)
  rw [hface]
  exact look_eq_some.1 hlook

lemma KeepsWays.named?_link (hways : KeepsWays root root') {node' : Node} {name target : String}
    (hnode : root.at? here = some node) (hnode' : root'.at? here = some node')
    (hlink : Node.named? name node.entries = some (.link target)) :
    Node.named? name node'.entries = some (.link target) := by
  have hplace : root.at? (here ++ [name]) = some (.link target) := (at?_next hnode name).trans hlink
  obtain ⟨n', hn', hface⟩ := look_eq_some.1 (hways.link _ _ (look_of_at? hplace))
  rw [at?_next hnode', Node.eq_link_of_face hface] at hn'
  exact hn'

/-- A walk that finds something, or meets a link, does so in the other tree. -/
lemma Leads.kept (hways : KeepsWays root root') {r : Reach}
    (h : Leads root followLast here node rest r) (hnode : root.at? here = some node)
    (hend : ∀ l n, r = .done (.node l n) → root'.look l = some n.face)
    (hfound : ∀ l, r ≠ .done (.missing l)) :
    ∃ node' r', root'.at? here = some node' ∧ node'.face = node.face ∧
      Leads root' followLast here node' rest r' ∧ r.Same r' := by
  induction h with
  | arrived =>
    obtain ⟨node', hnode', hface⟩ := look_eq_some.1 (hend _ _ rfl)
    exact ⟨node', _, hnode', hface, .arrived, .node hface⟩
  | dot hfolder _ ih =>
    obtain ⟨node', r', hnode', hface, hr', hsame⟩ := ih hnode hend hfound
    exact ⟨node', r', hnode', hface, .dot (isFolder_of_face hface hfolder) hr', hsame⟩
  | up hfolder _ ih =>
    obtain ⟨node', hnode', hface⟩ := hways.at?_folder hnode hfolder
    obtain ⟨up', r', hup', -, hr', hsame⟩ := ih (Node.at?_dropLast hnode) hend hfound
    refine ⟨node', r', hnode', hface, .up (isFolder_of_face hface hfolder) ?_, hsame⟩
    rwa [hup', Option.getD_some]
  | missing => exact absurd rfl (hfound _)
  | link hfolder hname hlink hlast =>
    obtain ⟨node', hnode', hface⟩ := hways.at?_folder hnode hfolder
    have hlink' := hways.named?_link hnode hnode' hlink
    exact ⟨node', _, hnode', hface, .link (isFolder_of_face hface hfolder) hname hlink' hlast,
      .node rfl⟩
  | through hfolder hname hlink hlast =>
    obtain ⟨node', hnode', hface⟩ := hways.at?_folder hnode hfolder
    have hlink' := hways.named?_link hnode hnode' hlink
    exact ⟨node', _, hnode', hface, .through (isFolder_of_face hface hfolder) hname hlink' hlast,
      .through⟩
  | next hfolder hname hnext hother _ ih =>
    obtain ⟨node', hnode', hface⟩ := hways.at?_folder hnode hfolder
    obtain ⟨next', r', hnext', hnextFace, hr', hsame⟩ :=
      ih ((at?_next hnode _).trans hnext) hend hfound
    rw [at?_next hnode'] at hnext'
    refine ⟨node', r', hnode', hface,
      .next (isFolder_of_face hface hfolder) hname hnext' ?_ hr', hsame⟩
    rintro target rfl
    exact hother target (Node.eq_link_of_face hnextFace.symm)

lemma Goes.kept (hways : KeepsWays root root') {links : Nat} {l : List String} {n : Node}
    (h : Goes root followLast links here rest (.node l n))
    (hhere : root.at? here = some ((root.at? here).getD root))
    (hend : root'.look l = some n.face) :
    ∃ n', Goes root' followLast links here rest (.node l n') ∧ n'.face = n.face := by
  generalize hfound : Found.node l n = found at h
  induction h with
  | arrived hleads =>
    subst hfound
    have hendAt : ∀ l' n₁, Reach.done (.node l n) = .done (.node l' n₁) →
        root'.look l' = some n₁.face := by
      rintro _ _ ⟨⟩
      exact hend
    obtain ⟨node', _, hnode', -, hr', ⟨hface⟩⟩ :=
      hleads.kept hways hhere hendAt (by rintro l ⟨⟩)
    refine ⟨_, .arrived ?_, hface⟩
    rwa [hnode', Option.getD_some]
  | link hleads htarget _ ih =>
    obtain ⟨node', _, hnode', -, hr', ⟨⟩⟩ :=
      hleads.kept hways hhere (by rintro l n ⟨⟩) (by rintro l ⟨⟩)
    obtain ⟨n', hgoes, hface⟩ := ih (hleads.at?_base hhere rfl) hfound
    refine ⟨n', .link ?_ htarget hgoes, hface⟩
    rwa [hnode', Option.getD_some]

variable {fs fs' : FileSystem} {p : Path} {l : List String} {n : Node}

/-- Where a path leads, it leads while its way stays and something of the kind stands at its end. -/
lemma find_kept (hways : KeepsWays fs.root fs'.root) (hcwd : fs'.cwd = fs.cwd)
    (h : fs.find followLast p = .ok (.node l n)) (hend : fs'.root.look l = some n.face) :
    ∃ n', fs'.find followLast p = .ok (.node l n') ∧ n'.face = n.face := by
  obtain ⟨hnameable, hgoes⟩ := find_eq_ok.1 h
  obtain ⟨n', hgoes', hface⟩ := hgoes.kept hways rfl hend
  refine ⟨n', find_eq_ok.2 ⟨hnameable, ?_⟩, hface⟩
  rwa [way, hcwd]

/-- What stands at the end of a path that leads there. -/
lemma at?_of_find (h : fs.find followLast p = .ok (.node l n)) : fs.root.at? l = some n := by
  obtain ⟨-, hgoes⟩ := find_eq_ok.1 h
  cases hgoes.placed rfl with
  | node hnode => exact hnode

/-! ## Taking a file away -/

lemma entries_of_not_folder (hplain : n.isFolder = false) : n.entries = [] := by
  cases n with
  | folder modified es => cases hplain
  | _ => rfl

/-- When something that is no folder is taken away, nothing else changes. -/
lemma look_putNode_none (hthere : fs.root.at? l = some n) (hplain : n.isFolder = false)
    (names : List String) : (fs.putNode l none).root.look names =
      if names = l ∧ l ≠ [] then none else fs.root.look names := by
  rcases List.eq_nil_or_concat l with rfl | ⟨parent, name, rfl⟩
  · rw [if_neg (by simp)]
    rfl
  · rw [List.concat_eq_append] at hthere ⊢
    rw [Node.at?_concat] at hthere
    obtain ⟨holder, hholder, hnamed⟩ := Option.bind_eq_some_iff.1 hthere
    have hfolder : holder.isFolder = true := by
      by_contra hno
      rw [entries_of_not_folder (Bool.eq_false_iff.2 hno)] at hnamed
      cases hnamed
    have hold : ∀ old, Node.named? name holder.entries = some old → old.entries = [] := by
      rintro old hold
      cases hnamed.symm.trans hold
      exact entries_of_not_folder hplain
    have hput : (fs.putNode (parent ++ [name]) none).root.look names =
        if names = parent ++ [name] then none else fs.root.look names :=
      Node.look_put hholder hfolder hold (by rintro node ⟨⟩) fs.now names
    rw [hput]
    simp

/-- What is seen after something was taken away was seen before. -/
lemma look_of_look_putNode_none (hthere : fs.root.at? l = some n) (hplain : n.isFolder = false)
    {names : List String} {face : Face} (h : (fs.putNode l none).root.look names = some face) :
    fs.root.look names = some face := by
  rw [look_putNode_none hthere hplain] at h
  split at h
  · cases h
  · exact h

lemma keepsWays_putNode_none {inode : Nat} (hthere : fs.root.at? l = some (.file inode)) :
    KeepsWays fs.root (fs.putNode l none).root := by
  have hother : ∀ {names face}, fs.root.look names = some face → face ≠ .file inode →
      (fs.putNode l none).root.look names = some face := by
    intro names face hlook hface
    rw [look_putNode_none hthere rfl, if_neg, hlook]
    rintro ⟨rfl, -⟩
    rw [look_of_at? hthere] at hlook
    exact hface (Option.some.inj hlook).symm
  constructor
  · exact fun names hlook => hother hlook (by simp)
  · exact fun names target hlook => hother hlook (by simp)

lemma removeFile_eq_ok (h : fs.removeFile p = .ok fs') :
    ∃ l n, fs.find false p = .ok (.node l n) ∧ n.isFolder = false ∧ fs' = fs.putNode l none := by
  unfold removeFile at h
  split at h
  · cases h
  · cases h
  · cases h
  · rename_i l n hother hfind
    cases h
    refine ⟨l, n, hfind, ?_, rfl⟩
    cases n with
    | folder modified es => exact (hother modified es rfl).elim
    | _ => rfl

end FileSystem

/-! ## Paths as they are read -/

namespace Path

/-- A path as it is read from a text: no name is empty or a dot or holds a slash. -/
def IsRead (p : Path) : Prop :=
  ∀ name ∈ p.names, isStep name.toList = true ∧ '/' ∉ name.toList

instance (p : Path) : Decidable p.IsRead :=
  inferInstanceAs (Decidable (∀ name ∈ p.names, _))

lemma isRead_ofString (s : String) : (Path.ofString s).IsRead :=
  names_ofString s

variable {p : Path} {name : String}

lemma IsRead.parts (hp : p.IsRead) :
    ∀ name ∈ p.names, name.toList ≠ [] ∧ '/' ∉ name.toList := by
  intro name hname
  obtain ⟨hstep, hslash⟩ := hp name hname
  rw [isStep, Bool.and_eq_true] at hstep
  exact ⟨by simpa using hstep.1, hslash⟩

lemma toList_text_of_here (hhere : p.start = .here) (hsome : p.names ≠ []) :
    p.text.toList = ['/'].intercalate (p.names.map String.toList) := by
  have htext : p.text = "" ++ "/".intercalate p.names := by
    rw [text, if_neg (by simp [hsome]), hhere]
    rfl
  rw [htext, String.empty_append, String.toList_intercalate]
  rfl

/-- A relative path leads along its names from where it is seen. -/
lemma IsRead.steps_text (hp : p.IsRead) (hhere : p.start = .here) :
    Path.steps p.text = if p.names = [] then ["."] else p.names := by
  by_cases hnone : p.names = []
  · have htext : p.text = "." := by
      rw [text, if_pos (by simp [hhere, hnone])]
    rw [if_pos hnone, htext]
    rfl
  · set parts := p.names.map String.toList with hparts
    have hsome : parts ≠ [] := by simpa [hparts] using hnone
    have hslash : ∀ part ∈ parts, '/' ∉ part := by
      simpa [hparts] using fun name hname => (hp.parts name hname).2
    have hempty : ∀ part ∈ parts, part ≠ [] := by
      intro part hpart
      obtain ⟨name, hname, rfl⟩ := List.mem_map.1 hpart
      exact (hp.parts name hname).1
    have hread : (splitSlashes [] p.text.toList).filter (· ≠ []) = parts := by
      rw [toList_text_of_here hhere hnone, ← hparts, splitSlashes_intercalate hslash hsome]
      exact List.filter_eq_self.2 fun part hpart => by simpa using hempty part hpart
    have hlast : p.text.toList.getLast? ≠ some '/' := by
      rw [toList_text_of_here hhere hnone, ← hparts, getLast?_intercalate hempty hsome]
      intro hend
      exact hslash _ (List.getLast_mem hsome) (List.mem_of_getLast? hend)
    rw [if_neg hnone, steps, hread, if_neg hlast, hparts, List.map_map]
    simp

lemma IsRead.absolute_text (hp : p.IsRead) :
    (Path.ofString p.text).isAbsolute = p.isAbsolute := by
  by_cases habsolute : p.isAbsolute = true
  · rw [habsolute]
    exact IsProper.absolute_text ⟨habsolute, hp.parts⟩
  · have hhere : p.start = .here := by simpa [isAbsolute] using habsolute
    rw [Bool.eq_false_iff.2 habsolute, Bool.eq_false_iff, Ne, isAbsolute_ofString]
    by_cases hnone : p.names = []
    · have htext : p.text = "." := by
        rw [text, if_pos (by simp [hhere, hnone])]
      rw [htext]
      decide
    · rw [toList_text_of_here hhere hnone]
      refine head?_intercalate ?_ ?_
      · simpa using fun name hname => (hp.parts name hname).1
      · simpa using fun name hname => (hp.parts name hname).2

end Path

namespace FileSystem

variable {fs : FileSystem} {folder : Path} {name : String}

/-- A path that was read leads along its names, from the root or from the current directory. -/
lemma way_read (hfolder : folder.IsRead) : fs.way folder =
    (if folder.isAbsolute then [] else fs.cwd.names) ++
      if folder.names = [] then ["."] else folder.names := by
  by_cases habsolute : folder.isAbsolute = true
  · rw [way_eq ⟨habsolute, hfolder.parts⟩, if_pos habsolute, List.nil_append]
  · have hhere : folder.start = .here := by simpa [Path.isAbsolute] using habsolute
    rw [way, hfolder.absolute_text, hfolder.steps_text hhere]

lemma IsEntryName.isStep (hname : IsEntryName name) : Path.isStep name.toList = true := by
  rw [Path.isStep, Bool.and_eq_true, decide_eq_true_iff, decide_eq_true_iff]
  refine ⟨hname.part.1, fun hdot => hname.notDot ?_⟩
  exact String.toList_inj.1 (show name.toList = ".".toList from hdot)

/-- A part of a path is read as the one name that it is. -/
lemma names_ofString_part (hslash : '/' ∉ name.toList) (hstep : Path.isStep name.toList = true) :
    (Path.ofString name).names = [name] := by
  have hsplit : Path.splitSlashes [] name.toList = [name.toList] := by
    simpa using Path.splitSlashes_last hslash []
  rw [Path.ofString, hsplit]
  simp [hstep]

/-- A name behind a path is read as one more step. -/
lemma child_eq (folder : Path) (hname : IsEntryName name) :
    folder.child name = { folder with names := folder.names ++ [name] } := by
  have hstart : Path.startOf name.toList = .here := by
    refine Path.startOf_eq_here.2 fun hslash => hname.part.2 ?_
    exact List.mem_of_mem_head? hslash
  have hread : Path.ofString name = ⟨.here, [name]⟩ := by
    rw [← names_ofString_part hname.part.2 hname.isStep, ← hstart]
    rfl
  rw [Path.child, hread, Path.append, if_neg (by simp [Path.isAbsolute])]

lemma isRead_child (hfolder : folder.IsRead) (hname : IsEntryName name) :
    (folder.child name).IsRead := by
  rw [child_eq folder hname]
  intro other hother
  rcases List.mem_append.1 hother with hold | hnew
  · exact hfolder other hold
  · rw [List.mem_singleton.1 hnew]
    exact ⟨hname.isStep, hname.part.2⟩

/-- A path with a name behind it leads along one more step. -/
lemma way_child (fs : FileSystem) (hfolder : folder.IsRead) (hname : IsEntryName name) :
    ∃ names, fs.way (folder.child name) = names ++ [name] ∧
      (fs.way folder = names ∨ fs.way folder = names ++ ["."]) := by
  refine ⟨(if folder.isAbsolute then [] else fs.cwd.names) ++ folder.names, ?_, ?_⟩
  · have hread := isRead_child hfolder hname
    rw [child_eq folder hname] at hread ⊢
    have hsome : folder.names ++ [name] ≠ [] := by simp
    rw [way_read hread, if_neg hsome, List.append_assoc]
    rfl
  · rw [way_read hfolder]
    by_cases hnone : folder.names = []
    · rw [if_pos hnone, hnone, List.append_nil]
      exact .inr rfl
    · rw [if_neg hnone]
      exact .inl rfl

variable {place : List String} {modified : Int} {es : List (String × Node)}

/-- The path with a name behind it goes on from the folder. -/
lemma goes_child {found : Found} {followLast : Bool} (hfolder : folder.IsRead)
    (hthere : fs.find true folder = .ok (.node place (.folder modified es)))
    (hname : IsEntryName name)
    (hstep : Leads fs.root followLast place (.folder modified es) [name] (.done found)) :
    Goes fs.root followLast maxLinks [] (fs.way (folder.child name)) found := by
  obtain ⟨-, hgoes⟩ := find_eq_ok.1 hthere
  obtain ⟨names, hway, hsame | hdot⟩ := way_child fs hfolder hname
  · rw [hsame] at hgoes
    rw [hway]
    exact hgoes.onward hstep (List.cons_ne_nil _ _)
  · rw [hdot] at hgoes
    rw [hway]
    exact hgoes.undot.onward hstep (List.cons_ne_nil _ _)

/-- An entry that is no link is found behind the path of its folder. -/
lemma find_child (hfolder : folder.IsRead)
    (hthere : fs.find true folder = .ok (.node place (.folder modified es)))
    (hname : IsEntryName name) (hshort : IsNameable (folder.child name)) {child : Node}
    (hchild : Node.named? name es = some child) (hlink : ∀ target, child ≠ .link target)
    (followLast : Bool) :
    fs.find followLast (folder.child name) = .ok (.node (place ++ [name]) child) :=
  find_eq_ok.2 ⟨hshort, goes_child hfolder hthere hname
    (.next rfl hname.toIsOrdinary hchild hlink .arrived)⟩

/-- Where no entry is, the free place is found. -/
lemma find_child_missing (hfolder : folder.IsRead)
    (hthere : fs.find true folder = .ok (.node place (.folder modified es)))
    (hname : IsEntryName name) (hshort : IsNameable (folder.child name))
    (hfree : Node.named? name es = none) (followLast : Bool) :
    fs.find followLast (folder.child name) = .ok (.missing (place ++ [name])) :=
  find_eq_ok.2 ⟨hshort, goes_child hfolder hthere hname (.missing rfl hname.toIsOrdinary hfree)⟩

end FileSystem

end LanguageHost
