import Mathlib.Data.List.Nodup
import LanguageHost.Proofs.Writing

/-!
# Where the entries of a folder stand

A path whose text can be taken apart into its names again leads along these names. If it leads to a
folder, then the path with a name of that folder behind it leads to what the folder holds under that
name, unless this is a link. `FileSystem.Stands` says that a path leads to a node as far as the file
tree is concerned; whether the operating system looks there depends on the length of the path alone.
-/

namespace LanguageHost

/-! ## Names of a path -/

namespace Path

/-- An absolute path whose names are neither empty nor hold a slash. -/
structure IsProper (p : Path) : Prop where
  absolute : p.isAbsolute = true
  names : ∀ name ∈ p.names, name.toList ≠ [] ∧ '/' ∉ name.toList

instance (p : Path) : Decidable p.IsProper :=
  decidable_of_iff (p.isAbsolute = true ∧ ∀ name ∈ p.names, name.toList ≠ [] ∧ '/' ∉ name.toList)
    ⟨fun h => ⟨h.1, h.2⟩, fun h => ⟨h.1, h.2⟩⟩

lemma splitSlashes_last {part : List Char} (hpart : '/' ∉ part) (word : List Char) :
    splitSlashes word part = [word.reverse ++ part] := by
  induction part generalizing word with
  | nil => simp [splitSlashes]
  | cons c rest ih =>
    obtain ⟨hc, hrest⟩ := not_or.1 (List.mem_cons.not.1 hpart)
    rw [splitSlashes, if_neg (Ne.symm hc), ih hrest]
    simp

lemma splitSlashes_cons {part : List Char} (hpart : '/' ∉ part) (word rest : List Char) :
    splitSlashes word (part ++ '/' :: rest) = (word.reverse ++ part) :: splitSlashes [] rest := by
  induction part generalizing word with
  | nil => simp [splitSlashes]
  | cons c more ih =>
    obtain ⟨hc, hmore⟩ := not_or.1 (List.mem_cons.not.1 hpart)
    rw [List.cons_append, splitSlashes, if_neg (Ne.symm hc), ih hmore]
    simp

/-- Parts without slashes are found again between the slashes. -/
lemma splitSlashes_intercalate {parts : List (List Char)} (hparts : ∀ part ∈ parts, '/' ∉ part)
    (hsome : parts ≠ []) : splitSlashes [] (['/'].intercalate parts) = parts := by
  induction parts with
  | nil => exact absurd rfl hsome
  | cons part rest ih =>
    obtain ⟨hpart, hrest⟩ := List.forall_mem_cons.1 hparts
    cases rest with
    | nil => simpa using splitSlashes_last hpart []
    | cons next rest =>
      rw [List.intercalate_cons_cons, List.append_assoc, List.singleton_append,
        splitSlashes_cons hpart, ih hrest (List.cons_ne_nil _ _)]
      rfl

lemma getLast?_intercalate {parts : List (List Char)} (hparts : ∀ part ∈ parts, part ≠ [])
    (hsome : parts ≠ []) :
    (['/'].intercalate parts).getLast? = (parts.getLast hsome).getLast? := by
  induction parts with
  | nil => exact absurd rfl hsome
  | cons part rest ih =>
    obtain ⟨-, hrest⟩ := List.forall_mem_cons.1 hparts
    cases rest with
    | nil => simp
    | cons next rest =>
      have hlast : ((next :: rest).getLast (List.cons_ne_nil _ _)).getLast? ≠ none := by
        rw [Ne, List.getLast?_eq_none_iff]
        exact hrest _ (List.getLast_mem _)
      rw [List.intercalate_cons_cons, List.getLast?_append, ih hrest (List.cons_ne_nil _ _),
        List.getLast_cons (List.cons_ne_nil _ _)]
      exact Option.or_of_isSome (Option.isSome_iff_ne_none.2 hlast)

namespace IsProper

variable {p : Path} (hp : p.IsProper)

include hp

/-- The text of a proper path is one or two slashes and then its names between slashes. -/
lemma toList_text : ∃ more, (more = [] ∨ more = ['/']) ∧
    p.text.toList = '/' :: more ++ ['/'].intercalate (p.names.map String.toList) := by
  have hstart : ¬ (p.start = .here) := by simpa [isAbsolute] using hp.absolute
  have htext : p.text = p.start.text ++ "/".intercalate p.names := by
    rw [text, if_neg (by simp [hstart])]
  rw [htext, String.toList_append, String.toList_intercalate]
  cases hkind : p.start with
  | here => exact absurd hkind hstart
  | root => exact ⟨[], .inl rfl, rfl⟩
  | doubleRoot => exact ⟨['/'], .inr rfl, rfl⟩

lemma text_ne : p.text.isEmpty = false := by
  obtain ⟨more, -, htext⟩ := hp.toList_text
  cases hempty : p.text.isEmpty with
  | false => rfl
  | true =>
    rw [String.isEmpty_iff.1 hempty] at htext
    cases htext

lemma absolute_text : (Path.ofString p.text).isAbsolute = true := by
  obtain ⟨more, hmore, htext⟩ := hp.toList_text
  have hstart : startOf p.text.toList ≠ .here := by
    rw [htext]
    unfold startOf
    split
    · rintro ⟨⟩
    · rintro ⟨⟩
    · rintro ⟨⟩
    · next hnone => exact absurd rfl (hnone _)
  exact decide_eq_true hstart

/-- A proper path leads along its names. -/
lemma steps_text (hsome : p.names ≠ []) : Path.steps p.text = p.names := by
  obtain ⟨more, hmore, htext⟩ := hp.toList_text
  set parts := p.names.map String.toList with hparts
  have hnone : parts ≠ [] := by simpa [hparts] using hsome
  have hslash : ∀ part ∈ parts, '/' ∉ part := by
    simpa [hparts] using fun name hname => (hp.names name hname).2
  have hempty : ∀ part ∈ parts, part ≠ [] := by
    intro part hpart
    obtain ⟨name, hname, rfl⟩ := List.mem_map.1 hpart
    exact (hp.names name hname).1
  have hsplit : (splitSlashes [] p.text.toList).filter (· ≠ []) = parts := by
    have hfilter : parts.filter (· ≠ []) = parts :=
      List.filter_eq_self.2 fun part hpart => by simpa using hempty part hpart
    rcases hmore with rfl | rfl <;>
      simpa [htext, splitSlashes, splitSlashes_intercalate hslash hnone] using hfilter
  have hlast : p.text.toList.getLast? ≠ some '/' := by
    intro hend
    rw [htext, List.getLast?_append, getLast?_intercalate hempty hnone] at hend
    rcases hpart : (parts.getLast hnone).getLast? with _ | c
    · exact hempty _ (List.getLast_mem hnone) (List.getLast?_eq_none_iff.1 hpart)
    · rw [hpart, Option.some_or, Option.some.injEq] at hend
      subst hend
      exact hslash _ (List.getLast_mem hnone) (List.mem_of_getLast? hpart)
  rw [steps, hsplit, if_neg hlast, hparts, List.map_map]
  simp

/-- The root itself is asked for as a folder. -/
lemma steps_root (hnone : p.names = []) : Path.steps p.text = ["."] := by
  obtain ⟨more, hmore, htext⟩ := hp.toList_text
  rw [hnone, List.map_nil] at htext
  rw [steps, htext]
  rcases hmore with rfl | rfl <;> rfl

/-- A proper path stays proper with one more name. -/
lemma concat {name : String} (hname : name.toList ≠ [] ∧ '/' ∉ name.toList) :
    IsProper { p with names := p.names ++ [name] } :=
  ⟨hp.absolute, by
    intro other hother
    rcases List.mem_append.1 hother with hold | hnew
    · exact hp.names other hold
    · rw [List.mem_singleton.1 hnew]
      exact hname⟩

end IsProper

lemma mem_splitSlashes {word s part : List Char} (hword : '/' ∉ word)
    (hpart : part ∈ splitSlashes word s) : '/' ∉ part := by
  induction s generalizing word with
  | nil =>
    rw [List.mem_singleton.1 hpart]
    simpa using hword
  | cons c rest ih =>
    rw [splitSlashes] at hpart
    split at hpart
    · rcases List.mem_cons.1 hpart with rfl | hpart
      · simpa using hword
      · exact ih (by simp) hpart
    · next hc => exact ih (by simpa using ⟨Ne.symm hc, hword⟩) hpart

lemma names_foldl_walkName (names done : List String) :
    ∀ name ∈ names.foldl walkName done, name ∈ done ∨ name ∈ names := by
  induction names generalizing done with
  | nil => exact fun name hname => .inl hname
  | cons next rest ih =>
    intro name hname
    rcases ih (walkName done next) name hname with hdone | hrest
    · rw [walkName] at hdone
      split at hdone
      · exact .inl (List.dropLast_subset _ hdone)
      · rcases List.mem_append.1 hdone with hold | hnew
        · exact .inl hold
        · exact .inr (List.mem_cons.2 (.inl (List.mem_singleton.1 hnew)))
    · exact .inr (List.mem_cons_of_mem next hrest)

/-- The names that are read from a text are steps, and no slash is in them. -/
lemma names_ofString (s : String) :
    ∀ name ∈ (Path.ofString s).names, isStep name.toList = true ∧ '/' ∉ name.toList := by
  intro name hname
  obtain ⟨part, hpart, rfl⟩ := List.mem_map.1 hname
  obtain ⟨hmem, hstep⟩ := List.mem_filter.1 hpart
  rw [String.toList_ofList]
  exact ⟨hstep, mem_splitSlashes (by simp) hmem⟩

/-- Every location is a proper path: it is the canonical form of a text. -/
theorem isProper_canonical (s : String) {cwd : Path} (hcwd : cwd.IsProper) :
    ((Path.ofString s).canonical cwd).IsProper := by
  have hread : ∀ name ∈ (Path.ofString s).names, name.toList ≠ [] ∧ '/' ∉ name.toList := by
    intro name hname
    obtain ⟨hstep, hslash⟩ := names_ofString s name hname
    rw [isStep, Bool.and_eq_true] at hstep
    exact ⟨by simpa using hstep.1, hslash⟩
  set full := (Path.ofString s).absolute cwd with hfull
  have hproper : full.IsProper := by
    by_cases habsolute : (Path.ofString s).isAbsolute = true
    · rw [hfull, Path.absolute, append, if_pos habsolute]
      exact ⟨habsolute, hread⟩
    · rw [hfull, Path.absolute, append, if_neg habsolute]
      exact ⟨hcwd.absolute, fun name hname =>
        (List.mem_append.1 hname).elim (hcwd.names name) (hread name)⟩
  exact ⟨hproper.absolute, fun name hname => hproper.names name
    ((names_foldl_walkName _ [] name hname).resolve_left List.not_mem_nil)⟩

end Path

/-! ## Sound trees -/

/-- A name that an entry of a folder can have. -/
structure FileSystem.IsEntryName (name : String) : Prop extends FileSystem.IsOrdinary name where
  part : name.toList ≠ [] ∧ '/' ∉ name.toList
  noNul : '\x00' ∉ name.toList

instance (name : String) : Decidable (FileSystem.IsEntryName name) :=
  decidable_of_iff ((name ≠ "." ∧ name ≠ ".." ∧ ¬ FileSystem.maxNameBytes < name.utf8ByteSize) ∧
      (name.toList ≠ [] ∧ '/' ∉ name.toList) ∧ '\x00' ∉ name.toList)
    ⟨fun h => ⟨⟨h.1.1, h.1.2.1, h.1.2.2⟩, h.2.1, h.2.2⟩,
      fun h => ⟨⟨h.notDot, h.notUp, h.short⟩, h.part, h.noNul⟩⟩

/-- The entries of every folder have names that lead to them, and no two have the same. -/
inductive Node.IsSound : Node → Prop
  | file (inode : Nat) : IsSound (.file inode)
  | link (target : String) : IsSound (.link target)
  | device : IsSound .device
  | folder {modified : Int} {es : List (String × Node)} : (es.map Prod.fst).Nodup →
    (∀ e ∈ es, FileSystem.IsEntryName e.1) → (∀ e ∈ es, e.2.IsSound) →
    IsSound (.folder modified es)

lemma Node.named?_of_mem {es : List (String × Node)} (hdistinct : (es.map Prod.fst).Nodup)
    {e : String × Node} (he : e ∈ es) : Node.named? e.1 es = some e.2 := by
  induction es with
  | nil => cases he
  | cons first rest ih =>
    obtain ⟨hfirst, hrest⟩ := List.nodup_cons.1 hdistinct
    rcases List.mem_cons.1 he with rfl | he
    · exact if_pos rfl
    · have hother : first.1 ≠ e.1 := fun hsame => hfirst (hsame ▸ List.mem_map_of_mem he)
      rw [Node.named?, if_neg hother]
      exact ih hrest he

lemma Node.mem_of_named? {name : String} {es : List (String × Node)} {node : Node}
    (hfound : Node.named? name es = some node) : (name, node) ∈ es := by
  induction es with
  | nil => cases hfound
  | cons first rest ih =>
    rw [Node.named?] at hfound
    split at hfound
    · next hsame =>
      cases hfound
      exact List.mem_cons.2 (.inl (Prod.ext hsame.symm rfl))
    · exact List.mem_cons_of_mem first (ih hfound)

/-- Whatever stands in a sound tree is sound. -/
lemma Node.IsSound.at? {root node : Node} (hroot : root.IsSound) {names : List String}
    (hnode : root.at? names = some node) : node.IsSound := by
  induction names generalizing root with
  | nil =>
    cases hnode
    exact hroot
  | cons name rest ih =>
    rw [Node.at?] at hnode
    cases hnext : Node.named? name root.entries with
    | none =>
      rw [hnext] at hnode
      cases hnode
    | some next =>
      rw [hnext] at hnode
      cases hroot with
      | folder hdistinct hnames hsound => exact ih (hsound _ (mem_of_named? hnext)) hnode
      | file | link | device => cases hnext

namespace FileSystem

/-- The tree of files starts at a folder and is sound. -/
structure IsSound (fs : FileSystem) : Prop where
  root : fs.root.isFolder = true
  tree : fs.root.IsSound

variable {root node next : Node} {here rest l : List String} {name : String}

/-! ## One name more -/

/-- A walk to a folder goes on as a walk from this folder does. -/
lemma Leads.onward {followLast : Bool} {more : List String} {r : Reach}
    (h : Leads root true here node rest (.done (.node l next)))
    (hmore : Leads root followLast l next more r) :
    Leads root followLast here node (rest ++ more) r := by
  generalize hr : Reach.done (.node l next) = there at h
  induction h with
  | arrived =>
    cases hr
    exact hmore
  | dot hstep _ ih => exact .dot hstep (ih hr)
  | up hstep _ ih => exact .up hstep (ih hr)
  | next hstep hother hfound hplain _ ih => exact .next hstep hother hfound hplain (ih hr)
  | link _ _ _ hlast => cases hlast
  | missing | through => cases hr

/-- What comes behind a link is kept for later. -/
lemma Leads.behind {folder more extra : List String} {target : String}
    (h : Leads root true here node rest (.through folder target more)) (hextra : extra ≠ [])
    (followLast : Bool) :
    Leads root followLast here node (rest ++ extra) (.through folder target (more ++ extra)) := by
  generalize hr : Reach.through folder target more = r at h
  induction h with
  | through hstep hother hfound _ =>
    cases hr
    exact .through hstep hother hfound fun hnone => absurd (List.append_eq_nil_iff.1 hnone).2 hextra
  | dot hstep _ ih => exact .dot hstep (ih hr)
  | up hstep _ ih => exact .up hstep (ih hr)
  | next hstep hother hfound hplain _ ih => exact .next hstep hother hfound hplain (ih hr)
  | arrived | missing | link => cases hr

/-- A way to a folder, links included, goes on as a walk from this folder does. -/
lemma Goes.onward {followLast : Bool} {links : Nat} {more : List String} {found : Found}
    (h : Goes root true links here rest (.node l next))
    (hmore : Leads root followLast l next more (.done found)) (hsome : more ≠ []) :
    Goes root followLast links here (rest ++ more) found := by
  generalize hthere : Found.node l next = there at h
  induction h with
  | arrived hleads =>
    subst hthere
    exact .arrived (hleads.onward hmore)
  | link hleads htarget _ ih =>
    refine .link (hleads.behind hsome followLast) htarget ?_
    rw [← List.append_assoc]
    exact ih hthere

/-- A way to a folder goes on to what has a name there. -/
lemma Goes.concat {links : Nat} (h : Goes root true links here rest (.node l next))
    (hfolder : next.isFolder = true) (hname : IsOrdinary name) {child : Node}
    (hchild : Node.named? name next.entries = some child) (hlink : ∀ target, child ≠ .link target) :
    Goes root true links here (rest ++ [name]) (.node (l ++ [name]) child) :=
  h.onward (.next hfolder hname hchild hlink .arrived) (List.cons_ne_nil _ _)

/-- A dot at the end leads nowhere else. -/
lemma Leads.undot {names : List String} {r : Reach} (h : Leads root true here node names r)
    (hnames : names = rest ++ ["."]) :
    (∃ l n, r = .done (.node l n)) ∧ Leads root true here node rest r ∨
      ∃ folder target more, r = .through folder target (more ++ ["."]) ∧
        Leads root true here node rest (.through folder target more) := by
  induction h generalizing rest with
  | arrived => simp at hnames
  | dot hstep htail ih =>
    cases rest with
    | nil =>
      cases hnames
      cases htail
      exact .inl ⟨⟨_, _, rfl⟩, .arrived⟩
    | cons first rest =>
      obtain ⟨rfl, hrest⟩ := List.cons.inj hnames
      obtain ⟨hfound, hleads⟩ | ⟨folder, target, more, hr, hleads⟩ := ih hrest
      · exact .inl ⟨hfound, .dot hstep hleads⟩
      · exact .inr ⟨folder, target, more, hr, .dot hstep hleads⟩
  | up hstep _ ih =>
    cases rest with
    | nil => simp at hnames
    | cons first rest =>
      obtain ⟨rfl, hrest⟩ := List.cons.inj hnames
      obtain ⟨hfound, hleads⟩ | ⟨folder, target, more, hr, hleads⟩ := ih hrest
      · exact .inl ⟨hfound, .up hstep hleads⟩
      · exact .inr ⟨folder, target, more, hr, .up hstep hleads⟩
  | missing _ hname =>
    cases rest with
    | nil => exact absurd (List.cons.inj hnames).1 hname.notDot
    | cons first rest => simp at hnames
  | link _ _ _ hlast => cases hlast
  | through hstep hname hlink _ =>
    cases rest with
    | nil => exact absurd (List.cons.inj hnames).1 hname.notDot
    | cons first rest =>
      obtain ⟨rfl, rfl⟩ := List.cons.inj hnames
      exact .inr ⟨_, _, rest, rfl, .through hstep hname hlink fun _ => rfl⟩
  | next hstep hname hnext hother _ ih =>
    cases rest with
    | nil => exact absurd (List.cons.inj hnames).1 hname.notDot
    | cons first rest =>
      obtain ⟨rfl, hrest⟩ := List.cons.inj hnames
      obtain ⟨hfound, hleads⟩ | ⟨folder, target, more, hr, hleads⟩ := ih hrest
      · exact .inl ⟨hfound, .next hstep hname hnext hother hleads⟩
      · exact .inr ⟨folder, target, more, hr, .next hstep hname hnext hother hleads⟩

lemma Goes.undot {links : Nat} {found : Found} (h : Goes root true links here (rest ++ ["."]) found) :
    Goes root true links here rest found := by
  generalize hnames : rest ++ ["."] = names at h
  induction h generalizing rest with
  | arrived hleads =>
    obtain ⟨-, hrest⟩ | ⟨_, _, _, ⟨⟩, -⟩ := hleads.undot hnames.symm
    exact .arrived hrest
  | link hleads htarget _ ih =>
    obtain ⟨⟨_, _, ⟨⟩⟩, -⟩ | ⟨_, _, more, ⟨⟩, hrest⟩ := hleads.undot hnames.symm
    refine .link hrest htarget (ih ?_)
    rw [List.append_assoc]

/-! ## What stands at a path -/

/-- The path leads to the node, whether or not it is too long to be followed. -/
structure Stands (fs : FileSystem) (place : Path) (node : Node) : Prop where
  proper : place.IsProper
  noNul : hasNul place = false
  leads : ∃ l, Goes fs.root true maxLinks [] place.names (.node l node)

variable {fs : FileSystem} {place : Path}

/-- The path has more bytes than the operating system takes. -/
def IsOverlong (place : Path) : Prop :=
  maxPathBytes < place.text.utf8ByteSize

instance (place : Path) : Decidable (IsOverlong place) :=
  inferInstanceAs (Decidable (_ < _))

lemma way_eq (hproper : place.IsProper) :
    fs.way place = if place.names = [] then ["."] else place.names := by
  rw [way, if_pos hproper.absolute_text, List.nil_append]
  split
  next hnone => exact hproper.steps_root hnone
  next hsome => exact hproper.steps_text hsome

lemma stat_eq_ok : fs.stat place = .ok node ↔ ∃ l, fs.find true place = .ok (.node l node) := by
  rw [stat]
  rcases fs.find true place with errno | ⟨l, found⟩ | l <;> simp

/-- What is found at a proper path stands there. -/
lemma stands_of_stat (hproper : place.IsProper) (hnul : hasNul place = false)
    (hstat : fs.stat place = .ok node) : fs.Stands place node := by
  obtain ⟨l, hfind⟩ := stat_eq_ok.1 hstat
  have hgoes := (find_eq_ok.1 hfind).2
  rw [way_eq hproper] at hgoes
  refine ⟨hproper, hnul, l, ?_⟩
  split at hgoes
  next hnone =>
    rw [hnone]
    exact Goes.undot (show Goes fs.root true maxLinks [] ([] ++ ["."]) _ from hgoes)
  next => exact hgoes

namespace Stands

variable (h : fs.Stands place node)

include h

lemma stat_eq (hroot : fs.root.isFolder = true) :
    fs.stat place = if IsOverlong place then .error .nameTooLong else .ok node := by
  have hempty : ¬ place.text.isEmpty = true := by simp [h.proper.text_ne]
  by_cases hlong : IsOverlong place
  · have hfind : fs.find true place = .error .nameTooLong := by
      rw [find, lookUp, if_neg hempty]
      exact if_pos hlong
    rw [if_pos hlong, stat, hfind]
  · obtain ⟨l, hgoes⟩ := h.leads
    rw [if_neg hlong]
    refine stat_eq_ok.2 ⟨l, find_eq_ok.2 ⟨⟨h.proper.text_ne, hlong⟩, ?_⟩⟩
    rw [way_eq h.proper]
    split
    next hnone =>
      rw [hnone] at hgoes
      cases hgoes with
      | arrived hleads => exact .arrived (.dot hroot hleads)
      | link hleads _ _ => cases hleads
    next => exact hgoes

lemma isFolder_eq (hroot : fs.root.isFolder = true) : fs.isFolder place =
    if IsOverlong place then .error .nameTooLong else .ok node.isFolder := by
  rw [isFolder, query, if_neg (by simp [h.noNul]), h.stat_eq hroot]
  by_cases hlong : IsOverlong place
  · rw [if_pos hlong, if_pos hlong]
  · rw [if_neg hlong, if_neg hlong]

lemma sound (hfs : fs.IsSound) : node.IsSound := by
  obtain ⟨l, hgoes⟩ := h.leads
  cases hgoes.placed rfl with
  | node hnode => exact hfs.tree.at? hnode

/-- What a folder holds stands at the folder's path with its name behind it. -/
lemma child (hfs : fs.IsSound) {modified : Int} {es : List (String × Node)}
    (hnode : node = .folder modified es) {e : String × Node} (he : e ∈ es)
    (hlink : ∀ target, e.2 ≠ .link target) :
    fs.Stands { place with names := place.names ++ [e.1] } e.2 := by
  have hsound := h.sound hfs
  subst hnode
  cases hsound with
  | folder hdistinct hnames _ =>
    have hname := hnames e he
    obtain ⟨l, hgoes⟩ := h.leads
    refine ⟨h.proper.concat hname.part, ?_, l ++ [e.1], ?_⟩
    · rw [hasNul, List.any_append, Bool.or_eq_false_iff]
      exact ⟨h.noNul, by simpa using hname.noNul⟩
    · exact hgoes.concat rfl hname.toIsOrdinary (Node.named?_of_mem hdistinct he) hlink

end Stands

end FileSystem

end LanguageHost
