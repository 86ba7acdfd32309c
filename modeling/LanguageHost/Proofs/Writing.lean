import LanguageHost.Journal.Basic
import LanguageHost.Proofs.Lookup

/-!
# Making folders and writing files

Whatever a path led to, it leads to after folders were made and files were written. So a folder that
was made is there until it is taken away, making it once more changes nothing, and a file that was
written holds what was written last, unless it is the one that the journal goes to.
-/

namespace LanguageHost

namespace FileSystem

variable {fs fs' fs'' : FileSystem} {p : Path} {followLast : Bool}

/-- The names that a path leads along from the root. -/
def way (fs : FileSystem) (p : Path) : List String :=
  (if (Path.ofString p.text).isAbsolute then [] else fs.cwd.names) ++ Path.steps p.text

/-- The text of a path can be handed to the operating system. -/
def IsNameable (p : Path) : Prop :=
  p.text.isEmpty = false ∧ ¬ maxPathBytes < p.text.utf8ByteSize

lemma find_eq_ok {found : Found} : fs.find followLast p = .ok found ↔
    IsNameable p ∧ Goes fs.root followLast maxLinks [] (fs.way p) found := by
  rw [find, lookUp]
  split
  · rename_i hempty
    exact iff_of_false (by rintro ⟨⟩) fun h => by simp [h.1.1] at hempty
  split
  · rename_i hlong
    exact iff_of_false (by rintro ⟨⟩) fun h => h.1.2 hlong
  · rename_i hempty hlong
    exact ⟨fun h => ⟨⟨by simpa using hempty, hlong⟩, goes_follow h⟩, fun h => h.2.follow_eq⟩

/-- Whatever a path led to, it leads to. -/
structure Extends (fs fs' : FileSystem) : Prop where
  cwd : fs'.cwd = fs.cwd
  find : ∀ {followLast : Bool} {p : Path} {l : List String} {n : Node},
    fs.find followLast p = .ok (.node l n) →
      ∃ n', fs'.find followLast p = .ok (.node l n') ∧ n'.face = n.face

lemma Extends.trans (h : Extends fs fs') (h' : Extends fs' fs'') : Extends fs fs'' where
  cwd := h'.cwd.trans h.cwd
  find hfind := by
    obtain ⟨n', hfind', hface⟩ := h.find hfind
    obtain ⟨n'', hfind'', hface'⟩ := h'.find hfind'
    exact ⟨n'', hfind'', hface'.trans hface⟩

lemma find_of_root (hroot : fs'.root = fs.root) (hcwd : fs'.cwd = fs.cwd) (followLast : Bool)
    (p : Path) : fs'.find followLast p = fs.find followLast p := by
  rw [find, find, lookUp, lookUp, hroot, hcwd]

lemma extends_of_root (hroot : fs'.root = fs.root) (hcwd : fs'.cwd = fs.cwd) : Extends fs fs' where
  cwd := hcwd
  find hfind := ⟨_, (find_of_root hroot hcwd _ _).trans hfind, rfl⟩

lemma Extends.refl (fs : FileSystem) : Extends fs fs :=
  extends_of_root rfl rfl

/-- A file is found where it was. -/
lemma Extends.find_file (h : Extends fs fs') {l : List String} {inode : Nat}
    (hfind : fs.find true p = .ok (.node l (.file inode))) :
    fs'.find true p = .ok (.node l (.file inode)) := by
  obtain ⟨n', hfind', hface⟩ := h.find hfind
  rw [hfind', Node.eq_file_of_face hface]

/-! ## Folders -/

/-- What is put at a free place is one more place of the tree. -/
lemma grown_putNode {names : List String} {node : Node}
    (hfree : fs.find followLast p = .ok (.missing names)) (hempty : node.entries = [])
    (hlink : ∀ target, node.face ≠ .link target) :
    Grown fs.root (fs.putNode names (some node)).root names node.face := by
  obtain ⟨-, hgoes⟩ := find_eq_ok.1 hfree
  cases hgoes.placed rfl with
  | @missing parent holder name hholder hfolder hnone =>
    refine ⟨?_, Node.look_put hholder hfolder ?_ ?_ fs.now, hlink⟩
    · rw [Node.look, at?_next hholder, hnone]
      rfl
    · rintro old hold
      cases hnone.symm.trans hold
    · rintro new ⟨⟩
      exact hempty

/-- What is put at a free place is found there, and the rest is found as before. -/
lemma extends_putNode {names : List String} (node : Node)
    (hfree : fs.find followLast p = .ok (.missing names)) (hempty : node.entries = [])
    (hlink : ∀ target, node.face ≠ .link target) :
    Extends fs (fs.putNode names (some node)) ∧
      ∃ n', (fs.putNode names (some node)).find followLast p = .ok (.node names n') ∧
        n'.face = node.face := by
  obtain ⟨hnameable, hgoes⟩ := find_eq_ok.1 hfree
  have hgrown := grown_putNode hfree hempty hlink
  constructor
  · refine ⟨rfl, fun hfind => ?_⟩
    obtain ⟨hnameable', hgoes'⟩ := find_eq_ok.1 hfind
    obtain ⟨_, hfound, hkept⟩ := hgoes'.grown hgrown rfl
    cases hkept with
    | node hface => exact ⟨_, find_eq_ok.2 ⟨hnameable', hfound⟩, hface⟩
  · obtain ⟨_, hfound, hkept⟩ := hgoes.grown hgrown rfl
    cases hkept with
    | missing hother => exact absurd rfl hother
    | found hface => exact ⟨_, find_eq_ok.2 ⟨hnameable, hfound⟩, hface⟩

lemma find_missing_last {names : List String} (h : fs.find false p = .ok (.missing names)) :
    fs.find true p = .ok (.missing names) := by
  obtain ⟨hnameable, hgoes⟩ := find_eq_ok.1 h
  exact find_eq_ok.2 ⟨hnameable, hgoes.last (by rintro l target ⟨⟩)⟩

lemma exists_find_not_last {l : List String} {n : Node}
    (h : fs.find true p = .ok (.node l n)) :
    ∃ l' n', fs.find false p = .ok (.node l' n') := by
  obtain ⟨hnameable, hgoes⟩ := find_eq_ok.1 h
  obtain ⟨l', n', hgoes'⟩ := hgoes.not_last
  exact ⟨l', n', find_eq_ok.2 ⟨hnameable, hgoes'⟩⟩

lemma isFolder_eq_true : fs.isFolder p = .ok true ↔
    hasNul p = false ∧ ∃ l n, fs.find true p = .ok (.node l n) ∧ n.isFolder = true := by
  rw [isFolder, query, stat]
  split
  · rename_i hnul
    exact iff_of_false (by rintro ⟨⟩) fun h => by simp [h.1] at hnul
  · rename_i hnul
    cases hfind : fs.find true p with
    | error errno => cases errno <;> simp
    | ok found => cases found <;> simp [hnul, and_assoc]

lemma Extends.isFolder (h : Extends fs fs') (hfolder : fs.isFolder p = .ok true) :
    fs'.isFolder p = .ok true := by
  obtain ⟨hnul, l, n, hfind, hn⟩ := isFolder_eq_true.1 hfolder
  obtain ⟨n', hfind', hface⟩ := h.find hfind
  exact isFolder_eq_true.2 ⟨hnul, l, n', hfind', isFolder_of_face hface hn⟩

lemma makeFolder_ok (h : fs.makeFolder p = .ok fs') (hnul : hasNul p = false) :
    Extends fs fs' ∧ fs'.isFolder p = .ok true := by
  unfold makeFolder at h
  split at h
  · cases h
  · cases h
  · rename_i names hfree
    cases h
    obtain ⟨hextends, n', hfind, hface⟩ :=
      extends_putNode (.folder fs.now []) (find_missing_last hfree) rfl
        (by rintro target ⟨⟩)
    exact ⟨hextends, isFolder_eq_true.2 ⟨hnul, names, n', hfind, Node.isFolder_iff.2 hface⟩⟩

lemma ensureFolder_ok (h : fs.ensureFolder p = .ok fs') (hnul : hasNul p = false) :
    Extends fs fs' ∧ fs'.isFolder p = .ok true := by
  unfold ensureFolder at h
  split at h
  · rename_i made hmade
    cases h
    exact makeFolder_ok hmade hnul
  · split at h
    · rename_i hfolder
      cases h
      exact ⟨.refl fs, hfolder⟩
    · cases h
    · cases h

lemma hasNul_of_names {p q : Path} (hnames : ∀ name ∈ q.names, name ∈ p.names)
    (hnul : hasNul p = false) : hasNul q = false := by
  rw [hasNul, List.any_eq_false] at hnul ⊢
  exact fun name hname => hnul name (hnames name hname)

/-- Folders that were made are there, and the rest is found as before. -/
lemma ensureFolders_ok (h : fs.ensureFolders p = .ok fs') (hnul : hasNul p = false) :
    Extends fs fs' ∧ fs'.isFolder p = .ok true := by
  have hrev : ∀ {names : List String} {fs fs' : FileSystem},
      fs.ensureFoldersRev p.start names = .ok fs' → hasNul ⟨p.start, names.reverse⟩ = false →
        Extends fs fs' ∧ fs'.isFolder ⟨p.start, names.reverse⟩ = .ok true := by
    intro names
    induction names with
    | nil => exact fun h hnul => ensureFolder_ok h hnul
    | cons name above ih =>
      intro fs fs' h hnul
      rw [ensureFoldersRev] at h
      split at h
      · split at h
        · cases h
        · rename_i between habove
          have hnul' : hasNul ⟨p.start, above.reverse⟩ = false :=
            hasNul_of_names (by simp +contextual) hnul
          obtain ⟨hextends, hfolder⟩ := ensureFolder_ok h hnul
          exact ⟨(ih habove hnul').1.trans hextends, hfolder⟩
      · exact ensureFolder_ok h hnul
  have hpath : p = ⟨p.start, p.names.reverse.reverse⟩ := by rw [List.reverse_reverse]
  have hall := hrev h
  rw [← hpath] at hall
  exact hall hnul

/-- Folders that are there are not made again. -/
lemma ensureFolders_of_isFolder (hfolder : fs.isFolder p = .ok true) :
    fs.ensureFolders p = .ok fs := by
  obtain ⟨-, l, n, hfind, -⟩ := isFolder_eq_true.1 hfolder
  obtain ⟨l', n', hthere⟩ := exists_find_not_last hfind
  have hmake : fs.makeFolder p = .error .alreadyThere := by rw [makeFolder, hthere]
  have hensure : fs.ensureFolder p = .ok fs := by rw [ensureFolder, hmake]; simp [hfolder]
  have hpath : ∀ names, names = p.names.reverse → (⟨p.start, names.reverse⟩ : Path) = p := by
    rintro names rfl
    rw [List.reverse_reverse]
  rw [ensureFolders]
  cases hnames : p.names.reverse with
  | nil =>
    rw [ensureFoldersRev]
    exact (hpath _ hnames.symm) ▸ hensure
  | cons name above =>
    rw [ensureFoldersRev, hpath _ hnames.symm, hmake, hensure]

/-! ## Files -/

/-- Replacing the body of one file leaves those of the others. -/
lemma find?_map_body (inode : Nat) (body : FileBody) (bodies : List (Nat × FileBody))
    (other : Nat) :
    (bodies.map fun b => if b.1 = inode then (inode, body) else b).find? (fun b => b.1 = other) =
      if other = inode then (bodies.find? fun b => b.1 = inode).map fun _ => (inode, body)
      else bodies.find? fun b => b.1 = other := by
  induction bodies with
  | nil => simp
  | cons b bodies ih =>
    rw [List.map_cons, List.find?_cons, ih]
    by_cases hsame : other = inode
    · by_cases hhere : b.1 = inode <;> simp [hhere, hsame]
    · by_cases hhere : b.1 = inode <;>
        simp [List.find?_cons, hhere, hsame, Ne.symm hsame]

lemma body?_putBody (fs : FileSystem) (inode : Nat) (body : FileBody) (other : Nat) :
    (fs.putBody inode body).body? other = if other = inode then some body else fs.body? other := by
  unfold putBody
  split
  · rename_i hthere
    obtain ⟨b, hb, hinode⟩ := List.any_eq_true.1 hthere
    have hsome : ((fs.bodies.find? fun b => b.1 = inode).map fun _ => (inode, body)) =
        some (inode, body) := by
      cases hfind : fs.bodies.find? fun b => b.1 = inode with
      | some b => rfl
      | none => exact absurd hinode (List.find?_eq_none.1 hfind b hb)
    rw [body?, find?_map_body, hsome, body?]
    split <;> rfl
  · rename_i hfresh
    have hnone : fs.bodies.find? (fun b => b.1 = inode) = none := by
      refine List.find?_eq_none.2 fun b hb hinode => hfresh (List.any_eq_true.2 ⟨b, hb, hinode⟩)
    rw [body?, body?, List.find?_append]
    by_cases hsame : other = inode
    · rw [if_pos hsame, hsame, hnone]
      simp
    · rw [if_neg hsame]
      simp [Ne.symm hsame]

@[simp] lemma root_putBody (fs : FileSystem) (inode : Nat) (body : FileBody) :
    (fs.putBody inode body).root = fs.root := by
  unfold putBody
  split <;> rfl

@[simp] lemma denied_putBody (fs : FileSystem) (inode : Nat) (body : FileBody) :
    (fs.putBody inode body).denied = fs.denied := by
  unfold putBody
  split <;> rfl

@[simp] lemma nextInode_putBody (fs : FileSystem) (inode : Nat) (body : FileBody) :
    (fs.putBody inode body).nextInode = fs.nextInode := by
  unfold putBody
  split <;> rfl

@[simp] lemma root_writeThrough (fs : FileSystem) (handle : FileHandle) (written : List UInt8) :
    (fs.writeThrough handle written).2.root = fs.root := by
  unfold writeThrough
  cases fs.body? handle.inode with
  | some body => exact root_putBody fs _ _
  | none => rfl

/-- Other files keep what they hold. -/
lemma body?_writeThrough {handle : FileHandle} {other : Nat} (hother : other ≠ handle.inode)
    (fs : FileSystem) (written : List UInt8) :
    (fs.writeThrough handle written).2.body? other = fs.body? other := by
  unfold writeThrough
  cases fs.body? handle.inode with
  | some body => exact (body?_putBody fs _ _ other).trans (if_neg hother)
  | none => rfl

lemma extends_writeThrough (fs : FileSystem) (handle : FileHandle) (written : List UInt8) :
    Extends fs (fs.writeThrough handle written).2 :=
  extends_of_root (root_writeThrough fs handle written) (cwd_writeThrough fs handle written)

/-- The number of the regular file that is written at a path: a new one at a free place, or the one
that is there. -/
def slot? (fs : FileSystem) (p : Path) : Option Nat :=
  match fs.find true p with
  | .ok (.missing _) => some fs.nextInode
  | .ok (.node _ (.file inode)) => some inode
  | _ => none

lemma slot?_eq_some {inode : Nat} : fs.slot? p = some inode ↔
    (∃ names, fs.find true p = .ok (.missing names) ∧ inode = fs.nextInode) ∨
      ∃ names, fs.find true p = .ok (.node names (.file inode)) := by
  rw [slot?]
  cases fs.find true p with
  | error errno => simp
  | ok found =>
    cases found with
    | missing names => simp [eq_comm]
    | node names node => cases node <;> simp

/-- A file with this number stands at a path and holds these bytes. -/
structure HasFile (fs : FileSystem) (p : Path) (inode : Nat) (bytes : List UInt8) : Prop where
  find : ∃ names, fs.find true p = .ok (.node names (.file inode))
  body : (fs.body? inode).map (·.bytes) = some bytes

lemma Extends.hasFile (h : Extends fs fs') {inode : Nat} {bytes : List UInt8}
    (hfile : HasFile fs p inode bytes) (hbody : fs'.body? inode = fs.body? inode) :
    HasFile fs' p inode bytes := by
  obtain ⟨names, hfind⟩ := hfile.find
  exact ⟨⟨names, h.find_file hfind⟩, by rw [hbody, hfile.body]⟩

lemma HasFile.slot? {inode : Nat} {bytes : List UInt8} (h : HasFile fs p inode bytes) :
    fs.slot? p = some inode :=
  slot?_eq_some.2 (.inr h.find)

lemma body?_putBody_self (fs : FileSystem) (inode : Nat) (body : FileBody) :
    (fs.putBody inode body).body? inode = some body :=
  (body?_putBody fs inode body inode).trans (if_pos rfl)

lemma extends_putBody (fs : FileSystem) (inode : Nat) (body : FileBody) :
    Extends fs (fs.putBody inode body) :=
  extends_of_root (root_putBody fs inode body) (cwd_putBody fs inode body)

/-- A file that is added is found, and the rest is found as before. -/
lemma extends_addFile {names : List String} (hfree : fs.find true p = .ok (.missing names))
    (body : FileBody) : Extends fs (fs.addFile names body) ∧
      (fs.addFile names body).find true p = .ok (.node names (.file fs.nextInode)) := by
  obtain ⟨hput, n', hfind, hface⟩ :=
    extends_putNode (.file fs.nextInode) hfree rfl (by rintro target ⟨⟩)
  rw [Node.eq_file_of_face hface] at hfind
  have hadd := extends_putBody (fs.putNode names (some (.file fs.nextInode))) fs.nextInode body
  have hnext : Extends _ (fs.addFile names body) := hadd.trans (extends_of_root rfl rfl)
  exact ⟨hput.trans hnext, hnext.find_file hfind⟩

/-- Opening a regular file for writing empties it. -/
lemma openForWriting_ok {inode : Nat} (h : fs.slot? p = some inode) :
    ∃ fs', fs.openForWriting p = .ok (⟨inode, 0⟩, fs') ∧ Extends fs fs' ∧
      HasFile fs' p inode [] := by
  obtain ⟨names, hfree, rfl⟩ | ⟨names, hfile⟩ := slot?_eq_some.1 h
  · obtain ⟨hextends, hfind⟩ := extends_addFile hfree ⟨[], defaultMode, fs.now⟩
    refine ⟨_, by rw [openForWriting, hfree], hextends, ⟨names, hfind⟩, ?_⟩
    exact congrArg (Option.map _) (body?_putBody_self _ _ _)
  · have hempty := extends_putBody fs inode
      ⟨[], (fs.body? inode).map (·.mode) |>.getD defaultMode, fs.now⟩
    have hnext : Extends fs { fs.putBody inode ⟨[], _, fs.now⟩ with now := fs.now + 1 } :=
      hempty.trans (extends_of_root rfl rfl)
    refine ⟨_, by rw [openForWriting, hfile], hnext,
      ⟨names, hnext.find_file hfile⟩, ?_⟩
    exact congrArg (Option.map _) (body?_putBody_self _ _ _)

/-- A regular file holds what was written to it. -/
lemma writeFile_ok {inode : Nat} (h : fs.slot? p = some inode) (bytes : List UInt8) :
    ∃ fs', fs.writeFile p bytes = .ok fs' ∧ Extends fs fs' ∧ HasFile fs' p inode bytes := by
  obtain ⟨opened, hopen, hextends, hfile⟩ := openForWriting_ok h
  obtain ⟨body, hbody, hempty⟩ := Option.map_eq_some_iff.1 hfile.body
  obtain ⟨names, hfind⟩ := hfile.find
  have hwrite := extends_writeThrough opened ⟨inode, 0⟩ bytes
  refine ⟨_, by rw [writeFile, hopen], hextends.trans hwrite,
    ⟨names, hwrite.find_file hfind⟩, ?_⟩
  rw [writeThrough, hbody]
  refine (congrArg (Option.map _) (body?_putBody_self _ _ _)).trans ?_
  rw [Option.map_some, hempty]
  simp [overwrite]

lemma HasFile.pathExists {inode : Nat} {bytes : List UInt8} (h : HasFile fs p inode bytes)
    (hnul : hasNul p = false) : fs.pathExists p = .ok true := by
  obtain ⟨names, hfind⟩ := h.find
  rw [FileSystem.pathExists, query, hnul, if_neg Bool.false_ne_true, stat, hfind]

lemma HasFile.readFile {inode : Nat} {bytes : List UInt8} (h : HasFile fs p inode bytes) :
    fs.readFile p = .ok bytes := by
  obtain ⟨names, hfind⟩ := h.find
  rw [FileSystem.readFile, stat, hfind]
  dsimp only
  rw [h.body, Option.getD_some]

end FileSystem

/-! ## The journal -/

namespace Platform

variable {p p' : Platform} {inode : Nat}

/-- Lines of the journal go to another file, if they go to a file. -/
def LogsElsewhere (inode : Nat) (p : Platform) : Prop :=
  ∀ handle ∈ p.journal.sink, handle.inode ≠ inode

/-- Paths lead where they led, and a file holds what it held. -/
structure Spares (inode : Nat) (p p' : Platform) : Prop where
  found : FileSystem.Extends p.files p'.files
  body : p'.files.body? inode = p.files.body? inode
  elsewhere : p'.LogsElsewhere inode

lemma spares_writeLine (h : p.LogsElsewhere inode) (line : Text) :
    Spares inode p (p.writeLine line) := by
  cases hsink : p.journal.sink with
  | none =>
    have hline : p.writeLine line =
        { p with journal := { p.journal with lines := p.journal.lines ++ [line] } } := by
      simp only [writeLine, hsink]
    rw [hline]
    exact ⟨.refl _, rfl, h⟩
  | some handle =>
    have hother : inode ≠ handle.inode := (h handle hsink).symm
    have hsame : ((p.files.writeThrough handle (Utf8.encode line ++ [0x0A])).1).inode =
        handle.inode := by
      unfold FileSystem.writeThrough
      cases p.files.body? handle.inode <;> rfl
    simp only [writeLine, hsink]
    refine ⟨FileSystem.extends_writeThrough _ _ _, FileSystem.body?_writeThrough hother _ _, ?_⟩
    rintro _ ⟨⟩
    exact fun hwritten => hother (hwritten.symm.trans hsame)

lemma Spares.trans {p'' : Platform} (h : Spares inode p p') (h' : Spares inode p' p'') :
    Spares inode p p'' where
  found := h.found.trans h'.found
  body := h'.body.trans h.body
  elsewhere := h'.elsewhere

lemma spares_setTable (h : p.LogsElsewhere inode) (table : LoggerTable) :
    Spares inode p { p with journal := { p.journal with table } } :=
  ⟨.refl _, rfl, h⟩

lemma spares_logWith (h : p.LogsElsewhere inode) (n : Nat) (level : Level) (message : Json)
    (extra : Tags) : Spares inode p (p.logWith n level message extra) := by
  unfold logWith
  split
  · exact (spares_setTable h _).trans (spares_writeLine (spares_setTable h _).elsewhere _)
  · exact ⟨.refl _, rfl, h⟩

/-- A message leaves a file alone that the journal does not go to. -/
lemma spares_log (h : p.LogsElsewhere inode) (service : String) (level : Level) (message : Text)
    (extra : Tags) : Spares inode p (p.log service level message extra) := by
  have hlogger : Spares inode p (p.serviceLogger service).2 := spares_setTable h _
  exact hlogger.trans (spares_logWith hlogger.elsewhere _ _ _ _)

end Platform

end LanguageHost
