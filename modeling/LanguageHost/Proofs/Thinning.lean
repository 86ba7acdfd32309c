import LanguageHost.Proofs.LogUses

/-!
# Ten log files at most

A folder for log files holds regular files under the names of log files, and anything else under
other names. Each opening of a log file leaves it such a folder: `LogFolder` is the invariant. Of
ten log files or more exactly nine stay, none of which is older than one that goes, and of fewer
all stay; then at most one is added. So after any openings there are at most ten log files.

This holds for folders that the program may list. It takes one that it may not list for empty, and
then nothing goes.
-/

namespace LanguageHost

open FileSystem Journal

/-- The entries of a folder that have names of log files. -/
def logEntries (es : List (String × Node)) : List (String × Node) :=
  es.filter fun e => isLogName e.1

/-- The entries that stay when those with some names go. -/
def spared (names : List String) (es : List (String × Node)) : List (String × Node) :=
  es.filter fun e => e.1 ∉ names

/-- When a regular file was changed last. -/
def FileSystem.lastChange (fs : FileSystem) : Node → Int
  | .file inode => ((fs.body? inode).map FileBody.modified).getD 0
  | _ => 0

/-- Some log files of a folder go: none of fewer than ten, and otherwise all but nine, none of which
is older than one that goes. -/
structure Thinning (fs : FileSystem) (es : List (String × Node)) (gone : List String) : Prop where
  logs : ∀ name ∈ gone, ∃ node, (name, node) ∈ logEntries es
  few : (logEntries es).length < keptFiles → gone = []
  nine : keptFiles ≤ (logEntries es).length →
    (logEntries (spared gone es)).length = keptFiles - 1
  older : ∀ r ∈ logEntries es, r.1 ∈ gone → ∀ k ∈ logEntries es, k.1 ∉ gone →
    fs.lastChange r.2 ≤ fs.lastChange k.2

/-- A log file is opened in a folder: it is there already, or it is added behind the other entries.
No other file changes. -/
structure FileOpened (fs fs' : FileSystem) (name : String) (es es' : List (String × Node)) :
    Prop where
  entries : (∃ inode, (name, .file inode) ∈ es ∧ es' = es) ∨
    name ∉ es.map Prod.fst ∧ ∃ inode, es' = es ++ [(name, .file inode)]
  bodies : ∀ inode, (name, .file inode) ∉ es' → fs'.body? inode = fs.body? inode

/-- A path leads to a folder with these entries, which may be listed. Those with names of log files
are regular files that can be removed. -/
structure LogFolder (fs : FileSystem) (folder : Path) (place : List String)
    (es : List (String × Node)) : Prop where
  read : folder.IsRead
  noNul : hasNul folder = false
  there : ∃ modified, fs.find true folder = .ok (.node place (.folder modified es))
  listed : fs.denied.contains (folder.absolute fs.cwd).text = false
  distinct : (es.map Prod.fst).Nodup
  names : ∀ e ∈ es, IsEntryName e.1
  files : ∀ e ∈ logEntries es, ∃ inode, e.2 = .file inode
  removable : ∀ e ∈ logEntries es, ∃ fs', fs.removeFile (folder.child e.1) = .ok fs'

/-- What an opening makes of a folder for log files: some go, and the file for the second is opened
beside those that stay, unless its path is too long. -/
structure Rotation (folder : Path) (place : List String) (p : Platform)
    (r : Except Fault Unit × Platform) (es : List (String × Node)) (gone : List String)
    (es' : List (String × Node)) : Prop where
  thinning : Thinning p.files es gone
  after : LogFolder r.2.files folder place es'
  ten : (logEntries es').length ≤ keptFiles
  others : (es'.filter fun e => !isLogName e.1) = es.filter fun e => !isLogName e.1
  opened : IsNameable (fileAt folder p.clock) →
    r.1 = .ok () ∧ FileOpened p.files r.2.files (fileName p.clock) (spared gone es) es'
  failed : ¬ IsNameable (fileAt folder p.clock) →
    (∃ fault, r.1 = .error fault) ∧ es' = spared gone es ∧ r.2.files.bodies = p.files.bodies

variable {fs fs' : FileSystem} {folder : Path} {place : List String} {es es' : List (String × Node)}
  {name : String}

lemma mem_logEntries {e : String × Node} :
    e ∈ logEntries es ↔ e ∈ es ∧ isLogName e.1 = true :=
  List.mem_filter

/-- The log files that stay when some of them go. -/
lemma logEntries_spared (names : List String) (es : List (String × Node)) :
    logEntries (spared names es) = spared names (logEntries es) := by
  rw [logEntries, logEntries, spared, spared, List.filter_filter, List.filter_filter]
  exact List.filter_congr fun e _ => Bool.and_comm _ _

lemma spared_nil (es : List (String × Node)) : spared [] es = es := by
  simp [spared]

lemma spared_cons (name : String) (names : List String) (es : List (String × Node)) :
    spared (name :: names) es = spared names (es.filter fun e => e.1 ≠ name) := by
  rw [spared, spared, List.filter_filter]
  refine List.filter_congr fun e _ => ?_
  simp [Bool.and_comm]

/-- A path that is too long cannot be opened. -/
lemma not_opens (fs : FileSystem) {p : Path} (hlong : ¬ IsNameable p) :
    ∃ errno, fs.openForWriting p = .error errno := by
  rw [openForWriting]
  cases hfind : fs.find true p with
  | error errno => exact ⟨errno, rfl⟩
  | ok found => exact absurd (find_eq_ok.1 hfind).1 hlong

namespace Thinning

variable {gone : List String} (h : Thinning fs es gone)

include h

lemma length_le : (logEntries (spared gone es)).length ≤ keptFiles - 1 := by
  by_cases hfew : (logEntries es).length < keptFiles
  · rw [h.few hfew, spared_nil]
    omega
  · exact (h.nine (by omega)).le

/-- Only log files go. -/
lemma others : (spared gone es).filter (fun e => !isLogName e.1) =
    es.filter fun e => !isLogName e.1 := by
  rw [spared, List.filter_filter]
  refine List.filter_congr fun e _ => ?_
  by_cases hgone : e.1 ∈ gone
  · obtain ⟨node, hlog⟩ := h.logs e.1 hgone
    simp [(mem_logEntries.1 hlog).2]
  · simp [hgone]

end Thinning

namespace FileOpened

variable (h : FileOpened fs fs' name es es')

include h

lemma length_le : (logEntries es').length ≤ (logEntries es).length + 1 := by
  obtain ⟨inode, -, rfl⟩ | ⟨-, inode, rfl⟩ := h.entries
  · omega
  · rw [logEntries, List.filter_append, List.length_append]
    exact Nat.add_le_add_left (List.length_filter_le _ _) _

lemma others (hlog : isLogName name = true) :
    es'.filter (fun e => !isLogName e.1) = es.filter fun e => !isLogName e.1 := by
  obtain ⟨inode, -, rfl⟩ | ⟨-, inode, rfl⟩ := h.entries
  · rfl
  · rw [List.filter_append]
    simp [hlog]

end FileOpened

namespace LogFolder

section Folder

variable (h : LogFolder fs folder place es)

include h

/-! ## Entries of a folder for log files -/

lemma list_eq : fs.list folder = .ok es := by
  obtain ⟨modified, hfind⟩ := h.there
  rw [FileSystem.list, if_neg (by rw [h.listed]; exact Bool.false_ne_true), stat, hfind]

lemma ensureFolders : fs.ensureFolders folder = .ok fs := by
  obtain ⟨modified, hfind⟩ := h.there
  exact ensureFolders_of_isFolder (isFolder_eq_true.2 ⟨h.noNul, place, _, hfind, rfl⟩)

lemma named? {node : Node} (he : (name, node) ∈ es) : Node.named? name es = some node :=
  Node.named?_of_mem h.distinct he

lemma nameable {e : String × Node} (he : e ∈ logEntries es) : IsNameable (folder.child e.1) := by
  obtain ⟨fs', hremoved⟩ := h.removable e he
  obtain ⟨l, n, hfind, -⟩ := removeFile_eq_ok hremoved
  exact (find_eq_ok.1 hfind).1

/-- A log file is found behind the path of its folder. -/
lemma find_entry {e : String × Node} (he : e ∈ logEntries es) (followLast : Bool) :
    fs.find followLast (folder.child e.1) = .ok (.node (place ++ [e.1]) e.2) := by
  obtain ⟨modified, hfind⟩ := h.there
  obtain ⟨inode, hfile⟩ := h.files e he
  obtain ⟨hmem, -⟩ := mem_logEntries.1 he
  refine find_child h.read hfind (h.names e hmem) (h.nameable he) (h.named? hmem) ?_ followLast
  intro target hlink
  cases hfile.symm.trans hlink

lemma removeFile_eq {e : String × Node} (he : e ∈ logEntries es) :
    fs.removeFile (folder.child e.1) = .ok (fs.putNode (place ++ [e.1]) none) := by
  obtain ⟨inode, hfile⟩ := h.files e he
  rw [removeFile, h.find_entry he, hfile]

lemma modifiedAt_eq {e : String × Node} (he : e ∈ logEntries es) :
    fs.modifiedAt (folder.child e.1) = .ok (fs.lastChange e.2) := by
  obtain ⟨inode, hfile⟩ := h.files e he
  rw [modifiedAt, stat, h.find_entry he, hfile]
  rfl

lemma at?_place : ∃ modified, fs.root.at? place = some (.folder modified es) := by
  obtain ⟨modified, hfind⟩ := h.there
  exact ⟨modified, at?_of_find hfind⟩

/-- The folder is the same kind of folder with other entries, if its path leads to where it did. -/
lemma changed (hfound : ∃ n', fs'.find true folder = .ok (.node place n'))
    (hcwd : fs'.cwd = fs.cwd) (hdenied : fs'.denied = fs.denied)
    (hplace : ∃ modified, fs'.root.at? place = some (.folder modified es'))
    (hdistinct : (es'.map Prod.fst).Nodup) (hnames : ∀ e ∈ es', IsEntryName e.1)
    (hfiles : ∀ e ∈ logEntries es',
      (∃ inode, e.2 = .file inode) ∧ IsNameable (folder.child e.1)) :
    LogFolder fs' folder place es' := by
  obtain ⟨n', hfind'⟩ := hfound
  obtain ⟨modified', hnew⟩ := hplace
  have hthere : fs'.find true folder = .ok (.node place (.folder modified' es')) := by
    have hnode := at?_of_find hfind'
    rw [hnew] at hnode
    cases hnode
    exact hfind'
  refine ⟨h.read, h.noNul, ⟨modified', hthere⟩, ?_, hdistinct, hnames,
    fun e he => (hfiles e he).1, fun e he => ?_⟩
  · rw [hdenied, hcwd, h.listed]
  · obtain ⟨⟨inode, hfile⟩, hshort⟩ := hfiles e he
    obtain ⟨hmem, -⟩ := mem_logEntries.1 he
    have hlink : ∀ target, e.2 ≠ .link target := by
      intro target
      rw [hfile]
      rintro ⟨⟩
    have hentry := find_child h.read hthere (hnames e hmem) hshort
      (Node.named?_of_mem hdistinct hmem) hlink false
    exact ⟨fs'.putNode (place ++ [e.1]) none, by rw [removeFile, hentry, hfile]⟩

/-- Nothing changes in the folder while the tree stays. -/
lemma of_sameTree (hsame : fs.SameTree fs') : LogFolder fs' folder place es := by
  obtain ⟨modified, hfind⟩ := h.there
  rw [← find_of_root hsame.root hsame.cwd] at hfind
  refine h.changed ⟨_, hfind⟩ hsame.cwd hsame.denied ?_ h.distinct h.names
    fun e he => ⟨h.files e he, h.nameable he⟩
  rw [hsame.root]
  exact h.at?_place

/-! ## Log files that go -/

/-- One log file is removed, and everything else stays. -/
lemma removeLog {node : Node} (he : (name, node) ∈ logEntries es) :
    LogFolder (removeLog folder fs name) folder place (es.filter fun e => e.1 ≠ name) := by
  obtain ⟨inode, hfile⟩ := h.files _ he
  obtain ⟨hmem, -⟩ := mem_logEntries.1 he
  obtain ⟨modified, hplace⟩ := h.at?_place
  obtain ⟨_, hfind⟩ := h.there
  have hat : fs.root.at? (place ++ [name]) = some (.file inode) := by
    rw [at?_next hplace, Node.entries, h.named? hmem]
    exact congrArg some hfile
  obtain ⟨stamp, hstamp⟩ := Node.at?_put hplace fs.now none name
  have hend : (fs.putNode (place ++ [name]) none).root.look place = some .folder :=
    look_of_at? hstamp
  obtain ⟨n', hfind', -⟩ := find_kept (keepsWays_putNode_none hat) rfl hfind hend
  rw [removeLog_ok (h.removeFile_eq he)]
  refine h.changed ⟨n', hfind'⟩ rfl rfl ⟨stamp, hstamp⟩ ?_ ?_ ?_
  · exact h.distinct.sublist (List.filter_sublist.map _)
  · exact fun e he => h.names e (List.mem_of_mem_filter he)
  · intro e he
    obtain ⟨hmem', hlog⟩ := mem_logEntries.1 he
    have he' := mem_logEntries.2 ⟨List.mem_of_mem_filter hmem', hlog⟩
    exact ⟨h.files e he', h.nameable he'⟩

end Folder

/-- The log files with some names are removed, and everything else stays. -/
lemma thinned {names : List String} (h : LogFolder fs folder place es) (hnames : names.Nodup)
    (hthere : ∀ name ∈ names, ∃ node, (name, node) ∈ logEntries es) :
    LogFolder (thinned folder names fs) folder place (spared names es) := by
  induction names generalizing fs es with
  | nil =>
    rw [spared_nil]
    exact h
  | cons name rest ih =>
    obtain ⟨hnew, hrest⟩ := List.nodup_cons.1 hnames
    obtain ⟨hfirst, hmore⟩ := List.forall_mem_cons.1 hthere
    obtain ⟨node, he⟩ := hfirst
    rw [thinned_cons, spared_cons]
    refine ih (h.removeLog he) hrest fun other hother => ?_
    obtain ⟨node', he'⟩ := hmore other hother
    obtain ⟨hmem, hlog⟩ := mem_logEntries.1 he'
    refine ⟨node', mem_logEntries.2 ⟨List.mem_filter.2 ⟨hmem, ?_⟩, hlog⟩⟩
    simp only [ne_eq, decide_not, Bool.not_eq_true', decide_eq_false_iff_not]
    rintro rfl
    exact hnew hother

/-! ## Which log files go -/

lemma logFiles_eq {p : Platform} (h : LogFolder p.files folder place es) :
    logFiles p folder = .ok ((logEntries es).map fun e =>
      (e.1, if (logEntries es).length < keptFiles then 0 else p.files.lastChange e.2)) := by
  have hnames : (es.map Prod.fst).filter isLogName = (logEntries es).map Prod.fst :=
    List.filter_map
  unfold logFiles
  rw [h.list_eq]
  dsimp only
  rw [hnames, List.length_map]
  by_cases hfew : (logEntries es).length < keptFiles
  · rw [if_pos hfew]
    simp [hfew, Function.comp_def]
  · rw [if_neg hfew, mapM_eq_ok, List.forall₂_map_left_iff, List.forall₂_map_right_iff,
      List.forall₂_same]
    intro e he
    rw [h.modifiedAt_eq he, if_neg hfew]

/-- What is too much is what goes in a thinning. -/
lemma thinning_surplus {p : Platform} (h : LogFolder p.files folder place es) :
    ∃ found, logFiles p folder = .ok found ∧ (surplus found).Nodup ∧
      Thinning p.files es (surplus found) := by
  set found := (logEntries es).map fun e =>
    (e.1, if (logEntries es).length < keptFiles then 0 else p.files.lastChange e.2) with hfound
  have hnames : found.map Prod.fst = (logEntries es).map Prod.fst := by
    simp [hfound, Function.comp_def]
  have hlength : found.length = (logEntries es).length := by
    rw [hfound, List.length_map]
  obtain ⟨kept, rest, hperm, hgone, hold, hfew, hnine⟩ := surplus_cases found
  have hmem : ∀ e ∈ logEntries es, keptFiles ≤ (logEntries es).length →
      (e.1, p.files.lastChange e.2) ∈ kept ++ rest := by
    intro e he hmany
    rw [hperm.mem_iff, hfound, List.mem_map]
    exact ⟨e, he, by rw [if_neg (by omega)]⟩
  have hdistinct : ((kept ++ rest).map Prod.fst).Nodup := by
    rw [(hperm.map Prod.fst).nodup_iff, hnames]
    exact h.distinct.sublist (List.filter_sublist.map _)
  have hsplit : (kept.map Prod.fst ++ rest.map Prod.fst).Perm ((logEntries es).map Prod.fst) := by
    rw [← List.map_append, ← hnames]
    exact hperm.map Prod.fst
  rw [List.map_append, List.nodup_append] at hdistinct
  obtain ⟨-, hnodup, hapart⟩ := hdistinct
  refine ⟨found, h.logFiles_eq, ?_⟩
  rw [hgone]
  refine ⟨hnodup, ?_, ?_, ?_, ?_⟩
  · intro name hname
    obtain ⟨e, he, rfl⟩ := List.mem_map.1 (hsplit.mem_iff.1 (List.mem_append_right _ hname))
    exact ⟨e.2, he⟩
  · intro hless
    rw [hfew (by omega), List.map_nil]
  · intro hmany
    have hstay : ((logEntries es).map Prod.fst).filter (· ∉ rest.map Prod.fst) =
        (spared (rest.map Prod.fst) (logEntries es)).map Prod.fst := List.filter_map
    have hkept : (kept.map Prod.fst).filter (· ∉ rest.map Prod.fst) = kept.map Prod.fst :=
      List.filter_eq_self.2 fun name hname => by
        simpa using fun hgone => hapart name hname name hgone rfl
    have hnone : (rest.map Prod.fst).filter (· ∉ rest.map Prod.fst) = [] :=
      List.filter_eq_nil_iff.2 fun name hname => by simpa using hname
    have hcount := (hsplit.filter (· ∉ rest.map Prod.fst)).length_eq
    rw [List.filter_append, hkept, hnone, List.append_nil, hstay, List.length_map,
      List.length_map] at hcount
    rw [logEntries_spared, ← hcount, hnine (by omega)]
  · intro r hr hrgone k hk hkstays
    have hmany : keptFiles ≤ (logEntries es).length := by
      by_contra hless
      rw [hfew (by omega)] at hrgone
      cases hrgone
    have hrest : (r.1, p.files.lastChange r.2) ∈ rest := by
      refine (List.mem_append.1 (hmem r hr hmany)).resolve_left fun hkept => ?_
      exact hapart r.1 (List.mem_map_of_mem hkept) r.1 hrgone rfl
    have hkept : (k.1, p.files.lastChange k.2) ∈ kept := by
      refine (List.mem_append.1 (hmem k hk hmany)).resolve_right fun hrest => ?_
      exact hkstays (List.mem_map_of_mem hrest)
    exact hold _ hkept _ hrest

/-! ## Opening a log file -/

lemma opens {now : Instant} (h : LogFolder fs folder place es) (hnow : now.isInCalendar = true)
    (hshort : IsNameable (fileAt folder now)) :
    ∃ handle fs' es', fs.openForWriting (fileAt folder now) = .ok (handle, fs') ∧
      LogFolder fs' folder place es' ∧ FileOpened fs fs' (fileName now) es es' := by
  have hlog := isLogName_fileName now
  have hname := isEntryName_fileName hnow
  obtain ⟨modified, hfind⟩ := h.there
  cases hnamed : Node.named? (fileName now) es with
  | some node =>
    have hmem : (fileName now, node) ∈ es := Node.mem_of_named? hnamed
    have he := mem_logEntries.2 ⟨hmem, hlog⟩
    obtain ⟨inode, rfl⟩ := h.files _ he
    have hfile : fs.find true (fileAt folder now) = .ok (.node (place ++ [fileName now])
      (.file inode)) := h.find_entry he true
    set mode := (fs.body? inode).map (·.mode) |>.getD defaultMode with hmode
    have hopen : fs.openForWriting (fileAt folder now) =
        .ok (⟨inode, 0⟩, emptied fs inode mode) := by
      rw [openForWriting, hfile]
      rfl
    refine ⟨_, _, es, hopen, h.of_sameTree (sameTree_emptied fs inode mode),
      .inl ⟨inode, hmem, rfl⟩, fun other hother => ?_⟩
    rw [body?_emptied, if_neg]
    rintro rfl
    exact hother hmem
  | none =>
    have hfree := find_child_missing h.read hfind hname hshort hnamed true
    have hnew : fileName now ∉ es.map Prod.fst := by
      intro hmem
      obtain ⟨e, he, hsame⟩ := List.mem_map.1 hmem
      rw [← hsame] at hnamed
      cases hnamed.symm.trans (h.named? he)
    set fs' := fs.addFile (place ++ [fileName now]) ⟨[], defaultMode, fs.now⟩ with hfs'
    have hopen : fs.openForWriting (fileAt folder now) = .ok (⟨fs.nextInode, 0⟩, fs') := by
      rw [openForWriting, fileAt, hfree]
    obtain ⟨hextends, -⟩ := extends_addFile hfree ⟨[], defaultMode, fs.now⟩
    obtain ⟨n', hfind', -⟩ := hextends.find hfind
    obtain ⟨modified', hplace⟩ := h.at?_place
    obtain ⟨stamp, hstamp⟩ :=
      Node.at?_put hplace fs.now (some (.file fs.nextInode)) (fileName now)
    rw [Node.putEntry_new hnamed] at hstamp
    have hroot : fs'.root =
        (fs.putNode (place ++ [fileName now]) (some (.file fs.nextInode))).root :=
      root_putBody _ _ _
    refine ⟨_, fs', _, hopen, h.changed ⟨n', hfind'⟩ hextends.cwd (denied_putBody _ _ _)
      ⟨stamp, by rw [hroot]; exact hstamp⟩ ?_ ?_ ?_, .inr ⟨hnew, fs.nextInode, rfl⟩, ?_⟩
    · rw [List.map_append, List.map_singleton, List.nodup_append]
      refine ⟨h.distinct, List.nodup_singleton _, ?_⟩
      intro other hold added hadded hsame
      rw [hsame, List.mem_singleton.1 hadded] at hold
      exact hnew hold
    · rw [List.forall_mem_append]
      exact ⟨h.names, by simpa using hname⟩
    · intro e he
      obtain ⟨hmem, hislog⟩ := mem_logEntries.1 he
      rcases List.mem_append.1 hmem with hold | hadded
      · have he' := mem_logEntries.2 ⟨hold, hislog⟩
        exact ⟨h.files e he', h.nameable he'⟩
      · rw [List.mem_singleton.1 hadded]
        exact ⟨⟨_, rfl⟩, hshort⟩
    · intro other hother
      refine (body?_putBody _ _ _ _).trans (if_neg ?_)
      rintro rfl
      exact hother (by simp)

/-- The folder is there already, and it is thinned out. -/
lemma makeRoom_eq {p : Platform} (h : LogFolder p.files folder place es) :
    ∃ gone, Thinning p.files es gone ∧
      LogFolder (Journal.thinned folder gone p.files) folder place (spared gone es) ∧
      makeRoom folder p = (.ok (), { p with files := Journal.thinned folder gone p.files }) := by
  obtain ⟨found, hfound, hnodup, hthinning⟩ := h.thinning_surplus
  refine ⟨surplus found, hthinning, h.thinned hnodup hthinning.logs, ?_⟩
  have hset : Task.setFiles p.files p = (.ok (), p) := rfl
  unfold makeRoom
  rw [Act.get_bind, h.noNul, if_neg Bool.false_ne_true, h.ensureFolders]
  dsimp only
  rw [Act.bind_ok hset]
  exact prune_ok hfound

/-! ## Every opening, and every run -/

/-- Each opening leaves at most ten log files. -/
lemma opening {p : Platform} (h : LogFolder p.files folder place es)
    (hnow : p.clock.isInCalendar = true) (level : Option Level) :
    ∃ gone es', Rotation folder place p (openLog false level (some folder) p) es gone es' := by
  have hlevel : LogFolder (withLevel level p).files folder place es := h
  obtain ⟨gone, hthinning, hstays, hroom⟩ := hlevel.makeRoom_eq
  have hbodies := SameContents.thinned folder gone p.files
  have hnine := hthinning.length_le
  have hkept : keptFiles - 1 + 1 = keptFiles := rfl
  set q : Platform := { withLevel level p with
    files := Journal.thinned folder gone p.files } with hq
  have hparts : openLog false level (some folder) p = startFile folder p.clock q := by
    rw [openLog_level, openLog_eq]
    exact Act.bind_ok hroom
  rw [hparts]
  by_cases hshort : IsNameable (fileAt folder p.clock)
  · obtain ⟨handle, fs', es', hopen, hafter, hopened⟩ := hstays.opens hnow hshort
    have hopen' : q.files.openForWriting (fileAt folder p.clock) = .ok (handle, fs') := hopen
    have hone := hopened.length_le
    rw [startFile_ok hopen']
    refine ⟨gone, es', hthinning, hafter, by omega, ?_, fun _ => ⟨rfl, hopened.entries, ?_⟩,
      absurd hshort⟩
    · rw [hopened.others (isLogName_fileName _), hthinning.others]
    · exact fun inode hother => (hopened.bodies inode hother).trans (hbodies.body? inode)
  · obtain ⟨errno, hfails⟩ := not_opens q.files hshort
    rw [startFile_error hfails]
    exact ⟨gone, spared gone es, hthinning, hstays, by omega, hthinning.others,
      fun hfits => absurd hfits hshort, fun _ => ⟨⟨_, rfl⟩, rfl, hbodies.bodies⟩⟩

/-- One use of the log. -/
lemma perform {p : Platform} (h : LogFolder p.files folder place es) {u : TimedUse}
    (hnow : u.now.isInCalendar = true) :
    ∃ es', LogFolder (u.perform folder p).files folder place es' ∧
      (u.use.opens = true → (logEntries es').length ≤ keptFiles) ∧
      (u.use.opens = false → es' = es) := by
  cases hopens : u.use.opens with
  | false =>
    have hsame := sameTree_perform hopens folder { p with clock := u.now }
    exact ⟨es, h.of_sameTree hsame, by simp, fun _ => rfl⟩
  | true =>
    obtain ⟨now, use⟩ := u
    cases use with
    | opening print level =>
      have hprint : print = false := by simpa [LogUse.opens] using hopens
      rw [hprint]
      have hset : LogFolder ({ p with clock := now } : Platform).files folder place es := h
      obtain ⟨gone, es', hrotation⟩ := hset.opening hnow level
      exact ⟨es', hrotation.after, fun _ => hrotation.ten, by simp⟩
    | _ => cases hopens

/-- Behind the last opening nothing is added. -/
lemma run {p : Platform} (h : LogFolder p.files folder place es) {uses : List TimedUse}
    (htimes : ∀ u ∈ uses, u.now.isInCalendar = true) :
    ∃ es', LogFolder (TimedUse.after folder uses p).files folder place es' ∧
      ((∃ u ∈ uses, u.use.opens = true) → (logEntries es').length ≤ keptFiles) := by
  induction uses using List.reverseRecOn with
  | nil => exact ⟨es, h, by simp⟩
  | append_singleton uses u ih =>
    obtain ⟨hbefore, hlast⟩ := List.forall_mem_append.1 htimes
    obtain ⟨es₁, h₁, hten⟩ := ih hbefore
    obtain ⟨es₂, h₂, hopens, hkeeps⟩ := h₁.perform (hlast u (List.mem_singleton_self u))
    rw [TimedUse.after_concat]
    refine ⟨es₂, h₂, fun hsome => ?_⟩
    cases hu : u.use.opens with
    | true => exact hopens hu
    | false =>
      obtain ⟨v, hv, hvopens⟩ := hsome
      rw [hkeeps hu]
      rcases List.mem_append.1 hv with hold | hnew
      · exact hten ⟨v, hold, hvopens⟩
      · rw [List.mem_singleton.1 hnew, hu] at hvopens
        cases hvopens

/-- **At most ten log files, the newest ones.** In a folder that may be listed, whose log files are
regular files that can be removed, each opening of a log file takes away as many as make room: none
of fewer than ten, and otherwise all but nine, none of which is older than one that goes. Then the
file for the second is opened, which may be one of those that are there. What is no log file stays
as it is. So after any uses of the log that open a file in it there are at most ten log files. -/
theorem keeps_newest {p : Platform} (h : LogFolder p.files folder place es) :
    (p.clock.isInCalendar = true → ∀ level : Option Level, ∃ gone es',
      Rotation folder place p (openLog false level (some folder) p) es gone es') ∧
    ∀ uses : List TimedUse, (∀ u ∈ uses, u.now.isInCalendar = true) →
      (∃ u ∈ uses, u.use.opens = true) →
        ∃ es', LogFolder (TimedUse.after folder uses p).files folder place es' ∧
          (logEntries es').length ≤ keptFiles := by
  refine ⟨fun hnow level => h.opening hnow level, fun uses htimes hopened => ?_⟩
  obtain ⟨es', hafter, hten⟩ := h.run htimes
  exact ⟨es', hafter, hten hopened⟩

/-- Ten log files, of which two and two are equally old, and a link to one of them. -/
def tenOld : List (String × Node) :=
  (List.range 10).map (fun i => (toString i ++ ".log", .file i)) ++ [("last", .link "9.log")]

/-- The folder `/logs` holds ten log files, and some listings are refused. -/
def crowded (denied : List String) : Platform :=
  { (default : Platform) with files :=
    { root := .folder 0 [("logs", .folder 0 tenOld)]
      bodies := (List.range 10).map fun i => (i, ⟨[], defaultMode, i / 2⟩)
      nextInode := 10
      now := 20
      denied
      cwd := ⟨.root, []⟩ } }

lemma crowded_removable {denied : List String} (hdenied : denied = [] ∨ denied = ["/logs"]) :
    ∀ e ∈ logEntries tenOld, (∃ inode, e.2 = .file inode) ∧
      ∃ fs', (crowded denied).files.removeFile (Path.child ⟨.root, ["logs"]⟩ e.1) = .ok fs' := by
  have hremoved : ∀ e ∈ logEntries tenOld,
      ((crowded denied).files.removeFile (Path.child ⟨.root, ["logs"]⟩ e.1)).isOk = true := by
    rcases hdenied with rfl | rfl <;> decide
  intro e he
  refine ⟨?_, ?_⟩
  · obtain ⟨hmem, hlog⟩ := mem_logEntries.1 he
    rcases List.mem_append.1 hmem with hfile | hlink
    · obtain ⟨inode, -, rfl⟩ := List.mem_map.1 hfile
      exact ⟨inode, rfl⟩
    · rw [List.mem_singleton.1 hlink] at hlog
      cases hlog
  · have hok := hremoved e he
    generalize (crowded denied).files.removeFile _ = result at hok ⊢
    cases result with
    | ok fs' => exact ⟨fs', rfl⟩
    | error errno => cases hok

lemma logFolder_crowded :
    LogFolder (crowded []).files ⟨.root, ["logs"]⟩ ["logs"] tenOld where
  read := by decide
  noNul := by decide
  there := ⟨0, rfl⟩
  listed := by decide
  distinct := by decide
  names := by decide
  files e he := (crowded_removable (.inl rfl) e he).1
  removable e he := (crowded_removable (.inl rfl) e he).2

/-- One of the two oldest of ten log files goes. Ten stay when another is opened a second later. -/
theorem keeps_newest_of_ten :
    let later : List TimedUse := [⟨0, .opening false none⟩, ⟨1000000, .opening false none⟩]
    LogFolder (crowded []).files ⟨.root, ["logs"]⟩ ["logs"] tenOld ∧
      (crowded []).clock.isInCalendar = true ∧
      (∃ gone es', Rotation ⟨.root, ["logs"]⟩ ["logs"] (crowded [])
        (openLog false none (some ⟨.root, ["logs"]⟩) (crowded [])) tenOld gone es') ∧
      (∀ u ∈ later, u.now.isInCalendar = true) ∧ (∃ u ∈ later, u.use.opens = true) ∧
      ∃ es', LogFolder (TimedUse.after ⟨.root, ["logs"]⟩ later (crowded [])).files
        ⟨.root, ["logs"]⟩ ["logs"] es' ∧ (logEntries es').length ≤ keptFiles := by
  intro later
  obtain ⟨hopening, hrun⟩ := keeps_newest logFolder_crowded
  have hnow : (crowded []).clock.isInCalendar = true := by decide
  have htimes : ∀ u ∈ later, u.now.isInCalendar = true := by decide
  have hopens : ∃ u ∈ later, u.use.opens = true := ⟨_, List.mem_cons_self, rfl⟩
  exact ⟨logFolder_crowded, hnow, hopening hnow none, htimes, hopens, hrun later htimes hopens⟩

/-- Where the listing is refused nothing goes, so there are eleven log files. -/
theorem keeps_all_unlisted :
    (∀ e ∈ logEntries tenOld, (∃ inode, e.2 = .file inode) ∧ ∃ fs',
      (crowded ["/logs"]).files.removeFile (Path.child ⟨.root, ["logs"]⟩ e.1) = .ok fs') ∧
    (crowded ["/logs"]).files.root.at? ["logs"] = some (.folder 0 tenOld) ∧
    (openLog false none (some ⟨.root, ["logs"]⟩) (crowded ["/logs"])).1 = .ok () ∧
    ∃ stamp es', (openLog false none (some ⟨.root, ["logs"]⟩) (crowded ["/logs"])).2.files.root.at?
      ["logs"] = some (.folder stamp es') ∧ (logEntries es').length = 11 :=
  ⟨crowded_removable (.inr rfl), rfl, rfl, _, _, rfl, by decide⟩

end LogFolder

end LanguageHost
