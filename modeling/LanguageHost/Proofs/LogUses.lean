import Mathlib.Data.List.Perm.Basic
import Mathlib.Data.String.Basic
import LanguageHost.Journal.Opening
import LanguageHost.Proofs.Action
import LanguageHost.Proofs.Entries
import LanguageHost.Proofs.FolderSearch

/-!
# Uses of the log

The log is opened and closed, levels and loggers are set, and lines are written, each at a time of
its own. Opening a log file makes room for it in its folder first: the folder is made, and thinned
out if it holds ten log files or more. Of those, nine are kept that are at least as new as all the
others. Then the file that is named for the second is opened.
-/

namespace LanguageHost

/-! ## Runs -/

/-- What is done with the log, where log files go into one folder. -/
inductive LogUse where
  | opening (print : Bool) (level : Option Level)
  | closing
  | setting (level : Level)
  /-- Loggers are made or get tags. -/
  | logging (table : LoggerTable)
  | line (n : Nat) (level : Level) (message : Json) (extra : Tags)

/-- Something that is done with the log at a time. -/
structure TimedUse where
  now : Instant
  use : LogUse

namespace LogUse

/-- Does something with the log. A fault ends it, and what was done before the fault stays. -/
def perform (folder : Path) (p : Platform) : LogUse → Platform
  | opening print level => (Journal.openLog print level (some folder) p).2
  | closing => Journal.closeLog p
  | setting level => { p with journal := { p.journal with level } }
  | logging table => { p with journal := { p.journal with table } }
  | line n level message extra => p.logWith n level message extra

/-- The level that is given with an opening. -/
def level? : LogUse → Option Level
  | opening _ level => level
  | _ => none

/-- A log file is to be opened. -/
def opens : LogUse → Bool
  | opening print _ => !print
  | _ => false

end LogUse

namespace TimedUse

/-- Does something with the log at its time. -/
def perform (folder : Path) (p : Platform) (u : TimedUse) : Platform :=
  u.use.perform folder { p with clock := u.now }

/-- The machine after some uses of the log. -/
def after (folder : Path) (uses : List TimedUse) (p : Platform) : Platform :=
  uses.foldl (perform folder) p

lemma after_concat (folder : Path) (uses : List TimedUse) (u : TimedUse) (p : Platform) :
    after folder (uses ++ [u]) p = u.perform folder (after folder uses p) := by
  rw [after, List.foldl_append]
  rfl

end TimedUse

namespace Journal

open Act

variable {folder : Path} {p : Platform}

/-! ## Opening in two parts -/

/-- Makes the folder for log files and thins it out. -/
def makeRoom (folder : Path) : Task Unit := do
  let p ← get
  if FileSystem.hasNul folder then throw .nulByte
  match p.files.ensureFolders folder with
  | .error fault =>
    Task.setFiles (p.files.foldersLeft folder)
    throw (.os fault)
  | .ok files => Task.setFiles files
  prune folder

/-- The path of the log file that is opened in a folder at a time. -/
def fileAt (folder : Path) (now : Instant) : Path :=
  folder.child (fileName now)

/-- Opens the log file that is named for a time. -/
def startFile (folder : Path) (now : Instant) : Task Unit := do
  let file := fileAt folder now
  modify fun p => { p with journal := { p.journal with path := file.text } }
  let (handle, files) ← Task.ofErrno file ((← get).files.openForWriting file)
  modify fun p => { p with files, journal := { p.journal with sink := some handle } }

/-- Sets the level, if one is given. -/
def withLevel (level : Option Level) (p : Platform) : Platform :=
  { p with journal := { p.journal with level := level.getD p.journal.level } }

/-- The file system after log files were removed from a folder. -/
def thinned (folder : Path) (names : List String) (fs : FileSystem) : FileSystem :=
  names.foldl (removeLog folder) fs

lemma openLog_print (level : Option Level) (folder : Option Path) (p : Platform) :
    openLog true level folder p = (.ok (), withLevel level p) := by
  cases level <;> rfl

lemma openLog_level (print : Bool) (level : Option Level) (folder : Option Path) (p : Platform) :
    openLog print level folder p = openLog print none folder (withLevel level p) := by
  cases level <;> rfl

/-- The two parts of opening a log file. -/
lemma openLog_eq (folder : Path) (p : Platform) :
    openLog false none (some folder) p =
      (do makeRoom folder; startFile folder p.clock : Task Unit) p := by
  unfold openLog makeRoom
  dsimp only
  rw [if_pos (show (!false) = true from rfl), get_bind, bind_assoc, get_bind, Option.getD_some]
  cases FileSystem.hasNul folder with
  | true =>
    rw [if_pos rfl, if_pos rfl]
    have hthrow : (throw .nulByte : Task PUnit) p = (.error .nulByte, p) := rfl
    exact (bind_error hthrow).trans (bind_error (bind_error hthrow)).symm
  | false =>
    rw [if_neg Bool.false_ne_true, if_neg Bool.false_ne_true]
    cases p.files.ensureFolders folder with
    | error fault =>
      have hset : Task.setFiles (p.files.foldersLeft folder) p =
        (.ok (), { p with files := p.files.foldersLeft folder }) := rfl
      have hthrow : (throw (.os fault) : Task PUnit)
          { p with files := p.files.foldersLeft folder } =
        (.error (.os fault), { p with files := p.files.foldersLeft folder }) := rfl
      dsimp only
      rw [bind_assoc, bind_ok hset, bind_ok hset]
      exact (bind_error hthrow).trans (bind_error (bind_error hthrow)).symm
    | ok files =>
      have hset : Task.setFiles files p = (.ok (), { p with files }) := rfl
      dsimp only
      rw [bind_assoc, bind_ok hset, bind_ok hset]
      rfl

lemma prune_error {fault : OsFault} (hfound : logFiles p folder = .error fault) :
    prune folder p = (.error (.os fault), p) := by
  unfold prune
  rw [get_bind, hfound]
  rfl

lemma prune_ok {found : List (String × Int)} (hfound : logFiles p folder = .ok found) :
    prune folder p = (.ok (), { p with files := thinned folder (surplus found) p.files }) := by
  unfold prune
  rw [get_bind, hfound]
  rfl

/-- The folder cannot be named or made, or it cannot be inspected, or it is made and thinned out. -/
lemma makeRoom_cases (folder : Path) (p : Platform) :
    (∃ fault, makeRoom folder p = (.error fault, p)) ∨
      (∃ fault, p.files.ensureFolders folder = .error fault ∧
        makeRoom folder p = (.error (.os fault), { p with files := p.files.foldersLeft folder })) ∨
      FileSystem.hasNul folder = false ∧ ∃ files, p.files.ensureFolders folder = .ok files ∧
        ((∃ fault, makeRoom folder p = (.error fault, { p with files })) ∨
          ∃ found, logFiles { p with files } folder = .ok found ∧
            makeRoom folder p =
              (.ok (), { p with files := thinned folder (surplus found) files })) := by
  unfold makeRoom
  rw [get_bind]
  cases FileSystem.hasNul folder with
  | true => exact .inl ⟨.nulByte, rfl⟩
  | false =>
    rw [if_neg Bool.false_ne_true]
    cases hmade : p.files.ensureFolders folder with
    | error fault => exact .inr (.inl ⟨fault, rfl, rfl⟩)
    | ok files =>
      have hset : Task.setFiles files p = (.ok (), { p with files }) := rfl
      refine .inr (.inr ⟨rfl, files, rfl, ?_⟩)
      dsimp only
      rw [bind_ok hset]
      cases hfound : logFiles { p with files } folder with
      | error fault => exact .inl ⟨.os fault, prune_error hfound⟩
      | ok found => exact .inr ⟨found, rfl, prune_ok hfound⟩

lemma startFile_eq (folder : Path) (now : Instant) (p : Platform) :
    startFile folder now p =
      (do
        let opened ← Task.ofErrno (fileAt folder now)
          (p.files.openForWriting (fileAt folder now))
        modify fun q => { q with
          files := opened.2
          journal := { q.journal with sink := some opened.1 } } : Task Unit)
        { p with journal := { p.journal with path := (fileAt folder now).text } } := by
  unfold startFile
  generalize fileAt folder now = file
  have hshown : (modify fun p => { p with
      journal := { p.journal with path := file.text } } : Task Unit) p =
    (.ok (), { p with journal := { p.journal with path := file.text } }) := rfl
  dsimp only
  rw [bind_ok hshown, get_bind]

/-- The path is set even if the file cannot be opened. -/
lemma startFile_error {now : Instant} {errno : Errno}
    (hopened : p.files.openForWriting (fileAt folder now) = .error errno) :
    startFile folder now p = (.error (.os ⟨errno, (fileAt folder now).text⟩),
      { p with journal := { p.journal with path := (fileAt folder now).text } }) := by
  rw [startFile_eq, hopened]
  generalize fileAt folder now = file
  exact bind_error rfl

lemma startFile_ok {now : Instant} {handle : FileHandle} {files : FileSystem}
    (hopened : p.files.openForWriting (fileAt folder now) = .ok (handle, files)) :
    startFile folder now p = (.ok (), { p with
      files
      journal := { p.journal with path := (fileAt folder now).text, sink := some handle } }) := by
  rw [startFile_eq, hopened]
  generalize fileAt folder now = file
  exact bind_ok rfl

/-! ## Which log files go -/

/-- Of ten log files or more, nine stay that are at least as new as all that go. Of fewer, all
stay. -/
lemma surplus_cases (found : List (String × Int)) :
    ∃ kept rest, (kept ++ rest).Perm found ∧ surplus found = rest.map Prod.fst ∧
      (∀ k ∈ kept, ∀ r ∈ rest, r.2 ≤ k.2) ∧
      (found.length < keptFiles → rest = []) ∧
      (keptFiles ≤ found.length → kept.length = keptFiles - 1) := by
  by_cases hfew : found.length < keptFiles
  · refine ⟨found, [], by simp, ?_, by simp, fun _ => rfl, fun hmany => ?_⟩
    · rw [surplus, if_pos hfew]
      rfl
    · omega
  · set newest := found.mergeSort fun a b => b.2 ≤ a.2 with hnewest
    have hperm : newest.Perm found := List.mergeSort_perm _ _
    have hsorted : newest.Pairwise fun a b => b.2 ≤ a.2 := by
      have hle : newest.Pairwise fun a b => decide (b.2 ≤ a.2) = true :=
        List.pairwise_mergeSort (by simp; omega) (by simp; omega) found
      simpa using hle
    rw [← List.take_append_drop (keptFiles - 1) newest, List.pairwise_append] at hsorted
    refine ⟨newest.take (keptFiles - 1), newest.drop (keptFiles - 1), ?_, ?_, hsorted.2.2,
      fun hless => absurd hless hfew, fun hmany => ?_⟩
    · rwa [List.take_append_drop]
    · rw [surplus, if_neg hfew]
    · rw [List.length_take, hperm.length_eq]
      omega

/-- A list is mapped if each of its elements is. -/
lemma mapM_eq_ok {α β ε : Type} (f : α → Except ε β) (xs : List α) (ys : List β) :
    xs.mapM f = .ok ys ↔ List.Forall₂ (fun x y => f x = .ok y) xs ys := by
  induction xs generalizing ys with
  | nil => cases ys <;> simp [pure, Except.pure]
  | cons x xs ih =>
    rw [List.mapM_cons]
    cases hx : f x with
    | error fault => cases ys <;> simp [bind, Except.bind, hx]
    | ok y =>
      cases hxs : xs.mapM f with
      | error fault => cases ys <;> simp [bind, Except.bind, ← ih, hxs, hx]
      | ok more => cases ys <;> simp [bind, Except.bind, pure, Except.pure, ← ih, hxs, hx]

/-- A log file that is inspected comes with its name. -/
lemma inspected {names : List String} {found : List (String × Int)} {T : String → Int → Prop}
    (h : List.Forall₂ (fun name k => k.1 = name ∧ T k.1 k.2) names found) :
    found.map Prod.fst = names ∧ ∀ k ∈ found, T k.1 k.2 := by
  induction h with
  | nil => simp
  | cons hk _ ih =>
    obtain ⟨hname, htime⟩ := hk
    rw [List.map_cons, List.forall_mem_cons, hname, ih.1]
    exact ⟨rfl, hname ▸ htime, ih.2⟩

/-- The log files of a folder are those that are listed. If there are ten or more, each one was
inspected. -/
lemma logFiles_listed {found : List (String × Int)} {es : List (String × Node)}
    (hfound : logFiles p folder = .ok found) (hlist : p.files.list folder = .ok es) :
    found.map Prod.fst = (es.map Prod.fst).filter isLogName ∧
      (keptFiles ≤ found.length →
        ∀ k ∈ found, p.files.modifiedAt (folder.child k.1) = .ok k.2) := by
  unfold logFiles at hfound
  rw [hlist] at hfound
  dsimp only at hfound
  split at hfound
  · rename_i hfew
    cases hfound
    refine ⟨by simp [Function.comp_def], fun hmany => ?_⟩
    rw [List.length_map] at hmany
    omega
  · have hpairs := (mapM_eq_ok _ _ _).1 hfound
    obtain ⟨hnames, htimes⟩ := inspected
      (T := fun name time => p.files.modifiedAt (folder.child name) = .ok time)
      (hpairs.imp fun name k hk => by
        split at hk
        · rename_i htime
          cases hk
          exact ⟨rfl, htime⟩
        · cases hk)
    exact ⟨hnames, fun _ => htimes⟩

lemma logFiles_unlisted {found : List (String × Int)} {errno : Errno}
    (hfound : logFiles p folder = .ok found) (hlist : p.files.list folder = .error errno) :
    found = [] := by
  unfold logFiles at hfound
  rw [hlist] at hfound
  cases hfound
  rfl

lemma removeLog_ok {fs fs' : FileSystem} {name : String}
    (hremoved : fs.removeFile (folder.child name) = .ok fs') : removeLog folder fs name = fs' := by
  unfold removeLog
  generalize fs.removeFile (folder.child name) = removed at hremoved ⊢
  rw [hremoved]

lemma removeLog_error {fs : FileSystem} {name : String} {errno : Errno}
    (hremoved : fs.removeFile (folder.child name) = .error errno) :
    removeLog folder fs name = fs := by
  unfold removeLog
  generalize fs.removeFile (folder.child name) = removed at hremoved ⊢
  rw [hremoved]

lemma thinned_cons (folder : Path) (name : String) (names : List String) (fs : FileSystem) :
    thinned folder (name :: names) fs = thinned folder names (removeLog folder fs name) := by
  rw [thinned, List.foldl_cons, thinned]

/-! ## What is in the tree -/

/-- The file system after a file was emptied. -/
def emptied (fs : FileSystem) (inode mode : Nat) : FileSystem :=
  { fs.putBody inode ⟨[], mode, fs.now⟩ with now := fs.now + 1 }

lemma sameTree_emptied (fs : FileSystem) (inode mode : Nat) :
    fs.SameTree (emptied fs inode mode) :=
  ⟨FileSystem.root_putBody _ _ _, FileSystem.cwd_putBody _ _ _, FileSystem.denied_putBody _ _ _⟩

lemma nextInode_emptied (fs : FileSystem) (inode mode : Nat) :
    (emptied fs inode mode).nextInode = fs.nextInode :=
  FileSystem.nextInode_putBody _ _ _

lemma body?_emptied (fs : FileSystem) (inode mode other : Nat) :
    (emptied fs inode mode).body? other =
      if other = inode then some ⟨[], mode, fs.now⟩ else fs.body? other :=
  FileSystem.body?_putBody _ _ _ _

/-- Only opening a log file changes the tree. -/
lemma sameTree_perform {use : LogUse} (hopens : use.opens = false) (folder : Path) (p : Platform) :
    p.files.SameTree (use.perform folder p).files := by
  cases use with
  | opening print level =>
    have hprint : print = true := by simpa [LogUse.opens] using hopens
    rw [LogUse.perform, hprint, openLog_print]
    exact .refl _
  | closing =>
    rw [LogUse.perform, closeLog]
    cases p.journal.sink with
    | none => exact .refl _
    | some handle => exact .refl _
  | setting level => exact .refl _
  | logging table => exact .refl _
  | line n level message extra => exact p.sameTree_logWith n level message extra

/-! ## What is not in the tree -/

/-- Where files are may differ, but not what they hold or which listings are refused. -/
structure SameContents (fs fs' : FileSystem) : Prop where
  bodies : fs'.bodies = fs.bodies
  nextInode : fs'.nextInode = fs.nextInode
  denied : fs'.denied = fs.denied
  cwd : fs'.cwd = fs.cwd

namespace SameContents

variable {fs fs' fs'' : FileSystem}

lemma refl (fs : FileSystem) : SameContents fs fs :=
  ⟨rfl, rfl, rfl, rfl⟩

lemma trans (a : SameContents fs fs') (b : SameContents fs' fs'') : SameContents fs fs'' :=
  ⟨b.bodies.trans a.bodies, b.nextInode.trans a.nextInode, b.denied.trans a.denied,
    b.cwd.trans a.cwd⟩

lemma body? (a : SameContents fs fs') (inode : Nat) : fs'.body? inode = fs.body? inode := by
  rw [FileSystem.body?, FileSystem.body?, a.bodies]

lemma putNode (fs : FileSystem) (names : List String) (change : Option Node) :
    SameContents fs (fs.putNode names change) :=
  ⟨rfl, rfl, rfl, rfl⟩

lemma removeLog (folder : Path) (fs : FileSystem) (name : String) :
    SameContents fs (removeLog folder fs name) := by
  cases hremoved : fs.removeFile (folder.child name) with
  | error errno =>
    rw [removeLog_error hremoved]
    exact .refl fs
  | ok fs' =>
    obtain ⟨l, n, -, -, rfl⟩ := FileSystem.removeFile_eq_ok hremoved
    rw [removeLog_ok hremoved]
    exact .putNode fs l none

lemma thinned (folder : Path) (names : List String) (fs : FileSystem) :
    SameContents fs (thinned folder names fs) := by
  induction names generalizing fs with
  | nil => exact .refl fs
  | cons name rest ih =>
    rw [thinned_cons]
    exact (SameContents.removeLog folder fs name).trans (ih _)

end SameContents

/-! ## Names of log files -/

/-- The characters in the name of a log file. -/
def IsNameMark (c : Char) : Prop :=
  c.isDigit = true ∨ c ∈ ['-', 'T', '.', 'l', 'o', 'g']

instance (c : Char) : Decidable (IsNameMark c) :=
  inferInstanceAs (Decidable (_ ∨ _))

/-- Only characters that names of log files are made of. -/
def OnlyMarks (s : String) : Prop :=
  ∀ c ∈ s.toList, IsNameMark c

lemma OnlyMarks.append {s t : String} (hs : OnlyMarks s) (ht : OnlyMarks t) :
    OnlyMarks (s ++ t) := by
  rw [OnlyMarks, String.toList_append, List.forall_mem_append]
  exact ⟨hs, ht⟩

lemma onlyMarks_padded (width n : Nat) : OnlyMarks (Instant.padded width n) := by
  intro c hc
  rw [Instant.padded, String.toList_ofList] at hc
  rcases List.mem_append.1 hc with hzero | hdigit
  · rw [List.eq_of_mem_replicate hzero]
    exact .inl rfl
  · exact .inl (Nat.isDigit_of_mem_toDigits (by decide) (by decide) hdigit)

lemma length_padded {k : Nat} (width n : Nat) (hk : 0 < k) (hwidth : width ≤ k) (hn : n < 10 ^ k) :
    (Instant.padded width n).toList.length ≤ k := by
  have hdigits := (Nat.length_toDigits_le_iff (b := 10) (by decide) hk).2 hn
  rw [Instant.padded, String.toList_ofList, List.length_append, List.length_replicate]
  omega

/-- Within an era, days and months are small numbers. -/
lemma dateOf_small (days : Int) :
    (Instant.dateOf days).month < 10 ^ 4 ∧ (Instant.dateOf days).day < 10 ^ 6 := by
  have hera : ((days + 739191) - (days + 739191).fdiv 146097 * 146097).toNat < 146097 := by
    rw [Int.fdiv_eq_ediv_of_nonneg _ (by decide)]
    omega
  unfold Instant.dateOf
  dsimp only
  generalize ((days + 739191) - (days + 739191).fdiv 146097 * 146097).toNat = dayOfEra at hera ⊢
  generalize (dayOfEra - dayOfEra / 1460 + dayOfEra / 36524 - dayOfEra / 146096) / 365 = yearOfEra
  have hyear : dayOfEra - (365 * yearOfEra + yearOfEra / 4 - yearOfEra / 100) ≤ dayOfEra :=
    Nat.sub_le _ _
  generalize dayOfEra - (365 * yearOfEra + yearOfEra / 4 - yearOfEra / 100) = dayOfYear at hyear ⊢
  constructor
  · split <;> omega
  · omega

/-- In the calendar years have four digits. -/
lemma year_small {now : Instant} (hnow : now.isInCalendar = true) :
    (Instant.dateOf ((now.fdiv 1000000).fdiv 86400)).year.toNat < 10 ^ 4 := by
  have hdays : (now.fdiv 1000000).fdiv 86400 = Instant.days now := by
    rw [Instant.days, Int.fdiv_eq_ediv_of_nonneg _ (by decide),
      Int.fdiv_eq_ediv_of_nonneg _ (by decide), Int.fdiv_eq_ediv_of_nonneg _ (by decide)]
    omega
  have hyear : (Instant.dateOf (Instant.days now)).year ≤ 9999 := by
    have hboth := hnow
    rw [Instant.isInCalendar, Bool.and_eq_true, decide_eq_true_iff, decide_eq_true_iff] at hboth
    exact hboth.2
  rw [hdays]
  omega

lemma onlyMarks_fileName (now : Instant) : OnlyMarks (fileName now) := by
  have hdash : OnlyMarks "-" := by simp [OnlyMarks, IsNameMark]
  have htime : OnlyMarks "T" := by simp [OnlyMarks, IsNameMark]
  have hmark : OnlyMarks "" := by simp [OnlyMarks]
  have hlog : OnlyMarks ".log" := by simp [OnlyMarks, IsNameMark]
  have hn := onlyMarks_padded
  exact (((((((((((hn 4 _).append hdash).append (hn 2 _)).append hdash).append (hn 2 _)).append
    htime).append (hn 2 _)).append hmark).append (hn 2 _)).append hmark).append
    (hn 2 _)).append hlog

lemma length_fileName {now : Instant} (hnow : now.isInCalendar = true) :
    (fileName now).toList.length ≤ 60 := by
  obtain ⟨hmonth, hday⟩ := dateOf_small ((now.fdiv 1000000).fdiv 86400)
  have hyear := year_small hnow
  have hsecond : (now.fdiv 1000000 - (now.fdiv 1000000).fdiv 86400 * 86400).toNat < 10 ^ 6 := by
    rw [Int.fdiv_eq_ediv_of_nonneg _ (show (0 : Int) ≤ 86400 by decide)]
    omega
  unfold fileName Instant.format
  dsimp only
  generalize (now.fdiv 1000000 - (now.fdiv 1000000).fdiv 86400 * 86400).toNat = second at hsecond ⊢
  have hhours : (Instant.padded 2 (second / 3600)).toList.length ≤ 6 :=
    length_padded _ _ (by decide) (by decide) (by omega)
  have hminutes : (Instant.padded 2 (second / 60 % 60)).toList.length ≤ 6 :=
    length_padded _ _ (by decide) (by decide) (by omega)
  have hseconds : (Instant.padded 2 (second % 60)).toList.length ≤ 6 :=
    length_padded _ _ (by decide) (by decide) (by omega)
  have hyears := length_padded 4 _ (by decide) (by decide) hyear
  have hmonths := length_padded 2 _ (by decide) (by decide) hmonth
  have hdays := length_padded 2 _ (by decide) (by decide) hday
  have hmark : "".toList.length = 0 := rfl
  have hdash : "-".toList.length = 1 := rfl
  have htime : "T".toList.length = 1 := rfl
  have hlog : ".log".toList.length = 4 := rfl
  simp only [String.toList_append, List.length_append]
  omega

/-- The name of a log file is a name of a log file. -/
lemma isLogName_fileName (now : Instant) : isLogName (fileName now) = true := by
  rw [isLogName, fileName, String.toList_append, List.isSuffixOf_iff_suffix]
  exact List.suffix_append _ _

lemma slash_not_mem_fileName (now : Instant) : '/' ∉ (fileName now).toList :=
  fun hslash => absurd (onlyMarks_fileName now _ hslash) (by decide)

/-- The name of a log file is one step on the way. -/
lemma isStep_fileName (now : Instant) : Path.isStep (fileName now).toList = true := by
  have hlog := isLogName_fileName now
  rw [Path.isStep, Bool.and_eq_true, decide_eq_true_iff, decide_eq_true_iff]
  refine ⟨fun hnone => ?_, fun hdot => ?_⟩
  · rw [isLogName, hnone] at hlog
    exact absurd hlog (by decide)
  · rw [isLogName, hdot] at hlog
    exact absurd hlog (by decide)

/-- No character takes more than four bytes. -/
lemma utf8ByteSize_le (s : String) : s.utf8ByteSize ≤ 4 * s.toList.length := by
  rw [← String.ofList_toList (s := s), String.utf8ByteSize_ofList, String.toList_ofList]
  induction s.toList with
  | nil => simp [String.utf8Len]
  | cons c rest ih =>
    have hc := Char.utf8Size_le_four c
    rw [String.utf8Len_cons, List.length_cons]
    omega

/-- An entry of a folder can have the name of a log file. -/
lemma isEntryName_fileName {now : Instant} (hnow : now.isInCalendar = true) :
    FileSystem.IsEntryName (fileName now) := by
  have hlog := isLogName_fileName now
  have hmarks := onlyMarks_fileName now
  have hlength := length_fileName hnow
  have hbytes := utf8ByteSize_le (fileName now)
  refine ⟨⟨fun hdot => ?_, fun hup => ?_, ?_⟩, ⟨fun hnone => ?_, slash_not_mem_fileName now⟩,
    fun hnul => ?_⟩
  · rw [hdot] at hlog
    exact absurd hlog (by decide)
  · rw [hup] at hlog
    exact absurd hlog (by decide)
  · rw [FileSystem.maxNameBytes]
    omega
  · rw [isLogName, hnone] at hlog
    exact absurd hlog (by decide)
  · exact absurd (hmarks _ hnul) (by decide)

end Journal

end LanguageHost
