import LanguageHost.Proofs.LogLines

/-!
# The log file that is shown

The journal shows the path of its log file and holds the file open beside it. When a log file is
opened the path is set first and the file after it. So what is shown is where lines go as long as
every file can be opened that is named this way. If one cannot, the new path is shown all the same,
and lines go where they went before.

Log files may go to any folders here, and an opening may fail at each of its steps. Others may
change the file system in between, but leave the open log file alone.
-/

namespace LanguageHost

open FileSystem Journal

/-! ## Where lines go -/

/-- Where lines go. -/
inductive Destination where
  | errorStream
  | file (inode : Nat)
  /-- What is written there is kept nowhere. -/
  | device
  deriving DecidableEq

/-- Where lines go that are written to a node. -/
def Node.destination? : Node → Option Destination
  | folder _ _ => none
  | file inode => some (.file inode)
  | link _ | device => some .device

namespace FileSystem

/-- Where lines go that are written to what stands at a path. -/
def destination? (fs : FileSystem) (p : Path) : Option Destination :=
  (fs.stat p).toOption.bind Node.destination?

/-- Where lines go that are written through a handle. -/
def destinationOf (fs : FileSystem) (handle : FileHandle) : Destination :=
  if (fs.body? handle.inode).isSome then .file handle.inode else .device

end FileSystem

namespace Platform

/-- Where the next line goes. -/
def destination (p : Platform) : Destination :=
  p.journal.sink.elim .errorStream p.files.destinationOf

/-- The journal shows where the next line goes: no path if it goes to the standard error stream, and
the path of the file otherwise. -/
structure ShowsDestination (p : Platform) : Prop where
  blank : p.journal.path = "" ↔ p.destination = .errorStream
  file : p.journal.path ≠ "" → ∃ shown : Path, shown.text = p.journal.path ∧
    p.files.destination? shown = some p.destination

/-- In this file system the open log file is where it was, and holds what it held. -/
structure LogUntouched (p : Platform) (files : FileSystem) : Prop where
  numbered : files.IsNumbered
  later : p.files.nextInode ≤ files.nextInode
  held : ∀ handle, p.journal.sink = some handle →
    files.body? handle.inode = p.files.body? handle.inode
  shown : ∀ handle, p.journal.sink = some handle → ∀ shown : Path, shown.text = p.journal.path →
    files.destination? shown = p.files.destination? shown

end Platform

/-! ## Steps -/

/-- The log file of a time cannot be opened in a folder, though there is room for it. -/
def Journal.IsBlocked (folder : Path) (now : Instant) (p : Platform) : Prop :=
  ∃ q, makeRoom folder p = (.ok (), q) ∧
    ∃ errno, q.files.openForWriting (fileAt folder now) = .error errno

/-- Something is done with the log, where a log file goes to the given folder or to the usual one;
or others change the file system. -/
inductive LogStep where
  | use (folder : Option Path) (u : TimedUse)
  | others (files : FileSystem)

namespace LogStep

/-- Takes a step. -/
def perform (p : Platform) : LogStep → Platform
  | use folder u => u.perform (folder.getD p.logFolder) p
  | others files => { p with files }

/-- The machine after some steps. -/
def after (steps : List LogStep) (p : Platform) : Platform :=
  steps.foldl perform p

/-- A log file is to be opened and is blocked. -/
def Blocked (p : Platform) : LogStep → Prop
  | use folder u => u.use.opens = true ∧ IsBlocked (folder.getD p.logFolder) u.now (u.about p)
  | others _ => False

/-- If others take this step, they leave the open log file alone. -/
def SparesLog (p : Platform) : LogStep → Prop
  | use _ _ => True
  | others files => p.LogUntouched files

/-- Others leave the open log file alone all along. -/
def Undisturbed (steps : List LogStep) (p : Platform) : Prop :=
  ∀ front step, front ++ [step] <+: steps → step.SparesLog (after front p)

lemma after_concat (front : List LogStep) (step : LogStep) (p : Platform) :
    after (front ++ [step]) p = step.perform (after front p) := by
  rw [after, List.foldl_append]
  rfl

/-- All steps of a run are the first one and those that follow it. -/
lemma forall_steps_cons {first : LogStep} {steps : List LogStep}
    {P : List LogStep → LogStep → Prop} :
    (∀ front step, front ++ [step] <+: first :: steps → P front step) ↔
      P [] first ∧ ∀ front step, front ++ [step] <+: steps → P (first :: front) step := by
  constructor
  · intro h
    refine ⟨h [] first ⟨steps, rfl⟩, fun front step hprefix => h (first :: front) step ?_⟩
    exact List.cons_prefix_cons.2 ⟨rfl, hprefix⟩
  · rintro ⟨hfirst, hrest⟩ front step hprefix
    cases front with
    | nil =>
      rw [(List.cons_prefix_cons.1 hprefix).1]
      exact hfirst
    | cons before front =>
      obtain ⟨rfl, hbehind⟩ := List.cons_prefix_cons.1 hprefix
      exact hrest front step hbehind

end LogStep

/-- Bytes arrive at a destination. If it is a file, they are put behind what it holds, and no other
file is written. -/
def Arrives (written : List UInt8) (fs fs' : FileSystem) : Destination → Prop
  | .file inode => (∃ old new, fs.body? inode = some old ∧ fs'.body? inode = some new ∧
      new.bytes = old.bytes ++ written) ∧ ∀ other, other ≠ inode → fs'.body? other = fs.body? other
  | .errorStream | .device => fs' = fs

namespace Platform

/-- Each line that is taken arrives where the next line goes. -/
def SendsLines (p : Platform) : Prop :=
  ∀ folder now n level message extra, p.journal.takes level = true →
    let line := (p.journal.table.get n).line now level message extra
    let q := LogStep.perform p (.use folder ⟨now, .line n level message extra⟩)
    q.journal.lines = p.journal.lines ++ [line] ∧
      Arrives (Utf8.encode line ++ [0x0A]) p.files q.files p.destination

/-- An opening that fails does not change where lines go. If the log file is not blocked, what is
shown does not change either. If it is, its path is shown in vain. -/
def FailsInPlace (p : Platform) : Prop :=
  ∀ now print level folder fault q,
    openLog print level folder { p with clock := now } = (.error fault, q) →
      q.destination = p.destination ∧
        (¬ (LogStep.use folder ⟨now, .opening print level⟩).Blocked p →
          q.journal.path = p.journal.path) ∧
        ((LogStep.use folder ⟨now, .opening print level⟩).Blocked p →
          q.journal.path = (fileAt (folder.getD p.logFolder) now).text ∧ ¬ q.ShowsDestination)

end Platform

/-! ## What a path leads to -/

namespace FileSystem

variable {fs fs' : FileSystem} {p : Path} {handle : FileHandle} {errno : Errno}

lemma destination?_eq_some {d : Destination} : fs.destination? p = some d ↔
    ∃ l n, fs.find true p = .ok (.node l n) ∧ n.destination? = some d := by
  rw [destination?]
  constructor
  · intro h
    obtain ⟨n, hstat, hn⟩ := Option.bind_eq_some_iff.1 h
    obtain ⟨l, hfind⟩ := stat_eq_ok.1 (Act.ok_of_toOption hstat)
    exact ⟨l, n, hfind, hn⟩
  · rintro ⟨l, n, hfind, hn⟩
    rw [stat_eq_ok.2 ⟨l, hfind⟩]
    exact hn

lemma Extends.destination? (h : Extends fs fs') {d : Destination}
    (hd : fs.destination? p = some d) : fs'.destination? p = some d := by
  obtain ⟨l, n, hfind, hn⟩ := destination?_eq_some.1 hd
  obtain ⟨n', hfind', hface⟩ := h.find hfind
  refine destination?_eq_some.2 ⟨l, n', hfind', ?_⟩
  rw [← hn]
  cases n <;> cases n' <;> simp_all [Node.face, Node.destination?]

lemma SameTree.destination? (h : SameTree fs fs') (p : Path) :
    fs'.destination? p = fs.destination? p := by
  rw [FileSystem.destination?, FileSystem.destination?, h.stat]

/-- Nothing is written to what cannot be opened. -/
lemma destination?_of_failed (h : fs.openForWriting p = .error errno) :
    fs.destination? p = none := by
  rw [Option.eq_none_iff_forall_ne_some]
  intro d hd
  obtain ⟨l, n, hfind, hn⟩ := destination?_eq_some.1 hd
  unfold openForWriting at h
  rw [hfind] at h
  cases n with
  | folder modified es => cases hn
  | _ => cases h

/-- The number that is given next belongs to no file, so what is written there is kept nowhere. -/
lemma destination?_of_fresh (hfs : fs.IsNumbered) {l : List String} {n : Node}
    (hfind : fs.find true p = .ok (.node l n)) (hn : n.destination? = some .device) :
    ({ fs with nextInode := fs.nextInode + 1 } : FileSystem).destination? p =
      some (({ fs with nextInode := fs.nextInode + 1 } : FileSystem).destinationOf
        ⟨fs.nextInode, 0⟩) := by
  have hfree : fs.body? fs.nextInode = none := by
    rw [Option.eq_none_iff_forall_ne_some]
    exact fun body hbody => (hfs.bodies _ _ hbody).false
  have hnowhere : ({ fs with nextInode := fs.nextInode + 1 } : FileSystem).destinationOf
      ⟨fs.nextInode, 0⟩ = .device := by
    change (if (fs.body? fs.nextInode).isSome then _ else _) = _
    rw [hfree]
    rfl
  rw [hnowhere]
  exact destination?_eq_some.2 ⟨l, n, (find_of_root rfl rfl true p).trans hfind, hn⟩

/-- What is written through a new handle goes to what stands at its path then. -/
lemma destination?_of_opened (hfs : fs.IsNumbered)
    (h : fs.openForWriting p = .ok (handle, fs')) :
    fs'.destination? p = some (fs'.destinationOf handle) := by
  unfold openForWriting at h
  cases hfind : fs.find true p with
  | error errno =>
    rw [hfind] at h
    cases h
  | ok found =>
    rw [hfind] at h
    cases found with
    | missing place =>
      cases h
      refine destination?_eq_some.2 ⟨place, _, (extends_addFile hfind _).2, ?_⟩
      rw [destinationOf, body?_addFile, if_pos rfl]
      rfl
    | node l n =>
      cases n with
      | folder modified es => cases h
      | file inode =>
        cases h
        set mode := ((fs.body? inode).map (·.mode)).getD defaultMode
        change (emptied fs inode mode).destination? p =
          some ((emptied fs inode mode).destinationOf ⟨inode, 0⟩)
        rw [(sameTree_emptied fs inode mode).destination?, destinationOf, body?_emptied, if_pos rfl]
        exact destination?_eq_some.2 ⟨l, _, hfind, rfl⟩
      | link target =>
        cases h
        exact destination?_of_fresh hfs hfind rfl
      | device =>
        cases h
        exact destination?_of_fresh hfs hfind rfl

lemma destinationOf_ne (fs : FileSystem) (handle : FileHandle) :
    fs.destinationOf handle ≠ .errorStream := by
  rw [destinationOf]
  split <;> simp

lemma destinationOf_of_bodies (hbodies : fs'.bodies = fs.bodies) (handle : FileHandle) :
    fs'.destinationOf handle = fs.destinationOf handle := by
  rw [destinationOf, destinationOf, body?, body?, hbodies]

/-- Writing does not change where writing leads. -/
lemma destinationOf_writeThrough (fs : FileSystem) (handle : FileHandle) (written : List UInt8) :
    (fs.writeThrough handle written).2.destinationOf (fs.writeThrough handle written).1 =
      fs.destinationOf handle := by
  unfold writeThrough
  cases hbody : fs.body? handle.inode with
  | none => rfl
  | some body =>
    set bytes := overwrite body.bytes handle.offset written
    have hwritten : ({ fs.putBody handle.inode ⟨bytes, body.mode, fs.now⟩ with
        now := fs.now + 1 } : FileSystem).body? handle.inode = some ⟨bytes, body.mode, fs.now⟩ :=
      (body?_putBody _ _ _ _).trans (if_pos rfl)
    rw [destinationOf, destinationOf, hbody, hwritten]
    rfl

end FileSystem

/-! ## Ways in which opening a log file ends -/

namespace Path

/-- A path that ends in a name has a text. -/
lemma text_ne_of_last {p : Path} {names : List String} {name : String}
    (hnames : p.names = names ++ [name]) (hname : name ≠ "") : p.text ≠ "" := by
  have hsome : (['/'].intercalate (p.names.map String.toList)) ≠ [] := by
    rw [hnames]
    cases names with
    | nil => simpa using hname
    | cons first rest =>
      cases rest <;> simp [List.intercalate_cons_cons]
  have htext : p.text = p.start.text ++ "/".intercalate p.names := by
    rw [text, if_neg (by simp [hnames])]
  rw [htext]
  intro hempty
  rw [← String.toList_inj, String.toList_append, String.toList_intercalate] at hempty
  exact hsome (List.append_eq_nil_iff.1 hempty).2

end Path

namespace Journal

variable {folder : Path} {now : Instant} {p : Platform}

lemma names_fileAt (folder : Path) (now : Instant) :
    ∃ names, (fileAt folder now).names = names ++ [fileName now] := by
  have hread := names_ofString_part (slash_not_mem_fileName now) (isStep_fileName now)
  rw [fileAt, Path.child, Path.append]
  split
  · exact ⟨[], hread⟩
  · exact ⟨folder.names, congrArg (folder.names ++ ·) hread⟩

lemma text_fileAt_ne (folder : Path) (now : Instant) : (fileAt folder now).text ≠ "" := by
  obtain ⟨names, hnames⟩ := names_fileAt folder now
  refine Path.text_ne_of_last hnames fun hnone => ?_
  have hstep := isStep_fileName now
  rw [hnone] at hstep
  exact absurd hstep (by decide)

/-- What comes of opening a log file, which may be blocked. -/
inductive LogOpening (file : Path) (blocked : Prop) (p : Platform) :
    Except Fault Unit × Platform → Prop
  /-- No room is made, though folders may be new. -/
  | refused {fault : Fault} {files : FileSystem} (hclear : ¬ blocked)
    (hadds : OnlyAdds p.files files) : LogOpening file blocked p (.error fault, { p with files })
  /-- The file cannot be opened, but its path is shown. -/
  | shut {fault : Fault} {files : FileSystem} (hblocked : blocked)
    (hcontents : SameContents p.files files) (hnowhere : files.destination? file = none) :
    LogOpening file blocked p
      (.error fault, { p with files, journal := { p.journal with path := file.text } })
  /-- The file is opened, and its path is shown. -/
  | opened {handle : FileHandle} {files : FileSystem} (hclear : ¬ blocked)
    (hleads : files.destination? file = some (files.destinationOf handle)) :
    LogOpening file blocked p (.ok (), { p with
      files
      journal := { p.journal with path := file.text, sink := some handle } })

lemma not_isBlocked_of_error {fault : Fault} {q : Platform}
    (hroom : makeRoom folder p = (.error fault, q)) : ¬ IsBlocked folder now p := by
  rintro ⟨q', hmade, -⟩
  cases hroom.symm.trans hmade

lemma not_isBlocked_of_isOk (hopens :
    ((makeRoom folder p).2.files.openForWriting (fileAt folder now)).isOk = true) :
    ¬ IsBlocked folder now p := by
  rintro ⟨q, hroom, errno, hfailed⟩
  rw [hroom, hfailed] at hopens
  cases hopens

/-- If no room is made, folders may be new. -/
lemma makeRoom_error {fault : Fault} {q : Platform}
    (hroom : makeRoom folder p = (.error fault, q)) :
    ∃ files, q = { p with files } ∧ OnlyAdds p.files files := by
  have hcases := makeRoom_cases folder p
  rw [hroom] at hcases
  obtain ⟨fault, hq⟩ | ⟨fault, -, hq⟩ | ⟨-, made, hmade, ⟨fault, hq⟩ | ⟨found, -, hq⟩⟩ := hcases
  · cases hq
    exact ⟨p.files, rfl, .refl _⟩
  · cases hq
    exact ⟨p.files.foldersLeft folder, rfl, onlyAdds_foldersLeft _ _⟩
  · cases hq
    exact ⟨made, rfl, onlyAdds_ensureFolders hmade⟩
  · cases hq

/-- Opening a log file ends in one of these ways. -/
lemma logOpening (hp : WritesAtEnd p) (folder : Path) (now : Instant) :
    LogOpening (fileAt folder now) (IsBlocked folder now p) p
      ((do makeRoom folder; startFile folder now : Task Unit) p) := by
  have hkept := hp.makeRoom folder
  obtain ⟨files, hmoved, hcontents, -⟩ := makeRoom_spec folder p
  -- Room that is made may cost the open log file its place, but then another file is named next.
  rcases hroom : makeRoom folder p with ⟨fault | _, q⟩
  · obtain ⟨files, rfl, hadds⟩ := makeRoom_error hroom
    rw [Act.bind_error hroom]
    exact .refused (not_isBlocked_of_error hroom) hadds
  · rw [hroom] at hkept hmoved
    obtain rfl : q = { p with files } := hmoved
    rw [Act.bind_ok hroom]
    cases hopened : files.openForWriting (fileAt folder now) with
    | error errno =>
      rw [startFile_error (p := { p with files }) hopened]
      exact .shut ⟨_, hroom, errno, hopened⟩ hcontents (destination?_of_failed hopened)
    | ok opened =>
      obtain ⟨handle, files'⟩ := opened
      have hclear : ¬ IsBlocked folder now p :=
        not_isBlocked_of_isOk (by rw [hroom]; exact congrArg Except.isOk hopened)
      rw [startFile_ok (p := { p with files }) hopened]
      exact .opened hclear (destination?_of_opened hkept.numbered hopened)

end Journal

/-! ## One step -/

namespace Platform

variable {p p' : Platform}

/-- If all is where it was, what was shown still is. -/
lemma ShowsDestination.moved (h : p.ShowsDestination)
    (hpath : p'.journal.path = p.journal.path) (hsame : p'.destination = p.destination)
    (hleads : ∀ shown : Path, shown.text = p.journal.path → ∀ d,
      p.files.destination? shown = some d → p'.files.destination? shown = some d) :
    p'.ShowsDestination := by
  constructor
  · rw [hpath, hsame]
    exact h.blank
  · rw [hpath, hsame]
    intro hsome
    obtain ⟨shown, htext, hd⟩ := h.file hsome
    exact ⟨shown, htext, hleads shown htext _ hd⟩

lemma showsDestination_of_closed (hpath : p.journal.path = "") (hclosed : p.journal.sink = none) :
    p.ShowsDestination := by
  refine ⟨iff_of_true hpath ?_, fun hsome => absurd hpath hsome⟩
  rw [destination, hclosed]
  rfl

lemma showsDestination_of_opened {handle : FileHandle} {file : Path} (hfile : file.text ≠ "")
    (hpath : p.journal.path = file.text) (hopen : p.journal.sink = some handle)
    (hleads : p.files.destination? file = some (p.files.destinationOf handle)) :
    p.ShowsDestination := by
  have hgoes : p.destination = p.files.destinationOf handle := by
    rw [destination, hopen]
    rfl
  constructor
  · rw [hpath, hgoes]
    exact iff_of_false hfile (destinationOf_ne _ _)
  · intro _
    rw [hpath, hgoes]
    exact ⟨file, rfl, hleads⟩

/-- A path that leads nowhere is shown in vain. -/
lemma not_showsDestination {file : Path} (hfile : file.text ≠ "")
    (hpath : p.journal.path = file.text) (hnowhere : p.files.destination? file = none) :
    ¬ p.ShowsDestination := by
  intro h
  obtain ⟨shown, htext, hd⟩ := h.file (by rw [hpath]; exact hfile)
  -- Only the text of a path counts for where it leads.
  have hsame : p.files.destination? shown = p.files.destination? file := by
    rw [FileSystem.destination?, FileSystem.destination?, stat, stat, find, find, htext, hpath]
  cases hnowhere.symm.trans (hsame.symm.trans hd)

lemma destination_of_bodies (hsink : p'.journal.sink = p.journal.sink)
    (hbodies : p'.files.bodies = p.files.bodies) : p'.destination = p.destination := by
  rw [destination, destination, hsink]
  cases p.journal.sink with
  | none => rfl
  | some handle => exact destinationOf_of_bodies hbodies handle

/-- Others that leave the open log file alone do not change where lines go. -/
lemma LogUntouched.destination {files : FileSystem} (h : p.LogUntouched files) :
    ({ p with files } : Platform).destination = p.destination := by
  rw [Platform.destination, Platform.destination]
  cases hsink : p.journal.sink with
  | none => rfl
  | some handle =>
    change files.destinationOf handle = p.files.destinationOf handle
    rw [destinationOf, destinationOf, h.held handle hsink]

lemma destination_writeLine (line : Text) (p : Platform) :
    (p.writeLine line).destination = p.destination ∧
      (p.writeLine line).journal.path = p.journal.path := by
  rw [destination, destination]
  cases hsink : p.journal.sink with
  | none =>
    simp only [writeLine, hsink, and_true, Option.elim_none]
  | some handle =>
    simp only [writeLine, hsink, and_true]
    exact destinationOf_writeThrough _ _ _

lemma destination_logWith (n : Nat) (level : Level) (message : Json) (extra : Tags)
    (p : Platform) : (p.logWith n level message extra).destination = p.destination ∧
      (p.logWith n level message extra).journal.path = p.journal.path := by
  unfold logWith
  split
  · exact destination_writeLine _ _
  · exact ⟨rfl, rfl⟩

end Platform

namespace Journal

variable {p : Platform}

/-- Whatever is done but open a log file, the path that is shown is where lines go. -/
lemma showsDestination_perform {use : LogUse} (hopens : use.opens = false) (folder : Path)
    (h : p.ShowsDestination) : (use.perform folder p).ShowsDestination := by
  cases use with
  | opening print level =>
    have hprint : print = true := by simpa [LogUse.opens] using hopens
    rw [LogUse.perform, hprint, openLog_print]
    exact h.moved rfl rfl fun _ _ _ => id
  | closing =>
    rw [LogUse.perform, closeLog]
    cases hsink : p.journal.sink with
    | none => exact h
    | some handle => exact Platform.showsDestination_of_closed rfl rfl
  | setting level => exact h.moved rfl rfl fun _ _ _ => id
  | logging table => exact h.moved rfl rfl fun _ _ _ => id
  | line n level message extra =>
    obtain ⟨hgoes, hpath⟩ := p.destination_logWith n level message extra
    have hsame := p.sameTree_logWith n level message extra
    refine h.moved hpath hgoes fun shown _ d hd => ?_
    exact (hsame.destination? shown).trans hd

section Opening

variable {file : Path} {blocked : Prop} (hfile : file.text ≠ "")

include hfile

/-- An opening that fails does not change where lines go. If its file is not blocked, it does not
change what is shown either; else it shows a path that leads nowhere. -/
lemma LogOpening.failed {fault : Fault} {q : Platform}
    (h : LogOpening file blocked p (.error fault, q)) :
    q.destination = p.destination ∧ (¬ blocked → q.journal.path = p.journal.path) ∧
      (blocked → q.journal.path = file.text ∧ ¬ q.ShowsDestination) := by
  cases h with
  | refused hclear hadds =>
    exact ⟨Platform.destination_of_bodies rfl hadds.contents.bodies, fun _ => rfl,
      fun hblocked => absurd hblocked hclear⟩
  | shut hblocked hcontents hnowhere =>
    exact ⟨Platform.destination_of_bodies rfl hcontents.bodies,
      fun hclear => absurd hblocked hclear,
      fun _ => ⟨rfl, Platform.not_showsDestination hfile rfl hnowhere⟩⟩

/-- After an opening the path that is shown is where lines go, unless the file was blocked. -/
lemma LogOpening.shows_iff {result : Except Fault Unit × Platform} (hp : p.ShowsDestination)
    (h : LogOpening file blocked p result) : result.2.ShowsDestination ↔ ¬ blocked := by
  cases h with
  | refused hclear hadds =>
    refine iff_of_true (hp.moved rfl ?_ fun _ _ _ hd => hadds.ways.destination? hd) hclear
    exact Platform.destination_of_bodies rfl hadds.contents.bodies
  | shut hblocked hcontents hnowhere =>
    exact iff_of_false (Platform.not_showsDestination hfile rfl hnowhere) (not_not.2 hblocked)
  | opened hclear hleads =>
    exact iff_of_true (Platform.showsDestination_of_opened hfile rfl rfl hleads) hclear

end Opening

end Journal

namespace LogStep

variable {p : Platform}

lemma writesAtEnd_perform (h : WritesAtEnd p) {step : LogStep} (hspares : step.SparesLog p) :
    WritesAtEnd (step.perform p) := by
  cases step with
  | use folder u => exact TimedUse.writesAtEnd_perform h _ u
  | others files =>
    have huntouched : p.LogUntouched files := hspares
    refine ⟨huntouched.numbered, fun handle hopen => ?_, fun handle hopen body hbody => ?_⟩
    · exact (h.sink handle hopen).trans_le huntouched.later
    · exact h.atEnd handle hopen body ((huntouched.held handle hopen).symm.trans hbody)

/-- **One step.** What is shown is where lines go, and stays so exactly if no log file is
blocked. -/
lemma shows_perform_iff (hp : WritesAtEnd p) (h : p.ShowsDestination) {step : LogStep}
    (hspares : step.SparesLog p) : (step.perform p).ShowsDestination ↔ ¬ step.Blocked p := by
  cases step with
  | others files =>
    refine iff_of_true ?_ id
    have huntouched : p.LogUntouched files := hspares
    cases hsink : p.journal.sink with
    | none =>
      -- Nothing is shown then, and no change of the file system matters.
      have hpath : p.journal.path = "" := h.blank.2 (by rw [Platform.destination, hsink]; rfl)
      exact Platform.showsDestination_of_closed hpath hsink
    | some handle =>
      refine h.moved rfl huntouched.destination fun shown htext d hd => ?_
      exact (huntouched.shown handle hsink shown htext).trans hd
  | use folder u =>
    cases hopens : u.use.opens with
    | false =>
      have hclocked : ({ p with clock := u.now } : Platform).ShowsDestination :=
        h.moved rfl rfl fun _ _ _ => id
      refine iff_of_true (showsDestination_perform hopens _ hclocked) ?_
      rintro ⟨hyes, -⟩
      exact absurd (hopens.symm.trans hyes) (by decide)
    | true =>
      have habout : (u.about p).ShowsDestination := h.moved rfl rfl fun _ _ _ => id
      have hopening :=
        logOpening (TimedUse.writesAtEnd_about hp u) (folder.getD p.logFolder) u.now
      rw [perform, TimedUse.perform_opening hopens,
        hopening.shows_iff (text_fileAt_ne _ _) habout, Blocked, hopens]
      simp only [true_and]

/-! ## Runs -/

/-- Open log files are written at their ends all along. -/
lemma writesAtEnd_after (h : WritesAtEnd p) {steps front : List LogStep}
    (hothers : Undisturbed steps p) (hfront : front <+: steps) : WritesAtEnd (after front p) := by
  induction front using List.reverseRecOn with
  | nil => exact h
  | append_singleton front step ih =>
    rw [after_concat]
    exact writesAtEnd_perform (ih ((List.prefix_append _ _).trans hfront))
      (hothers front step hfront)

/-- **Runs.** What is shown is where lines go at every moment exactly if no log file is blocked. -/
lemma shows_after_iff (hp : WritesAtEnd p) (h : p.ShowsDestination) {steps : List LogStep}
    (hothers : Undisturbed steps p) :
    (∀ front, front <+: steps → (after front p).ShowsDestination) ↔
      ∀ front step, front ++ [step] <+: steps → ¬ step.Blocked (after front p) := by
  have hstep : ∀ front step, front ++ [step] <+: steps → (after front p).ShowsDestination →
      ((after (front ++ [step]) p).ShowsDestination ↔ ¬ step.Blocked (after front p)) := by
    intro front step hprefix hshows
    rw [after_concat]
    exact shows_perform_iff (writesAtEnd_after hp hothers ((List.prefix_append _ _).trans hprefix))
      hshows (hothers front step hprefix)
  constructor
  · intro hshows front step hprefix
    exact (hstep front step hprefix (hshows front ((List.prefix_append _ _).trans hprefix))).1
      (hshows _ hprefix)
  · intro hclear front hprefix
    induction front using List.reverseRecOn with
    | nil => exact h
    | append_singleton front step ih =>
      exact (hstep front step hprefix (ih ((List.prefix_append _ _).trans hprefix))).2
        (hclear front step hprefix)

end LogStep

namespace Journal

variable {p : Platform}

/-- Without a folder the usual one is meant. -/
lemma openLog_folder (folder : Option Path) (p : Platform) :
    openLog false none folder p = openLog false none (some (folder.getD p.logFolder)) p := by
  have hopens : (!false) = true := rfl
  unfold openLog
  dsimp only
  rw [if_pos hopens, if_pos hopens, Act.get_bind, Act.get_bind, Option.getD_some]

lemma failsInPlace (hp : WritesAtEnd p) : p.FailsInPlace := by
  intro now print level folder fault q hfails
  cases print with
  | true =>
    rw [openLog_print] at hfails
    cases hfails
  | false =>
    rw [openLog_level, openLog_folder, openLog_eq] at hfails
    set u : TimedUse := ⟨now, .opening false level⟩ with hu
    have hopening : LogOpening (fileAt (folder.getD p.logFolder) now)
        (IsBlocked (folder.getD p.logFolder) now (u.about p)) (u.about p) (.error fault, q) := by
      rw [← hfails]
      exact logOpening (TimedUse.writesAtEnd_about hp u) _ _
    obtain ⟨hgoes, hclear, hblocked⟩ := hopening.failed (text_fileAt_ne _ _)
    refine ⟨hgoes, fun hnot => hclear fun hyes => hnot ⟨rfl, hyes⟩, fun hyes => hblocked hyes.2⟩

/-- What a line leaves of the file system. -/
lemma arrives_writeThrough {fs : FileSystem} {handle : FileHandle}
    (hend : ∀ body, fs.body? handle.inode = some body → handle.offset = body.bytes.length)
    (written : List UInt8) :
    Arrives written fs (fs.writeThrough handle written).2 (fs.destinationOf handle) := by
  rw [destinationOf]
  cases hbody : fs.body? handle.inode with
  | none =>
    unfold writeThrough
    rw [hbody]
    rfl
  | some body =>
    have hwritten := body?_writeThrough_atEnd hbody (hend body hbody) written handle.inode
    rw [if_pos rfl] at hwritten
    exact ⟨⟨body, _, hbody, hwritten, rfl⟩,
      fun other hother => body?_writeThrough hother fs written⟩

lemma sendsLines (hp : WritesAtEnd p) : p.SendsLines := by
  intro folder now n level message extra htakes line q
  have hq : q = ({ p with clock := now } : Platform).logWith n level message extra := rfl
  rw [hq, Platform.logWith, if_pos htakes, Platform.destination]
  cases hsink : p.journal.sink with
  | none =>
    simp only [Platform.writeLine, hsink]
    exact ⟨rfl, rfl⟩
  | some handle =>
    simp only [Platform.writeLine, hsink]
    exact ⟨rfl, arrives_writeThrough (hp.atEnd handle hsink) _⟩

/-- **The log file that is shown.** From a machine without an open log file on, whatever is done
with the log, in any folders, and whatever others do that leave the open log file alone: at every
moment the path is shown of the file that the next line goes to, and none if lines go to the
standard error stream. This fails exactly if at some step there is room for a log file, but it
cannot be opened. At every moment a line that is taken arrives where it is to go, and an opening
that fails does not change where this is; it changes what is shown only if it fails at opening the
file. -/
theorem destination_shown_iff (hnumbered : p.files.IsNumbered) (hclosed : p.journal.sink = none)
    (hblank : p.journal.path = "") (steps : List LogStep) (hothers : LogStep.Undisturbed steps p) :
    ((∀ front, front <+: steps → (LogStep.after front p).ShowsDestination) ↔
      ∀ front step, front ++ [step] <+: steps → ¬ step.Blocked (LogStep.after front p)) ∧
    ∀ front, front <+: steps →
      (LogStep.after front p).SendsLines ∧ (LogStep.after front p).FailsInPlace := by
  have hp : WritesAtEnd p := writesAtEnd_of_closed hnumbered hclosed
  refine ⟨?_, fun front hfront => ?_⟩
  · exact LogStep.shows_after_iff hp (Platform.showsDestination_of_closed hblank hclosed) hothers
  · have hreached := LogStep.writesAtEnd_after hp hothers hfront
    exact ⟨sendsLines hreached, failsInPlace hreached⟩

/-- A log file is opened, time passes, and another one is to go into a folder that is a file. -/
def steadySteps : List LogStep :=
  [.use (some ⟨.root, ["logs"]⟩) ⟨0, .opening false none⟩,
    .others { newlyOpened.files with now := 9 },
    .use (some ⟨.root, ["logs", "2024-01-01T000000.log"]⟩) ⟨1000000, .opening false none⟩]

lemma undisturbed_steadySteps : LogStep.Undisturbed steadySteps unlogged := by
  have hpassed : SameTree newlyOpened.files { newlyOpened.files with now := 9 } := ⟨rfl, rfl, rfl⟩
  have hnumbered : newlyOpened.files.IsNumbered :=
    (TimedUse.writesAtEnd_after (writesAtEnd_of_closed isNumbered_unlogged rfl) _ _).numbered
  rw [LogStep.Undisturbed, steadySteps, LogStep.forall_steps_cons, LogStep.forall_steps_cons,
    LogStep.forall_steps_cons]
  refine ⟨trivial, ?_, trivial, fun front step hprefix => ?_⟩
  · exact ⟨⟨hnumbered.files, hnumbered.bodies⟩, le_rfl, fun _ _ => rfl,
      fun _ _ shown _ => hpassed.destination? shown⟩
  · exact absurd (List.prefix_nil.1 hprefix) (by simp)

/-- The first log file is still shown when the second opening has failed. -/
theorem destination_shown_after_refusal :
    unlogged.files.IsNumbered ∧ unlogged.journal.sink = none ∧ unlogged.journal.path = "" ∧
      LogStep.Undisturbed steadySteps unlogged ∧
      (∀ front, front <+: steadySteps → (LogStep.after front unlogged).ShowsDestination) ∧
      (LogStep.after steadySteps unlogged).journal.path = "/logs/2024-01-01T000000.log" := by
  have hshown := (destination_shown_iff isNumbered_unlogged rfl rfl steadySteps
    undisturbed_steadySteps).1
  refine ⟨isNumbered_unlogged, rfl, rfl, undisturbed_steadySteps, hshown.2 ?_, rfl⟩
  have hopens : ((makeRoom ⟨.root, ["logs"]⟩ (TimedUse.about ⟨0, .opening false none⟩
      unlogged)).2.files.openForWriting (fileAt ⟨.root, ["logs"]⟩ 0)).isOk = true := by
    decide +kernel
  rw [steadySteps, LogStep.forall_steps_cons, LogStep.forall_steps_cons,
    LogStep.forall_steps_cons]
  refine ⟨fun hblocked => ?_, id, fun hblocked => ?_, fun front step hprefix => ?_⟩
  · exact not_isBlocked_of_isOk hopens hblocked.2
  · exact not_isBlocked_of_error rfl hblocked.2
  · exact absurd (List.prefix_nil.1 hprefix) (by simp)

/-- A folder has the name of the next log file. -/
def takenName : Platform :=
  { unlogged with
    files :=
      { unlogged.files with
        root := .folder 0 [("logs", .folder 0 [("2024-01-01T000000.log", .folder 0 [])])] } }

/-- A log file cannot be opened where a folder stands, but its path is shown, and closing the log
does not take it back. -/
theorem destination_not_shown_behind_folder :
    let opening := openLog false none (some ⟨.root, ["logs"]⟩) takenName
    opening.1.isOk = false ∧ takenName.journal.path = "" ∧
      takenName.destination = .errorStream ∧ opening.2.destination = .errorStream ∧
      opening.2.journal.path = "/logs/2024-01-01T000000.log" ∧
      (closeLog opening.2).journal.path = "/logs/2024-01-01T000000.log" :=
  ⟨rfl, rfl, rfl, rfl, rfl, rfl⟩

end Journal

end LanguageHost
