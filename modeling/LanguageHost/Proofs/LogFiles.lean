import LanguageHost.Proofs.LogUses

/-!
# Files of the log

The open log file is written at its end, so what a file holds only grows until the file is opened
anew. Opening a log file may make folders, which leaves all files as they are, and take away log
files. Of those that are taken away each one is outranked: nine others in the folder were changed no
earlier. Numbers of files are not given again, so a file that is gone does not come back.
-/

namespace LanguageHost

open FileSystem Journal

namespace FileSystem

variable {fs fs' fs'' : FileSystem} {p folder : Path} {inode : Nat}

/-- A file with this number stands somewhere in the tree. -/
def Has (fs : FileSystem) (inode : Nat) : Prop :=
  ∃ place, fs.root.at? place = some (.file inode)

lemma has_iff : fs.Has inode ↔ ∃ place, fs.root.look place = some (.file inode) := by
  refine exists_congr fun place => ?_
  rw [look_eq_some]
  constructor
  · exact fun hfile => ⟨_, hfile, rfl⟩
  · rintro ⟨n, hfile, hface⟩
    rwa [Node.eq_file_of_face hface] at hfile

/-- The numbers of files are not given again. -/
structure IsNumbered (fs : FileSystem) : Prop where
  files : ∀ inode, fs.Has inode → inode < fs.nextInode
  bodies : ∀ inode body, fs.body? inode = some body → inode < fs.nextInode

/-! ## Folders that are made -/

/-- Folders may be new, and all else is as it was. -/
structure OnlyAdds (fs fs' : FileSystem) : Prop where
  contents : SameContents fs fs'
  has : ∀ inode, fs'.Has inode ↔ fs.Has inode
  ways : Extends fs fs'

lemma OnlyAdds.refl (fs : FileSystem) : OnlyAdds fs fs :=
  ⟨.refl fs, fun _ => Iff.rfl, .refl fs⟩

lemma OnlyAdds.trans (h : OnlyAdds fs fs') (h' : OnlyAdds fs' fs'') : OnlyAdds fs fs'' :=
  ⟨h.contents.trans h'.contents, fun inode => (h'.has inode).trans (h.has inode),
    h.ways.trans h'.ways⟩

lemma Grown.look_eq {root root' : Node} {names : List String} {face : Face}
    (h : Grown root root' names face) {place : List String} {other : Face}
    (hlook : root.look place = some other) : root'.look place = some other := by
  rw [h.look, if_neg, hlook]
  rintro rfl
  cases h.free.symm.trans hlook

lemma onlyAdds_makeFolder (h : fs.makeFolder p = .ok fs') : OnlyAdds fs fs' := by
  unfold makeFolder at h
  split at h
  · cases h
  · cases h
  · rename_i names hfree
    cases h
    have hgrown : Grown fs.root (fs.putNode names (some (.folder fs.now []))).root names .folder :=
      grown_putNode hfree rfl (by rintro target ⟨⟩)
    refine ⟨.putNode fs names _, fun inode => ?_,
      (extends_putNode _ hfree rfl (by rintro target ⟨⟩)).1⟩
    rw [has_iff, has_iff]
    constructor
    · rintro ⟨place, hlook⟩
      rw [hgrown.look] at hlook
      split at hlook
      · cases hlook
      · exact ⟨place, hlook⟩
    · rintro ⟨place, hlook⟩
      exact ⟨place, hgrown.look_eq hlook⟩

lemma onlyAdds_ensureFolder {p : Path} (h : fs.ensureFolder p = .ok fs') : OnlyAdds fs fs' := by
  unfold ensureFolder at h
  split at h
  · rename_i made hmade
    cases h
    exact onlyAdds_makeFolder hmade
  · split at h
    · cases h
      exact .refl fs
    · cases h
    · cases h

lemma onlyAdds_ensureFoldersRev {start : Path.Start} {names : List String}
    (h : fs.ensureFoldersRev start names = .ok fs') : OnlyAdds fs fs' := by
  induction names generalizing fs fs' with
  | nil => exact onlyAdds_ensureFolder h
  | cons name above ih =>
    rw [ensureFoldersRev] at h
    split at h
    · split at h
      · cases h
      · rename_i between habove
        exact (ih habove).trans (onlyAdds_ensureFolder h)
    · exact onlyAdds_ensureFolder h

lemma onlyAdds_ensureFolders (h : fs.ensureFolders p = .ok fs') : OnlyAdds fs fs' :=
  onlyAdds_ensureFoldersRev h

lemma onlyAdds_foldersLeft (fs : FileSystem) (p : Path) : OnlyAdds fs (fs.foldersLeft p) := by
  rw [foldersLeft]
  induction p.names.reverse with
  | nil => exact .refl fs
  | cons name above ih =>
    rw [foldersLeftRev]
    split
    · split
      · exact ih
      · rename_i between habove
        exact onlyAdds_ensureFoldersRev habove
    · exact .refl fs

/-! ## Files that are removed -/

/-- Of a file that goes with others the name is among theirs. -/
lemma at?_thinned (folder : Path) (names : List String) {place : List String}
    (hfile : fs.root.at? place = some (.file inode)) :
    (thinned folder names fs).root.at? place = some (.file inode) ∨
      ∃ name ∈ names, fs.find true (folder.child name) = .ok (.node place (.file inode)) := by
  induction names generalizing fs with
  | nil => exact .inl hfile
  | cons name names ih =>
    rw [thinned_cons]
    cases hremoved : fs.removeFile (folder.child name) with
    | error errno =>
      rw [removeLog_error hremoved]
      refine (ih hfile).imp_right ?_
      rintro ⟨other, hother, hfind⟩
      exact ⟨other, List.mem_cons_of_mem _ hother, hfind⟩
    | ok fs' =>
      obtain ⟨l, n, hfind, hplain, rfl⟩ := removeFile_eq_ok hremoved
      rw [removeLog_ok hremoved]
      obtain ⟨hnameable, hgoes⟩ := find_eq_ok.1 hfind
      have hthere := at?_of_find hfind
      by_cases hplace : place = l
      · rw [← hplace, hfile] at hthere
        cases hthere
        rw [hplace]
        refine .inr ⟨name, List.mem_cons_self, find_eq_ok.2 ⟨hnameable, hgoes.last ?_⟩⟩
        rintro l target ⟨⟩
      · have hstays : (fs.putNode l none).root.look place = some (.file inode) := by
          rw [look_putNode_none hthere hplain, if_neg fun h => hplace h.1]
          exact look_of_at? hfile
        obtain ⟨n', hfile', hface⟩ := look_eq_some.1 hstays
        rw [Node.eq_file_of_face hface] at hfile'
        refine (ih hfile').imp_right ?_
        rintro ⟨other, hother, hfound⟩
        -- What is found after a removal was found before.
        have hways : KeepsWays (fs.putNode l none).root fs.root :=
          ⟨fun _ hlook => look_of_look_putNode_none hthere hplain hlook,
            fun _ _ hlook => look_of_look_putNode_none hthere hplain hlook⟩
        obtain ⟨old, hold, hsame⟩ := find_kept hways rfl hfound (look_of_at? hfile)
        rw [Node.eq_file_of_face hsame] at hold
        exact ⟨other, List.mem_cons_of_mem _ hother, hold⟩

/-- No file is there that was not there before. -/
lemma has_of_has_thinned (folder : Path) (names : List String)
    (h : (thinned folder names fs).Has inode) : fs.Has inode := by
  induction names generalizing fs with
  | nil => exact h
  | cons name names ih =>
    rw [thinned_cons] at h
    have hbefore := ih h
    cases hremoved : fs.removeFile (folder.child name) with
    | error errno => rwa [removeLog_error hremoved] at hbefore
    | ok fs' =>
      rw [removeLog_ok hremoved] at hbefore
      obtain ⟨l, n, hfind, hplain, rfl⟩ := removeFile_eq_ok hremoved
      obtain ⟨place, hlook⟩ := has_iff.1 hbefore
      exact has_iff.2 ⟨place, look_of_look_putNode_none (at?_of_find hfind) hplain hlook⟩

/-- Numbers are not given again while no file is new. -/
lemma IsNumbered.of_has (h : fs.IsNumbered) (hcontents : SameContents fs fs')
    (hhas : ∀ inode, fs'.Has inode → fs.Has inode) : fs'.IsNumbered := by
  constructor
  · intro inode hthere
    rw [hcontents.nextInode]
    exact h.files inode (hhas inode hthere)
  · intro inode body hbody
    rw [hcontents.body?] at hbody
    rw [hcontents.nextInode]
    exact h.bodies inode body hbody

/-! ## Files that are opened -/

/-- What comes of opening a path for writing. -/
inductive Opening (fs : FileSystem) (p : Path) : Except Errno (FileHandle × FileSystem) → Prop
  | failed {errno : Errno} (hfind : ∀ place, fs.find true p ≠ .ok (.missing place))
    (hfile : ∀ place inode, fs.find true p ≠ .ok (.node place (.file inode))) :
    Opening fs p (.error errno)
  | fresh {place : List String} (hfind : fs.find true p = .ok (.missing place)) :
    Opening fs p (.ok (⟨fs.nextInode, 0⟩, fs.addFile place ⟨[], defaultMode, fs.now⟩))
  | again {place : List String} {inode mode : Nat}
    (hfind : fs.find true p = .ok (.node place (.file inode))) :
    Opening fs p (.ok (⟨inode, 0⟩, emptied fs inode mode))
  | device (hfind : ∀ place, fs.find true p ≠ .ok (.missing place))
    (hfile : ∀ place inode, fs.find true p ≠ .ok (.node place (.file inode))) :
    Opening fs p (.ok (⟨fs.nextInode, 0⟩, { fs with nextInode := fs.nextInode + 1 }))

lemma opening_openForWriting (fs : FileSystem) (p : Path) : Opening fs p (fs.openForWriting p) := by
  unfold openForWriting
  cases hfind : fs.find true p with
  | error errno => exact .failed (by simp [hfind]) (by simp [hfind])
  | ok found =>
    cases found with
    | missing place => exact .fresh hfind
    | node place n =>
      cases n with
      | file inode => exact .again hfind
      | folder modified es => exact .failed (by simp [hfind]) (by simp [hfind])
      | link target => exact .device (by simp [hfind]) (by simp [hfind])
      | device => exact .device (by simp [hfind]) (by simp [hfind])

/-- A file that is added is there beside the others. -/
lemma has_addFile {place : List String} (hfind : fs.find true p = .ok (.missing place))
    (body : FileBody) :
    (fs.addFile place body).Has inode ↔ fs.Has inode ∨ inode = fs.nextInode := by
  have hgrown : Grown fs.root (fs.addFile place body).root place (.file fs.nextInode) := by
    rw [addFile]
    dsimp only
    rw [root_putBody]
    exact grown_putNode hfind rfl (by rintro target ⟨⟩)
  rw [has_iff, has_iff]
  constructor
  · rintro ⟨l, hlook⟩
    rw [hgrown.look] at hlook
    split at hlook
    · cases hlook
      exact .inr rfl
    · exact .inl ⟨l, hlook⟩
  · rintro (⟨l, hlook⟩ | rfl)
    · exact ⟨l, hgrown.look_eq hlook⟩
    · exact ⟨place, by rw [hgrown.look, if_pos rfl]⟩

lemma body?_addFile (place : List String) (body : FileBody) (other : Nat) :
    (fs.addFile place body).body? other =
      if other = fs.nextInode then some body else fs.body? other :=
  body?_putBody _ _ _ _

lemma SameTree.has (h : SameTree fs fs') (inode : Nat) : fs'.Has inode ↔ fs.Has inode := by
  rw [Has, Has, h.root]

/-- Lines are only added at the ends of files. -/
structure Lengthens (fs fs' : FileSystem) : Prop where
  tree : SameTree fs fs'
  bodies : ∀ {inode body}, fs.body? inode = some body →
    ∃ body', fs'.body? inode = some body' ∧ body.bytes <+: body'.bytes

lemma Lengthens.refl (fs : FileSystem) : Lengthens fs fs :=
  ⟨.refl fs, fun hbody => ⟨_, hbody, List.prefix_rfl⟩⟩

/-- What is written at the end of a file stands behind what it held. -/
lemma body?_writeThrough_atEnd {handle : FileHandle} {body : FileBody}
    (hbody : fs.body? handle.inode = some body) (hend : handle.offset = body.bytes.length)
    (written : List UInt8) (other : Nat) :
    (fs.writeThrough handle written).2.body? other =
      if other = handle.inode then some ⟨body.bytes ++ written, body.mode, fs.now⟩
      else fs.body? other := by
  have hbytes : overwrite body.bytes handle.offset written = body.bytes ++ written := by
    rw [overwrite, hend]
    simp
  unfold writeThrough
  rw [hbody]
  dsimp only
  rw [hbytes]
  exact body?_putBody _ _ _ _

lemma lengthens_writeThrough {handle : FileHandle}
    (hend : ∀ body, fs.body? handle.inode = some body → handle.offset = body.bytes.length)
    (written : List UInt8) : Lengthens fs (fs.writeThrough handle written).2 := by
  refine ⟨sameTree_writeThrough fs handle written, fun {inode old} hold => ?_⟩
  by_cases hother : inode = handle.inode
  · rw [hother] at hold ⊢
    rw [body?_writeThrough_atEnd hold (hend _ hold), if_pos rfl]
    exact ⟨_, rfl, List.prefix_append _ _⟩
  · rw [body?_writeThrough hother]
    exact ⟨old, hold, List.prefix_rfl⟩

end FileSystem

/-! ## Open log files -/

namespace Journal

/-- An open log file is written at its end. -/
structure WritesAtEnd (p : Platform) : Prop where
  numbered : p.files.IsNumbered
  sink : ∀ handle, p.journal.sink = some handle → handle.inode < p.files.nextInode
  atEnd : ∀ handle, p.journal.sink = some handle →
    ∀ body, p.files.body? handle.inode = some body → handle.offset = body.bytes.length

variable {p : Platform} {folder : Path}

namespace WritesAtEnd

/-- This depends on the files and on the one that is open. -/
lemma of_same {p' : Platform} (h : WritesAtEnd p) (hfiles : p'.files = p.files)
    (hsink : ∀ handle, p'.journal.sink = some handle → p.journal.sink = some handle) :
    WritesAtEnd p' := by
  constructor
  · rw [hfiles]
    exact h.numbered
  · intro handle hopen
    rw [hfiles]
    exact h.sink handle (hsink handle hopen)
  · intro handle hopen
    rw [hfiles]
    exact h.atEnd handle (hsink handle hopen)

lemma writeLine (h : WritesAtEnd p) (line : Text) :
    Lengthens p.files (p.writeLine line).files ∧ WritesAtEnd (p.writeLine line) := by
  cases hsink : p.journal.sink with
  | none =>
    simp only [Platform.writeLine, hsink]
    exact ⟨.refl _, h.of_same rfl (by simp [hsink])⟩
  | some handle =>
    set written := Utf8.encode line ++ [0x0A] with hwritten
    have hnext : (p.files.writeThrough handle written).1 =
        { handle with offset := handle.offset + written.length } := by
      unfold writeThrough
      cases p.files.body? handle.inode <;> rfl
    have hnumber : (p.files.writeThrough handle written).2.nextInode = p.files.nextInode := by
      unfold writeThrough
      cases p.files.body? handle.inode with
      | some body => exact nextInode_putBody _ _ _
      | none => rfl
    have hlengthens := lengthens_writeThrough (h.atEnd handle hsink) written
    simp only [Platform.writeLine, hsink, ← hwritten]
    refine ⟨hlengthens, ⟨?_, ?_⟩, ?_, ?_⟩
    · intro inode hthere
      rw [hnumber]
      exact h.numbered.files inode ((hlengthens.tree.has inode).1 hthere)
    · intro inode body hbody
      rw [hnumber]
      by_cases hother : inode = handle.inode
      · rw [hother]
        exact h.sink handle hsink
      · rw [body?_writeThrough hother] at hbody
        exact h.numbered.bodies inode body hbody
    · rintro _ ⟨⟩
      rw [hnext, hnumber]
      exact h.sink handle hsink
    · rintro _ ⟨⟩ body hbody
      rw [hnext] at hbody ⊢
      cases hold : p.files.body? handle.inode with
      | none =>
        unfold writeThrough at hbody
        rw [hold] at hbody
        cases hold.symm.trans hbody
      | some old =>
        have hend := h.atEnd handle hsink old hold
        have hlength : (old.bytes ++ written).length = old.bytes.length + written.length :=
          List.length_append
        rw [body?_writeThrough_atEnd hold hend, if_pos rfl] at hbody
        cases hbody
        rw [hlength, hend]

lemma logWith (h : WritesAtEnd p) (n : Nat) (level : Level) (message : Json) (extra : Tags) :
    Lengthens p.files (p.logWith n level message extra).files ∧
      WritesAtEnd (p.logWith n level message extra) := by
  unfold Platform.logWith
  split
  · have htable : WritesAtEnd { p with journal := { p.journal with
        table := p.journal.table.set n { p.journal.table.get n with last := p.clock } } } :=
      h.of_same rfl fun _ => id
    exact htable.writeLine _
  · exact ⟨.refl _, h⟩

/-- Whatever is done but open a log file only lengthens files. -/
lemma perform (h : WritesAtEnd p) {use : LogUse} (hopens : use.opens = false) (folder : Path) :
    Lengthens p.files (use.perform folder p).files ∧ WritesAtEnd (use.perform folder p) := by
  cases use with
  | opening print level =>
    have hprint : print = true := by simpa [LogUse.opens] using hopens
    rw [LogUse.perform, hprint, openLog_print]
    exact ⟨.refl _, h.of_same rfl fun _ => id⟩
  | closing =>
    rw [LogUse.perform, closeLog]
    cases hsink : p.journal.sink with
    | none => exact ⟨.refl _, h⟩
    | some handle => exact ⟨.refl _, h.of_same rfl (by simp)⟩
  | setting level => exact ⟨.refl _, h.of_same rfl fun _ => id⟩
  | logging table => exact ⟨.refl _, h.of_same rfl fun _ => id⟩
  | line n level message extra => exact h.logWith n level message extra

/-- Behind what is opened as a file nothing is kept. -/
lemma empties {fs fs' : FileSystem} {path : Path} {handle : FileHandle} (hfs : fs.IsNumbered)
    (h : Opening fs path (.ok (handle, fs'))) :
    fs'.IsNumbered ∧ handle.inode < fs'.nextInode ∧ handle.offset = 0 ∧
      ∀ body, fs'.body? handle.inode = some body → body.bytes = [] := by
  cases h with
  | @fresh place hfind =>
    have hnext : (fs.addFile place ⟨[], defaultMode, fs.now⟩).nextInode = fs.nextInode + 1 := rfl
    refine ⟨⟨fun inode hthere => ?_, fun inode body hbody => ?_⟩, ?_, rfl, fun body hbody => ?_⟩
    · rw [hnext]
      rcases (has_addFile hfind _).1 hthere with hold | hnew
      · exact Nat.lt_succ_of_lt (hfs.files inode hold)
      · omega
    · rw [body?_addFile] at hbody
      rw [hnext]
      split at hbody
      · omega
      · exact Nat.lt_succ_of_lt (hfs.bodies inode body hbody)
    · rw [hnext]
      exact Nat.lt_succ_self _
    · rw [body?_addFile, if_pos rfl] at hbody
      cases hbody
      rfl
  | @again place inode mode hfind =>
    have hnumber : inode < fs.nextInode := hfs.files inode ⟨place, at?_of_find hfind⟩
    rw [nextInode_emptied]
    refine ⟨⟨fun other hthere => ?_, fun other body hbody => ?_⟩, hnumber, rfl,
      fun body hbody => ?_⟩
    · rw [nextInode_emptied]
      exact hfs.files other (((sameTree_emptied fs inode mode).has other).1 hthere)
    · rw [body?_emptied] at hbody
      rw [nextInode_emptied]
      split at hbody
      · omega
      · exact hfs.bodies other body hbody
    · rw [body?_emptied, if_pos rfl] at hbody
      cases hbody
      rfl
  | device hfind hfile =>
    have hfree : fs.body? fs.nextInode = none := by
      by_contra hsome
      obtain ⟨body, hbody⟩ := Option.ne_none_iff_exists'.1 hsome
      exact absurd (hfs.bodies _ _ hbody) (lt_irrefl _)
    refine ⟨⟨fun inode hthere => ?_, fun inode body hbody => ?_⟩, Nat.lt_succ_self _, rfl,
      fun body hbody => ?_⟩
    · exact Nat.lt_succ_of_lt (hfs.files inode hthere)
    · exact Nat.lt_succ_of_lt (hfs.bodies inode body hbody)
    · cases hfree.symm.trans hbody

/-- A log file that is opened is empty. -/
lemma startFile (h : WritesAtEnd p) (folder : Path) (now : Instant) :
    WritesAtEnd (startFile folder now p).2 := by
  have hopening := opening_openForWriting p.files (fileAt folder now)
  cases hopened : p.files.openForWriting (fileAt folder now) with
  | error errno =>
    rw [startFile_error hopened]
    exact h.of_same rfl fun _ => id
  | ok opened =>
    obtain ⟨handle, files⟩ := opened
    rw [startFile_ok hopened]
    rw [hopened] at hopening
    obtain ⟨hnumbered, hnumber, hstart, hempty⟩ := empties h.numbered hopening
    refine ⟨hnumbered, ?_, ?_⟩
    · rintro _ ⟨⟩
      exact hnumber
    · rintro _ ⟨⟩ body hbody
      rw [hstart, hempty body hbody]
      rfl

end WritesAtEnd

/-! ## Room for a log file -/

/-- Nine log files of a folder were changed no earlier than another one, which is in it too. -/
def Outranked (fs : FileSystem) (folder : Path) (inode : Nat) : Prop :=
  ∃ es, fs.list folder = .ok es ∧ ∃ newer others : List (String × Int),
    ((newer ++ others).map Prod.fst).Perm ((es.map Prod.fst).filter isLogName) ∧
    (∀ k ∈ newer ++ others, fs.modifiedAt (folder.child k.1) = .ok k.2) ∧
    newer.length = keptFiles - 1 ∧
    ∃ k ∈ others, (∃ place, fs.find true (folder.child k.1) = .ok (.node place (.file inode))) ∧
      ∀ other ∈ newer, k.2 ≤ other.2

/-- What is thinned out is outranked. -/
lemma outranked_of_thinned {found : List (String × Int)} {inode : Nat}
    (hfound : logFiles p folder = .ok found) (hthere : p.files.Has inode)
    (hgone : ¬ (thinned folder (surplus found) p.files).Has inode) :
    Outranked p.files folder inode := by
  obtain ⟨kept, rest, hperm, hsurplus, hold, hfew, hnine⟩ := surplus_cases found
  obtain ⟨place, hfile⟩ := hthere
  rcases at?_thinned folder (surplus found) hfile with hstays | ⟨name, hname, hfind⟩
  · exact absurd ⟨place, hstays⟩ hgone
  · rw [hsurplus] at hname
    obtain ⟨k, hk, rfl⟩ := List.mem_map.1 hname
    have hmany : keptFiles ≤ found.length := by
      by_contra hless
      rw [hfew (by omega)] at hk
      cases hk
    cases hlist : p.files.list folder with
    | error errno =>
      rw [logFiles_unlisted hfound hlist] at hmany
      exact absurd hmany (by decide)
    | ok es =>
      obtain ⟨hnames, htimes⟩ := logFiles_listed hfound hlist
      refine ⟨es, hlist, kept, rest, ?_, fun k hk => ?_, hnine hmany, k, hk, ⟨place, hfind⟩,
        fun other hother => hold other hother k hk⟩
      · rw [← hnames]
        exact hperm.map Prod.fst
      · exact htimes hmany k (hperm.mem_iff.1 hk)

/-- Room is made for a log file. What is no longer there was outranked. -/
lemma makeRoom_spec (folder : Path) (p : Platform) :
    ∃ files, (makeRoom folder p).2 = { p with files } ∧ SameContents p.files files ∧
      (∀ inode, files.Has inode → p.files.Has inode) ∧
      ∀ inode, p.files.Has inode → ¬ files.Has inode → (makeRoom folder p).1 = .ok () ∧
        ∃ made, p.files.ensureFolders folder = .ok made ∧ Outranked made folder inode := by
  obtain ⟨fault, hroom⟩ | ⟨fault, -, hroom⟩ | ⟨-, made, hmade, hrest⟩ := makeRoom_cases folder p
  · rw [hroom]
    exact ⟨p.files, rfl, .refl _, fun _ => id, fun inode hthere hgone => absurd hthere hgone⟩
  · have hadds := onlyAdds_foldersLeft p.files folder
    rw [hroom]
    exact ⟨_, rfl, hadds.contents, fun inode => (hadds.has inode).1,
      fun inode hthere hgone => absurd ((hadds.has inode).2 hthere) hgone⟩
  · have hadds := onlyAdds_ensureFolders hmade
    obtain ⟨fault, hroom⟩ | ⟨found, hfound, hroom⟩ := hrest
    · rw [hroom]
      exact ⟨made, rfl, hadds.contents, fun inode => (hadds.has inode).1,
        fun inode hthere hgone => absurd ((hadds.has inode).2 hthere) hgone⟩
    · rw [hroom]
      refine ⟨thinned folder (surplus found) made, rfl, hadds.contents.trans (.thinned _ _ _),
        fun inode hthere => (hadds.has inode).1 (has_of_has_thinned _ _ hthere),
        fun inode hthere hgone => ⟨rfl, made, hmade, ?_⟩⟩
      exact outranked_of_thinned hfound ((hadds.has inode).2 hthere) hgone

lemma WritesAtEnd.makeRoom (h : WritesAtEnd p) (folder : Path) :
    WritesAtEnd (makeRoom folder p).2 := by
  obtain ⟨files, hroom, hcontents, hhas, -⟩ := makeRoom_spec folder p
  rw [hroom]
  refine ⟨h.numbered.of_has hcontents hhas, ?_, ?_⟩
  · intro handle hopen
    dsimp only
    rw [hcontents.nextInode]
    exact h.sink handle hopen
  · intro handle hopen body hbody
    dsimp only at hbody
    rw [hcontents.body?] at hbody
    exact h.atEnd handle hopen body hbody

end Journal

namespace TimedUse

variable {u : TimedUse} {p : Platform}

/-- The machine when something is about to be done: the clock is set, and the level if one is given
with an opening. -/
def about (u : TimedUse) (p : Platform) : Platform :=
  withLevel u.use.level? { p with clock := u.now }

lemma perform_opening (hopens : u.use.opens = true) (folder : Path) (p : Platform) :
    u.perform folder p =
      ((do makeRoom folder; startFile folder u.now : Task Unit) (u.about p)).2 := by
  obtain ⟨now, use⟩ := u
  cases use with
  | opening print level =>
    have hprint : print = false := by simpa [LogUse.opens] using hopens
    rw [hprint, TimedUse.perform, LogUse.perform, openLog_level, openLog_eq]
    rfl
  | _ => cases hopens

lemma writesAtEnd_about (h : WritesAtEnd p) (u : TimedUse) : WritesAtEnd (u.about p) :=
  h.of_same rfl fun _ => id

/-- Open log files are written at their ends. -/
lemma writesAtEnd_perform (h : WritesAtEnd p) (folder : Path) (u : TimedUse) :
    WritesAtEnd (u.perform folder p) := by
  cases hopens : u.use.opens with
  | false =>
    have hclock : WritesAtEnd { p with clock := u.now } := h.of_same rfl fun _ => id
    exact (hclock.perform hopens folder).2
  | true =>
    have hroom := (writesAtEnd_about h u).makeRoom folder
    rw [perform_opening hopens]
    generalize makeRoom folder = room at hroom ⊢
    rcases hresult : room (u.about p) with ⟨_ | _, q⟩
    · rw [Act.bind_error hresult]
      rwa [hresult] at hroom
    · rw [Act.bind_ok hresult]
      rw [hresult] at hroom
      exact hroom.startFile folder u.now

lemma writesAtEnd_after (h : WritesAtEnd p) (folder : Path) (uses : List TimedUse) :
    WritesAtEnd (after folder uses p) := by
  induction uses generalizing p with
  | nil => exact h
  | cons u rest ih => exact ih (writesAtEnd_perform h folder u)

end TimedUse

end LanguageHost
