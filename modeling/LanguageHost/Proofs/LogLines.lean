import LanguageHost.Proofs.LogFiles

/-!
# Lines in log files

A line that goes to a log file is written behind what the file holds, and there it stays until the
file is opened anew, which empties it, or is thinned out. It is opened anew if a log file is opened
once more within the same second. A file that is thinned out makes room for a new one, beside nine
that were changed no earlier, unless the new one is there already or cannot be opened.
-/

namespace LanguageHost

open FileSystem Journal

/-! ## Lines -/

/-- The number of a log file, and what it holds up to the end of a line. -/
structure LogEntry where
  inode : Nat
  bytes : List UInt8

namespace LogEntry

/-- A line is in its file, with all that was before it. -/
structure Stands (e : LogEntry) (p : Platform) : Prop where
  there : p.files.Has e.inode
  held : ∃ body, p.files.body? e.inode = some body ∧ e.bytes <+: body.bytes

variable {e : LogEntry} {p : Platform} {folder : Path} {u : TimedUse}

lemma Stands.lengthened {p' : Platform} (h : e.Stands p)
    (hlengthens : Lengthens p.files p'.files) : e.Stands p' := by
  obtain ⟨body, hbody, hheld⟩ := h.held
  obtain ⟨body', hbody', hlonger⟩ := hlengthens.bodies hbody
  exact ⟨(hlengthens.tree.has _).2 h.there, body', hbody', hheld.trans hlonger⟩

lemma Stands.moved {p' : Platform} (h : e.Stands p) (hcontents : SameContents p.files p'.files)
    (hthere : p'.files.Has e.inode) : e.Stands p' := by
  obtain ⟨body, hbody, hheld⟩ := h.held
  exact ⟨hthere, body, by rw [hcontents.body?, hbody], hheld⟩

/-- Opening a log file spares a line exactly if it is not the line's file that is opened. -/
lemma stands_startFile (hp : WritesAtEnd p) (he : e.Stands p) (hbytes : e.bytes ≠ [])
    (folder : Path) (now : Instant) :
    e.Stands (startFile folder now p).2 ↔
      ∀ place, p.files.find true (fileAt folder now) ≠ .ok (.node place (.file e.inode)) := by
  obtain ⟨body, hbody, hheld⟩ := he.held
  have hnumber := hp.numbered.files e.inode he.there
  have hopening := opening_openForWriting p.files (fileAt folder now)
  cases hopened : p.files.openForWriting (fileAt folder now) with
  | error errno =>
    rw [startFile_error hopened]
    rw [hopened] at hopening
    cases hopening with
    | failed hfind hfile =>
      exact iff_of_true ⟨he.there, body, hbody, hheld⟩ fun place => hfile place e.inode
  | ok opened =>
    obtain ⟨handle, files⟩ := opened
    rw [startFile_ok hopened]
    rw [hopened] at hopening
    cases hopening with
    | fresh hfind =>
      refine iff_of_true ⟨(has_addFile hfind _).2 (.inl he.there), body, ?_, hheld⟩ ?_
      · dsimp only
        rw [body?_addFile, if_neg hnumber.ne, hbody]
      · intro place hfile
        cases hfind.symm.trans hfile
    | @again place inode mode hfind =>
      by_cases hsame : e.inode = inode
      · refine iff_of_false (fun hstands => ?_) fun hother => ?_
        · obtain ⟨body', hbody', hheld'⟩ := hstands.held
          dsimp only at hbody'
          rw [body?_emptied, if_pos hsame] at hbody'
          cases hbody'
          exact hbytes (List.prefix_nil.1 hheld')
        · exact hother place (by rw [hsame, hfind])
      · refine iff_of_true ⟨?_, body, ?_, hheld⟩ fun place' hfile => ?_
        · exact ((sameTree_emptied _ _ _).has _).2 he.there
        · dsimp only
          rw [body?_emptied, if_neg hsame, hbody]
        · cases hfind.symm.trans hfile
          exact hsame rfl
    | device hfind hfile =>
      exact iff_of_true ⟨he.there, body, hbody, hheld⟩ fun place => hfile place e.inode

/-- No file is there again. -/
lemma has_of_has_startFile {inode : Nat} {now : Instant}
    (h : (startFile folder now p).2.files.Has inode) (hnumber : inode < p.files.nextInode) :
    p.files.Has inode := by
  have hopening := opening_openForWriting p.files (fileAt folder now)
  cases hopened : p.files.openForWriting (fileAt folder now) with
  | error errno =>
    rwa [startFile_error hopened] at h
  | ok opened =>
    obtain ⟨handle, files⟩ := opened
    rw [startFile_ok hopened] at h
    rw [hopened] at hopening
    cases hopening with
    | fresh hfind =>
      rcases (has_addFile hfind _).1 h with hold | hnew
      · exact hold
      · exact absurd hnew hnumber.ne
    | again hfind => exact ((sameTree_emptied _ _ _).has _).1 h
    | device hfind hfile => exact h

/-- An opening takes the file of a line away in favour of ten others: nine in the folder were
changed no earlier, and one is made. -/
structure Displaced (folder : Path) (e : LogEntry) (u : TimedUse) (p : Platform) : Prop where
  opens : u.use.opens = true
  there : p.files.Has e.inode
  gone : ¬ (makeRoom folder (u.about p)).2.files.Has e.inode
  outranked : ∃ made, p.files.ensureFolders folder = .ok made ∧ Outranked made folder e.inode
  fresh : ∃ place,
    (makeRoom folder (u.about p)).2.files.find true (fileAt folder u.now) = .ok (.missing place) ∧
    (u.perform folder p).files.find true (fileAt folder u.now) =
      .ok (.node place (.file p.files.nextInode))

/-- An opening takes a line away for no other file. -/
inductive Spoiled (folder : Path) (e : LogEntry) (u : TimedUse) (p : Platform) : Prop
  /-- The line's file is opened anew. -/
  | again {place : List String} (hopens : u.use.opens = true)
    (hroom : (makeRoom folder (u.about p)).1 = .ok ())
    (hfind : (makeRoom folder (u.about p)).2.files.find true (fileAt folder u.now) =
      .ok (.node place (.file e.inode)))
  /-- The line's file is thinned out, but none is made. -/
  | lost (hopens : u.use.opens = true) (hroom : (makeRoom folder (u.about p)).1 = .ok ())
    (hthere : p.files.Has e.inode) (hgone : ¬ (makeRoom folder (u.about p)).2.files.Has e.inode)
    (hfind : ∀ place, (makeRoom folder (u.about p)).2.files.find true (fileAt folder u.now) ≠
      .ok (.missing place))

section Room

variable {q : Platform} (hopens : u.use.opens = true)
  (hroom : makeRoom folder (u.about p) = (.ok (), q))

include hopens hroom

lemma perform_of_room : u.perform folder p = (startFile folder u.now q).2 := by
  rw [TimedUse.perform_opening hopens, Act.bind_ok hroom]

/-- If the line's file is still there, it must not be the one that is opened. -/
lemma step_of_there (hq : WritesAtEnd q) (he : e.Stands q) (hbytes : e.bytes ≠ []) :
    (Displaced folder e u p ∨ e.Stands (u.perform folder p)) ↔ ¬ Spoiled folder e u p := by
  rw [perform_of_room hopens hroom, stands_startFile hq he hbytes]
  constructor
  · intro h hspoiled
    cases hspoiled with
    | again _ _ hfind =>
      rw [hroom] at hfind
      rcases h with hdisplaced | hother
      · have hgone := hdisplaced.gone
        rw [hroom] at hgone
        exact hgone he.there
      · exact hother _ hfind
    | lost _ _ _ hgone _ =>
      rw [hroom] at hgone
      exact hgone he.there
  · intro hspared
    refine .inr fun place hfind => hspared ?_
    exact .again hopens (by rw [hroom]) (by rw [hroom]; exact hfind)

/-- If the line's file is not there any more, a new one must be made. -/
lemma step_of_gone (hthere : p.files.Has e.inode)
    (hnumber : q.files.nextInode = p.files.nextInode) (hless : e.inode < p.files.nextInode)
    (houtranked : ∃ made, p.files.ensureFolders folder = .ok made ∧ Outranked made folder e.inode)
    (hgone : ¬ q.files.Has e.inode) :
    (Displaced folder e u p ∨ e.Stands (u.perform folder p)) ↔ ¬ Spoiled folder e u p := by
  have hfalls : ¬ e.Stands (u.perform folder p) := by
    intro hstands
    have hback := hstands.there
    rw [perform_of_room hopens hroom] at hback
    exact hgone (has_of_has_startFile hback (by omega))
  constructor
  · intro h hspoiled
    have hdisplaced := h.resolve_right hfalls
    obtain ⟨place, hfresh, -⟩ := hdisplaced.fresh
    rw [hroom] at hfresh
    cases hspoiled with
    | again _ _ hfind =>
      rw [hroom] at hfind
      exact hgone ⟨_, at?_of_find hfind⟩
    | lost _ _ _ _ hfind =>
      rw [hroom] at hfind
      exact hfind place hfresh
  · intro hspared
    by_cases hfresh : ∃ place, q.files.find true (fileAt folder u.now) = .ok (.missing place)
    · obtain ⟨place, hfind⟩ := hfresh
      have hopened : q.files.openForWriting (fileAt folder u.now) =
          .ok (⟨q.files.nextInode, 0⟩, q.files.addFile place ⟨[], defaultMode, q.files.now⟩) := by
        rw [openForWriting, hfind]
      refine .inl ⟨hopens, hthere, ?_, houtranked, place, ?_, ?_⟩
      · rw [hroom]
        exact hgone
      · rw [hroom]
        exact hfind
      · rw [perform_of_room hopens hroom, startFile_ok hopened, ← hnumber]
        exact (extends_addFile hfind _).2
    · refine absurd (.lost hopens ?_ hthere ?_ ?_) hspared
      · rw [hroom]
      · rw [hroom]
        exact hgone
      · rw [hroom]
        exact fun place hfind => hfresh ⟨place, hfind⟩

end Room

/-- **One step.** A line stays, or its file is displaced, exactly if it is not spoiled. -/
lemma step_iff (hp : WritesAtEnd p) (he : e.Stands p) (hbytes : e.bytes ≠ []) (folder : Path)
    (u : TimedUse) :
    (Displaced folder e u p ∨ e.Stands (u.perform folder p)) ↔ ¬ Spoiled folder e u p := by
  cases hopens : u.use.opens with
  | false =>
    have hclock : WritesAtEnd { p with clock := u.now } := hp.of_same rfl fun _ => id
    have hclocked : e.Stands { p with clock := u.now } := ⟨he.there, he.held⟩
    refine iff_of_true (.inr (hclocked.lengthened (hclock.perform hopens folder).1)) ?_
    rintro (⟨hyes, -, -⟩ | ⟨hyes, -, -, -, -⟩) <;> exact absurd (hopens.symm.trans hyes) (by decide)
  | true =>
    have hperform := TimedUse.perform_opening hopens folder p
    have hroom := (TimedUse.writesAtEnd_about hp u).makeRoom folder
    have habout : e.Stands (u.about p) := ⟨he.there, he.held⟩
    obtain ⟨files, hq, hcontents, hhas, hgone⟩ := makeRoom_spec folder (u.about p)
    rcases hresult : makeRoom folder (u.about p) with ⟨fault | _, q⟩
    · rw [hresult] at hq hgone
      rw [Act.bind_error hresult] at hperform
      obtain rfl : q = { u.about p with files } := hq
      have hthere : files.Has e.inode := by
        by_contra hno
        cases (hgone e.inode he.there hno).1
      rw [hperform]
      refine iff_of_true (.inr (habout.moved hcontents hthere)) ?_
      rintro (⟨-, hok, -⟩ | ⟨-, hok, -, -, -⟩) <;> exact absurd (hresult ▸ hok) (by rintro ⟨⟩)
    · rw [hresult] at hq hgone hroom
      obtain rfl : q = { u.about p with files } := hq
      by_cases hthere : files.Has e.inode
      · exact step_of_there hopens hresult hroom (habout.moved hcontents hthere) hbytes
      · obtain ⟨-, houtranked⟩ := hgone e.inode he.there hthere
        exact step_of_gone hopens hresult he.there hcontents.nextInode
          (hp.numbered.files _ he.there) houtranked hthere

/-! ## Runs -/

/-- The line's file was displaced by one of these uses. -/
def WasDisplaced (folder : Path) (e : LogEntry) (uses : List TimedUse) (p : Platform) : Prop :=
  ∃ front u, front ++ [u] <+: uses ∧ Displaced folder e u (TimedUse.after folder front p)

/-- At every moment the line is in its file, or the file was displaced before. -/
def Lasts (folder : Path) (e : LogEntry) (uses : List TimedUse) (p : Platform) : Prop :=
  ∀ front, front <+: uses →
    e.Stands (TimedUse.after folder front p) ∨ e.WasDisplaced folder front p

/-- The line is not spoiled before its file is displaced. -/
def IsSpared (folder : Path) (e : LogEntry) (uses : List TimedUse) (p : Platform) : Prop :=
  ∀ front u, front ++ [u] <+: uses → ¬ e.WasDisplaced folder front p →
    ¬ Spoiled folder e u (TimedUse.after folder front p)

lemma not_wasDisplaced_nil : ¬ e.WasDisplaced folder [] p := by
  rintro ⟨front, u, hprefix, -⟩
  exact absurd (List.prefix_nil.1 hprefix) (by simp)

lemma wasDisplaced_concat {front : List TimedUse} :
    e.WasDisplaced folder (front ++ [u]) p ↔
      e.WasDisplaced folder front p ∨ Displaced folder e u (TimedUse.after folder front p) := by
  constructor
  · rintro ⟨before, v, hprefix, hdisplaced⟩
    rcases List.prefix_concat_iff.1 hprefix with hsame | hbefore
    · obtain ⟨rfl, hlast⟩ := List.append_inj' hsame rfl
      obtain rfl : v = u := by simpa using hlast
      exact .inr hdisplaced
    · exact .inl ⟨before, v, hbefore, hdisplaced⟩
  · rintro (⟨before, v, hprefix, hdisplaced⟩ | hdisplaced)
    · exact ⟨before, v, hprefix.trans (List.prefix_append _ _), hdisplaced⟩
    · exact ⟨front, u, List.prefix_rfl, hdisplaced⟩

/-- **Runs.** A line lasts exactly if its file is there and it is spared. -/
lemma lasts_iff (hp : WritesAtEnd p)
    (hheld : ∃ body, p.files.body? e.inode = some body ∧ e.bytes <+: body.bytes)
    (hbytes : e.bytes ≠ []) (folder : Path) (uses : List TimedUse) :
    e.Lasts folder uses p ↔ p.files.Has e.inode ∧ e.IsSpared folder uses p := by
  have hstep : ∀ front u, e.Stands (TimedUse.after folder front p) →
      ((Displaced folder e u (TimedUse.after folder front p) ∨
        e.Stands (TimedUse.after folder (front ++ [u]) p)) ↔
          ¬ Spoiled folder e u (TimedUse.after folder front p)) := by
    intro front u hstands
    rw [TimedUse.after_concat]
    exact step_iff (TimedUse.writesAtEnd_after hp folder front) hstands hbytes folder u
  constructor
  · intro hlasts
    refine ⟨?_, fun front u hprefix hkept => ?_⟩
    · exact ((hlasts [] (List.nil_prefix)).resolve_right not_wasDisplaced_nil).there
    · have hbefore := hlasts front ((List.prefix_append _ _).trans hprefix)
      have hstands := hbefore.resolve_right hkept
      refine (hstep front u hstands).1 ?_
      rcases hlasts (front ++ [u]) hprefix with hafter | hdisplaced
      · exact .inr hafter
      · exact .inl ((wasDisplaced_concat.1 hdisplaced).resolve_left hkept)
  · rintro ⟨hthere, hspared⟩ front hprefix
    induction front using List.reverseRecOn with
    | nil => exact .inl ⟨hthere, hheld⟩
    | append_singleton front u ih =>
      rw [wasDisplaced_concat]
      by_cases hkept : e.WasDisplaced folder front p
      · exact .inr (.inl hkept)
      · have hstands := (ih ((List.prefix_append _ _).trans hprefix)).resolve_right hkept
        rcases (hstep front u hstands).2 (hspared front u hprefix hkept) with hdisplaced | hafter
        · exact .inr (.inr hdisplaced)
        · exact .inl hafter

end LogEntry

namespace Journal

variable {p : Platform} {folder : Path}

lemma writesAtEnd_of_closed (hnumbered : p.files.IsNumbered) (hclosed : p.journal.sink = none) :
    WritesAtEnd p := by
  refine ⟨hnumbered, fun handle hopen => ?_, fun handle hopen => ?_⟩
  · cases hclosed.symm.trans hopen
  · cases hclosed.symm.trans hopen

/-- A line that is taken goes to the end of the open log file. -/
lemma WritesAtEnd.body?_logWith (h : WritesAtEnd p) {n : Nat} {level : Level} (message : Json)
    (extra : Tags) {handle : FileHandle} {body : FileBody}
    (htakes : p.journal.takes level = true) (hsink : p.journal.sink = some handle)
    (hbody : p.files.body? handle.inode = some body) :
    ∃ written, (p.logWith n level message extra).files.body? handle.inode = some written ∧
      written.bytes = body.bytes ++
        (Utf8.encode ((p.journal.table.get n).line p.clock level message extra) ++ [0x0A]) := by
  have hend := h.atEnd handle hsink body hbody
  unfold Platform.logWith
  rw [if_pos htakes]
  simp only [Platform.writeLine, hsink]
  rw [body?_writeThrough_atEnd hbody hend, if_pos rfl]
  exact ⟨_, rfl, rfl⟩

/-- **Lines in log files.** From a machine without an open log file on, whatever is done with the
log before, a line that goes to a log file is written behind what the file holds. Whatever is done
afterwards, all this stays in the file until the file is displaced, that is, thinned out in favour
of nine log files that were changed no earlier and of a new one. This fails exactly if the file was
gone when the line was written, or if an opening opens the same file anew, or thins it out and makes
no new one. -/
theorem line_lasts_iff (hnumbered : p.files.IsNumbered) (hclosed : p.journal.sink = none)
    (earlier later : List TimedUse) (now : Instant) (n : Nat) (level : Level) (message : Json)
    (extra : Tags) {handle : FileHandle} {body : FileBody} :
    let before := TimedUse.after folder earlier p
    before.journal.takes level = true → before.journal.sink = some handle →
      before.files.body? handle.inode = some body →
        let line := (before.journal.table.get n).line now level message extra
        let after := TimedUse.perform folder before ⟨now, .line n level message extra⟩
        let e : LogEntry := ⟨handle.inode, body.bytes ++ (Utf8.encode line ++ [0x0A])⟩
        (∃ written, after.files.body? e.inode = some written ∧ written.bytes = e.bytes) ∧
        (e.Lasts folder later after ↔ after.files.Has e.inode ∧ e.IsSpared folder later after) := by
  intro before htakes hsink hbody line after e
  have hbefore : WritesAtEnd before :=
    TimedUse.writesAtEnd_after (writesAtEnd_of_closed hnumbered hclosed) folder earlier
  have hclock : WritesAtEnd { before with clock := now } := hbefore.of_same rfl fun _ => id
  have hafter : WritesAtEnd after := TimedUse.writesAtEnd_perform hbefore folder _
  obtain ⟨written, hwritten, hbytes⟩ :
      ∃ written, after.files.body? e.inode = some written ∧ written.bytes = e.bytes :=
    hclock.body?_logWith message extra htakes hsink hbody
  have hheld : e.bytes <+: written.bytes := ⟨[], by rw [List.append_nil, hbytes]⟩
  have hsome : e.bytes ≠ [] := by simp [e]
  exact ⟨⟨written, hwritten, hbytes⟩,
    LogEntry.lasts_iff hafter ⟨written, hwritten, hheld⟩ hsome folder later⟩

/-- There are no files, and nothing is logged so far. -/
def unlogged : Platform :=
  { (default : Platform) with
    files :=
      { root := .folder 0 []
        bodies := []
        nextInode := 0
        now := 0
        denied := []
        cwd := ⟨.root, []⟩ }
    journal := Journal.initial 0 }

/-- A log file is opened at the start of the year. -/
def newlyOpened : Platform :=
  TimedUse.after ⟨.root, ["logs"]⟩ [⟨0, .opening false none⟩] unlogged

/-- A line is written at once. -/
def oneLine : Platform :=
  TimedUse.perform ⟨.root, ["logs"]⟩ newlyOpened ⟨0, .line 0 .info (.str (Text.ofString "one")) []⟩

/-- What the log file holds then. -/
def oneEntry : LogEntry :=
  ⟨0, [] ++ (Utf8.encode ((newlyOpened.journal.table.get 0).line 0 .info
    (.str (Text.ofString "one")) []) ++ [0x0A])⟩

lemma isNumbered_unlogged : unlogged.files.IsNumbered := by
  refine ⟨fun inode hthere => ?_, fun inode body hbody => ?_⟩
  · obtain ⟨place, hfile⟩ := hthere
    cases place with
    | nil => cases hfile
    | cons name rest => cases hfile
  · cases hbody

/-- The line lasts when another log file is opened a second later. -/
theorem line_lasts_beyond_second :
    unlogged.files.IsNumbered ∧ unlogged.journal.sink = none ∧
      newlyOpened.journal.takes .info = true ∧ newlyOpened.journal.sink = some ⟨0, 0⟩ ∧
      newlyOpened.files.body? 0 = some ⟨[], defaultMode, 1⟩ ∧
      oneEntry.Lasts ⟨.root, ["logs"]⟩ [⟨1000000, .opening false none⟩] oneLine := by
  have htakes : newlyOpened.journal.takes .info = true := by decide
  have hsink : newlyOpened.journal.sink = some ⟨0, 0⟩ := rfl
  have hbody : newlyOpened.files.body? 0 = some ⟨[], defaultMode, 1⟩ := rfl
  obtain ⟨-, hlasts⟩ := line_lasts_iff isNumbered_unlogged rfl [⟨0, .opening false none⟩]
    [⟨1000000, .opening false none⟩] 0 0 .info (.str (Text.ofString "one")) [] htakes hsink hbody
  have hiff : oneEntry.Lasts ⟨.root, ["logs"]⟩ [⟨1000000, .opening false none⟩] oneLine ↔
      oneLine.files.Has 0 ∧
        oneEntry.IsSpared ⟨.root, ["logs"]⟩ [⟨1000000, .opening false none⟩] oneLine := hlasts
  set room := makeRoom ⟨.root, ["logs"]⟩
    (TimedUse.about ⟨1000000, .opening false none⟩ oneLine)
  have hstays : room.2.files.Has 0 := ⟨["logs", "2024-01-01T000000.log"], rfl⟩
  have hslot : room.2.files.slot? (fileAt ⟨.root, ["logs"]⟩ 1000000) = some 1 := by decide +kernel
  refine ⟨isNumbered_unlogged, rfl, htakes, hsink, hbody, hiff.2 ⟨?_, ?_⟩⟩
  · exact ⟨["logs", "2024-01-01T000000.log"], rfl⟩
  · intro front u hprefix _ hspoiled
    obtain ⟨rfl, rfl⟩ : front = [] ∧ u = ⟨1000000, .opening false none⟩ := by
      cases front with
      | nil => simpa using hprefix
      | cons v rest => simp [List.cons_prefix_cons] at hprefix
    cases hspoiled with
    | again _ _ hfind =>
      have hsame := slot?_eq_some.2 (.inr ⟨_, hfind⟩)
      cases hslot.symm.trans hsame
    | lost _ _ _ hgone _ => exact hgone hstays

/-- A second opening within the second empties the file, though it is the only one. -/
theorem line_lost_within_second :
    newlyOpened.journal.takes .info = true ∧ newlyOpened.journal.sink = some ⟨0, 0⟩ ∧
      oneLine.files.body? 0 = some ⟨Utf8.encode (Text.ofString
        "INFO  2024-01-01T00:00:00 +0ms service=node one\n"), defaultMode, 2⟩ ∧
      (TimedUse.perform ⟨.root, ["logs"]⟩ oneLine ⟨0, .opening false none⟩).files.root.at?
        ["logs", "2024-01-01T000000.log"] = some (.file 0) ∧
      (TimedUse.perform ⟨.root, ["logs"]⟩ oneLine ⟨0, .opening false none⟩).files.body? 0 =
        some ⟨[], defaultMode, 3⟩ :=
  ⟨by decide, rfl, by decide +kernel, rfl, rfl⟩

end Journal

end LanguageHost
