import Mathlib.Data.Nat.Basic
import Mathlib.Logic.Relation
import Mathlib.Order.Basic
import Mathlib.Tactic.Lemma
import LanguageHost.Json.Loose

/-!
# The way of the reader through a document

The reader of documents calls itself for what is inside a container, with a bound on the steps and
one on the depth. Its way is followed here without a bound on the steps: a `Place` knows the
containers around it and the rest of the document, and `Step` leads from place to place. From each
place there is at most one step.

The way ends behind the document's value, or at a place where the grammar is broken, or where the
reader is strained: an integer there has more digits than are converted, or a container opens
inside as many as are followed. `strains_iff_read` says that the reader gives up for one of these
two reasons exactly if its way through the document leads to such a place; so its bound on the
steps is never felt.
-/

namespace LanguageHost.Json.Loose

/-- A place in a document: what closes the containers around it, the innermost first, and the rest
of the document. -/
inductive Place where
  /-- A value is due. -/
  | value (closings s : List Char)
  /-- The name of a member is due, in an object inside the containers. -/
  | name (closings s : List Char)
  /-- A value ended. -/
  | behind (closings s : List Char)

namespace Place

/-- The rest of the document. -/
def rest : Place → List Char
  | value _ s | name _ s | behind _ s => s

/-- The next place on the way. -/
inductive Step : Place → Place → Prop
  | string {closings s rest : List Char} {t : Text} (h : readString ('"' :: s) = .ok (t, rest)) :
    Step (value closings ('"' :: s)) (behind closings rest)
  | atom {closings s rest : List Char} {x : Json} (h : readAtom s = .ok (x, rest)) :
    Step (value closings s) (behind closings rest)
  | noElement {closings s rest : List Char} (hdepth : closings.length < maxDepth)
    (h : skipSpace s = ']' :: rest) : Step (value closings ('[' :: s)) (behind closings rest)
  | element {closings s : List Char} (hdepth : closings.length < maxDepth)
    (h : ∀ rest, skipSpace s ≠ ']' :: rest) :
    Step (value closings ('[' :: s)) (value (']' :: closings) (skipSpace s))
  | noMember {closings s rest : List Char} (hdepth : closings.length < maxDepth)
    (h : skipSpace s = '\x7d' :: rest) :
    Step (value closings ('\x7b' :: s)) (behind closings rest)
  | member {closings s : List Char} (hdepth : closings.length < maxDepth)
    (h : ∀ rest, skipSpace s ≠ '\x7d' :: rest) :
    Step (value closings ('\x7b' :: s)) (name closings (skipSpace s))
  | named {closings s afterKey rest : List Char} {key : Text}
    (hkey : readString ('"' :: s) = .ok (key, afterKey)) (h : skipSpace afterKey = ':' :: rest) :
    Step (name closings ('"' :: s)) (value ('\x7d' :: closings) (skipSpace rest))
  | nextElement {closings s rest : List Char} (h : skipSpace s = ',' :: rest) :
    Step (behind (']' :: closings) s) (value (']' :: closings) (skipSpace rest))
  | nextMember {closings s rest : List Char} (h : skipSpace s = ',' :: rest) :
    Step (behind ('\x7d' :: closings) s) (name closings (skipSpace rest))
  | lastElement {closings s rest : List Char} (h : skipSpace s = ']' :: rest) :
    Step (behind (']' :: closings) s) (behind closings rest)
  | lastMember {closings s rest : List Char} (h : skipSpace s = '\x7d' :: rest) :
    Step (behind ('\x7d' :: closings) s) (behind closings rest)

/-- A value is due that the reader gives up on: an integer that is too long, or one container more
than it follows. -/
inductive Strained : Place → Prop
  | long {closings s : List Char} {digits : Nat} (h : readAtom s = .error (.longInteger digits)) :
    Strained (value closings s)
  | deep {closings s : List Char} {opening : Char} (hopening : opening = '[' ∨ opening = '\x7b')
    (h : maxDepth ≤ closings.length) : Strained (value closings (opening :: s))

/-- The way ends at a place, and the reader is not strained there. -/
structure Final (place : Place) : Prop where
  ends (next : Place) : ¬ Step place next
  calm : ¬ place.Strained

end Place

open Place Relation

/-- The way of the reader through a document leads to a place where it is strained. A document that
begins with a byte order mark is not entered. -/
def Strains (document : List Char) : Prop :=
  document.head? ≠ some '\ufeff' ∧
    ∃ place, ReflTransGen Step (value [] (skipSpace document)) place ∧ place.Strained

/-- The reader gives up although the grammar may be kept. -/
inductive Stop.GivesUp : Stop → Prop
  | longInteger (digits : Nat) : GivesUp (.longInteger digits)
  | tooDeep : GivesUp .tooDeep

/-! ## Strings, constants and numbers -/

section Tokens

variable {s rest start : List Char} {stop : Stop}

lemma length_skipSpace_le (s : List Char) : (skipSpace s).length ≤ s.length :=
  (List.dropWhile_suffix _).length_le

lemma length_behind {c : Char} (h : skipSpace s = c :: rest) : rest.length < s.length := by
  have hle := length_skipSpace_le s
  rw [h] at hle
  exact hle

lemma length_readUnits_le {done t : Text} (h : readUnits start done s = .ok (t, rest)) :
    rest.length ≤ s.length := by
  fun_induction readUnits start done s
  all_goals first
    | cases h
    | (rename_i ih; have := ih h; simp at this ⊢; omega)
  all_goals simp

lemma readUnits_error {done : Text} (h : readUnits start done s = .error stop) :
    ∃ fault place, stop = .malformed fault place := by
  fun_induction readUnits start done s
  all_goals first
    | (cases h; exact ⟨_, _, rfl⟩)
    | (rename_i ih; exact ih h)
    | cases h

lemma length_readString_le {t : Text} (h : readString s = .ok (t, rest)) :
    rest.length ≤ s.length := by
  rw [readString] at h
  cases hunits : readUnits s [] (s.drop 1) with
  | error stop =>
    rw [hunits] at h
    cases h
  | ok found =>
    rw [hunits] at h
    cases h
    exact (length_readUnits_le hunits).trans (List.drop_suffix 1 s).length_le

lemma readString_error (h : readString s = .error stop) :
    ∃ fault place, stop = .malformed fault place := by
  rw [readString] at h
  cases hunits : readUnits s [] (s.drop 1) with
  | error stop' =>
    rw [hunits] at h
    cases h
    exact readUnits_error hunits
  | ok found =>
    rw [hunits] at h
    cases h

lemma length_dropWord?_le {w : List Char} (h : dropWord? w s = some rest) :
    rest.length ≤ s.length := by
  fun_induction dropWord? w s with
  | case1 => cases h; exact le_rfl
  | case2 => cases h
  | case3 c ws s ih => exact (ih h).trans (Nat.le_succ _)
  | case4 => cases h

lemma length_spanDigits_le (s : List Char) : (spanDigits s).2.length ≤ s.length :=
  (List.dropWhile_suffix _).length_le

lemma length_readFraction_le (s : List Char) : (readFraction s).2.length ≤ s.length := by
  unfold readFraction
  split
  · rename_i rest
    dsimp only
    split
    · exact le_rfl
    · exact (length_spanDigits_le rest).trans (Nat.le_succ _)
  · exact le_rfl

lemma length_readSign_le (s : List Char) : (readSign s).2.length ≤ s.length := by
  unfold readSign
  split
  · exact Nat.le_succ _
  · exact Nat.le_succ _
  · exact le_rfl

lemma length_readExponent_le (s : List Char) : (readExponent s).2.length ≤ s.length := by
  unfold readExponent
  split
  · rename_i c rest
    split
    · dsimp only
      split
      · exact le_rfl
      · exact ((length_spanDigits_le _).trans (length_readSign_le rest)).trans (Nat.le_succ _)
    · exact le_rfl
  · exact le_rfl

/-- Behind an unsigned number stands no more than at its start. -/
lemma length_readUnsigned_le {negative : Bool} {x : Json}
    (h : readUnsigned start negative s = .ok (x, rest)) : rest.length ≤ s.length := by
  unfold readUnsigned at h
  split at h
  rename_i whole after hwhole
  have hafter : after.length ≤ s.length := by
    split at hwhole
    · cases hwhole
      exact Nat.le_succ _
    · have hspan := length_spanDigits_le s
      rw [hwhole] at hspan
      exact hspan
  split at h
  · cases h
  have hnumber := (length_readExponent_le _).trans ((length_readFraction_le after).trans hafter)
  dsimp only at h
  split at h
  · split at h
    · cases h
    · cases h
      exact hnumber
  · cases h
    exact hnumber

lemma length_readAtom_le {x : Json} (h : readAtom s = .ok (x, rest)) :
    rest.length ≤ s.length := by
  unfold readAtom at h
  dsimp only at h
  split at h
  all_goals first | (cases h; exact length_dropWord?_le ‹_›) | skip
  split at h
  · exact (length_readUnsigned_le h).trans (Nat.le_succ _)
  · exact length_readUnsigned_le h

lemma readUnsigned_error {negative : Bool} (h : readUnsigned start negative s = .error stop) :
    (∃ fault place, stop = .malformed fault place) ∨ ∃ digits, stop = .longInteger digits := by
  unfold readUnsigned at h
  split at h
  split at h
  · cases h
    exact .inl ⟨_, _, rfl⟩
  dsimp only at h
  split at h
  · split at h
    · cases h
      exact .inr ⟨_, rfl⟩
    · cases h
  · cases h

lemma readAtom_error (h : readAtom s = .error stop) :
    (∃ fault place, stop = .malformed fault place) ∨ ∃ digits, stop = .longInteger digits := by
  unfold readAtom at h
  dsimp only at h
  split at h
  all_goals first | cases h | skip
  split at h
  · exact readUnsigned_error h
  · exact readUnsigned_error h

/-- What opens a string or a container begins no constant and no number. -/
lemma readAtom_opening {c : Char} (hc : c = '"' ∨ c = '[' ∨ c = '\x7b') (s : List Char) :
    readAtom (c :: s) = .error (.malformed .expectingValue (c :: s)) := by
  rcases hc with rfl | rfl | rfl <;> rfl

end Tokens

/-! ## There is one way -/

namespace Place

variable {place next other : Place}

/-- The rest of the document does not grow on the way. -/
lemma Step.length_le (h : Step place next) : next.rest.length ≤ place.rest.length := by
  cases h with
  | string h => exact length_readString_le h
  | atom h => exact length_readAtom_le h
  | noElement _ h => exact (length_behind h).le.trans (Nat.le_succ _)
  | noMember _ h => exact (length_behind h).le.trans (Nat.le_succ _)
  | element => exact (length_skipSpace_le _).trans (Nat.le_succ _)
  | member => exact (length_skipSpace_le _).trans (Nat.le_succ _)
  | named hkey h =>
    exact (length_skipSpace_le _).trans ((length_behind h).le.trans (length_readString_le hkey))
  | nextElement h => exact (length_skipSpace_le _).trans (length_behind h).le
  | nextMember h => exact (length_skipSpace_le _).trans (length_behind h).le
  | lastElement h => exact (length_behind h).le
  | lastMember h => exact (length_behind h).le

lemma length_le_of_reaches (h : ReflTransGen Step place next) :
    next.rest.length ≤ place.rest.length := by
  induction h with
  | refl => exact le_rfl
  | tail _ hstep ih => exact hstep.length_le.trans ih

/-- From each place there is at most one step: two steps of one kind read the same rest, and what
opens a string or a container begins neither a constant nor a number. -/
theorem step_rightUnique : Relator.RightUnique Step := by
  intro place next other h h'
  cases h <;> cases h'
  all_goals simp_all [readAtom_opening]

/-- The reader gives up at a strained place. -/
lemma Strained.ends (h : Strained place) (next : Place) : ¬ Step place next := by
  intro hstep
  cases h with
  | long hlong => cases hstep <;> simp_all [readAtom_opening]
  | deep hopening hdeep => cases hstep <;> simp_all [readAtom_opening] <;> omega

/-- A way that ends where the reader is not strained leads to no place where it is. -/
lemma Final.not_strained {start last : Place} (hlast : last.Final)
    (h : ReflTransGen Step start last) (hplace : ReflTransGen Step start place) :
    ¬ place.Strained := by
  intro hstrained
  rcases ReflTransGen.total_of_right_unique step_rightUnique h hplace with hon | hon
  · rcases hon.cases_head with rfl | ⟨next, hstep, _⟩
    · exact hlast.calm hstrained
    · exact hlast.ends next hstep
  · rcases hon.cases_head with rfl | ⟨next, hstep, _⟩
    · exact hlast.calm hstrained
    · exact hstrained.ends next hstep

end Place

/-! ## The reader keeps to the way -/

/-- How the way from a place ends if the reader comes to a result there, for a value inside the
containers. -/
inductive Ends (start : Place) (closings : List Char) : Except Stop (Json × List Char) → Prop
  | read {x : Json} {rest : List Char} (h : ReflTransGen Step start (behind closings rest)) :
    Ends start closings (.ok (x, rest))
  | broken {fault : Fault} {rest : List Char} {last : Place} (h : ReflTransGen Step start last)
    (hlast : last.Final) : Ends start closings (.error (.malformed fault rest))
  | strained {stop : Stop} {last : Place} (h : ReflTransGen Step start last)
    (hlast : last.Strained) (hstop : stop.GivesUp) : Ends start closings (.error stop)

section Reader

variable {start next : Place} {closings inner s : List Char} {stop : Stop}
  {result : Except Stop (Json × List Char)}

lemma Ends.after (h : ReflTransGen Step start next) (hnext : Ends next closings result) :
    Ends start closings result := by
  cases hnext with
  | read hread => exact .read (h.trans hread)
  | broken hway hlast => exact .broken (h.trans hway) hlast
  | strained hway hlast hstop => exact .strained (h.trans hway) hlast hstop

/-- A value that is not read ends the containers around it. -/
lemma Ends.outwards (h : Ends start inner (.error stop)) : Ends start closings (.error stop) := by
  cases h with
  | broken hway hlast => exact .broken hway hlast
  | strained hway hlast hstop => exact .strained hway hlast hstop

lemma final_name (h : ∀ next, ¬ Step (name closings s) next) : Final (name closings s) where
  ends := h
  calm hstrained := by cases hstrained

lemma final_behind {closing : Char} (hcomma : ∀ rest, skipSpace s ≠ ',' :: rest)
    (hclosing : ∀ rest, skipSpace s ≠ closing :: rest) :
    Final (behind (closing :: closings) s) where
  ends next hstep := by
    cases hstep
    all_goals first
      | exact hcomma _ ‹_›
      | exact hclosing _ ‹_›
  calm hstrained := by cases hstrained

lemma final_outside : Final (behind [] s) where
  ends next hstep := by cases hstep
  calm hstrained := by cases hstrained

lemma ends_readString {t : Except Stop (Text × List Char)}
    (h : readString ('"' :: s) = t) : Ends (value closings ('"' :: s)) closings
      (do let (t, rest) ← t; return (Json.str t, rest)) := by
  cases t with
  | ok found => exact .read (.single (.string h))
  | error stop =>
    obtain ⟨fault, place, rfl⟩ := readString_error h
    refine .broken .refl ⟨fun next hstep => ?_, fun hstrained => ?_⟩
    · cases hstep <;> simp_all [readAtom_opening]
    · cases hstrained <;> simp_all [readAtom_opening]

lemma ends_readAtom (hstring : ∀ s', s ≠ '"' :: s') (harray : ∀ s', s ≠ '[' :: s')
    (hobject : ∀ s', s ≠ '\x7b' :: s') : Ends (value closings s) closings (readAtom s) := by
  cases hread : readAtom s with
  | ok found => exact .read (.single (.atom hread))
  | error stop =>
    rcases readAtom_error hread with ⟨fault, place, rfl⟩ | ⟨digits, rfl⟩
    · refine .broken .refl ⟨fun next hstep => ?_, fun hstrained => ?_⟩
      · cases hstep <;> simp_all
      · cases hstrained <;> simp_all
    · exact .strained .refl (.long hread) (.longInteger digits)

/-- Elements up to the end of their array, if the reader keeps to the way for values that are read
with fewer steps. -/
lemma ends_readElements {fuel depth : Nat} {done : List Json}
    (hvalue : ∀ fuel' < fuel, ∀ {s}, 2 * s.length + 1 ≤ fuel' →
      Ends (value (']' :: closings) s) (']' :: closings) (readValue fuel' depth s))
    (hfuel : 2 * s.length + 2 ≤ fuel) :
    Ends (value (']' :: closings) s) closings (readElements fuel depth done s) := by
  induction fuel generalizing done s with
  | zero => exact absurd hfuel (by omega)
  | succ fuel ih =>
    have helement := hvalue fuel (Nat.lt_succ_self fuel) (s := s) (by omega)
    rw [readElements]
    split
    · rename_i stop hread
      rw [hread] at helement
      exact helement.outwards
    rename_i x more hread
    rw [hread] at helement
    cases helement with
    | read hway =>
    have hlength : more.length ≤ s.length := length_le_of_reaches hway
    refine .after hway ?_
    split
    · rename_i hlast
      exact .read (.single (.lastElement hlast))
    · rename_i rest hnext
      have hskip := length_skipSpace_le rest
      have hrest := length_behind hnext
      exact .after (.single (.nextElement hnext))
        (ih (fun fuel' hlt => hvalue fuel' (Nat.lt_succ_of_lt hlt)) (by omega))
    · rename_i hclosing hcomma
      exact .broken .refl (final_behind hcomma hclosing)

/-- Members up to the end of their object. -/
lemma ends_readMembers {fuel depth : Nat} {done : List (Text × Json)}
    (hvalue : ∀ fuel' < fuel, ∀ {s}, 2 * s.length + 1 ≤ fuel' →
      Ends (value ('\x7d' :: closings) s) ('\x7d' :: closings) (readValue fuel' depth s))
    (hfuel : 2 * s.length + 2 ≤ fuel) :
    Ends (name closings s) closings (readMembers fuel depth done s) := by
  induction fuel generalizing done s with
  | zero => exact absurd hfuel (by omega)
  | succ fuel ih =>
    unfold readMembers
    split
    · rename_i s
      split
      · rename_i stop hkey
        obtain ⟨fault, place, rfl⟩ := readString_error hkey
        refine .broken .refl (final_name fun next hstep => ?_)
        cases hstep
        simp_all
      rename_i key afterKey hkey
      have hafterKey := length_readString_le hkey
      split
      · rename_i beforeValue hcolon
        have hbehindColon := length_behind hcolon
        have hskipValue := length_skipSpace_le beforeValue
        refine .after (.single (.named hkey hcolon)) ?_
        have hmember := hvalue fuel (Nat.lt_succ_self fuel) (s := skipSpace beforeValue) (by omega)
        split
        · rename_i stop hread
          rw [hread] at hmember
          exact hmember.outwards
        rename_i x more hread
        rw [hread] at hmember
        cases hmember with
        | read hway =>
        have hlength : more.length ≤ (skipSpace beforeValue).length := length_le_of_reaches hway
        refine .after hway ?_
        split
        · rename_i hlast
          exact .read (.single (.lastMember hlast))
        · rename_i rest hnext
          have hskip := length_skipSpace_le rest
          have hrest := length_behind hnext
          exact .after (.single (.nextMember hnext))
            (ih (fun fuel' hlt => hvalue fuel' (Nat.lt_succ_of_lt hlt)) (by omega))
        · rename_i hclosing hcomma
          exact .broken .refl (final_behind hcomma hclosing)
      · rename_i hcolon
        refine .broken .refl (final_name fun next hstep => ?_)
        cases hstep
        simp_all
    · rename_i hname
      refine .broken .refl (final_name fun next hstep => ?_)
      cases hstep
      exact hname _ rfl

/-- **The reader keeps to the way**, by induction on its bound of steps, which a value shares with
its elements and members: two steps for each character are enough. -/
theorem ends_readValue {fuel depth : Nat} (hdepth : closings.length + depth = maxDepth)
    (hfuel : 2 * s.length + 1 ≤ fuel) :
    Ends (value closings s) closings (readValue fuel depth s) := by
  induction fuel using Nat.strong_induction_on generalizing depth closings s with
  | _ fuel ih =>
    cases fuel with
    | zero => exact absurd hfuel (by omega)
    | succ fuel =>
      have hvalue : ∀ {depth closing}, (closing :: closings).length + depth = maxDepth →
          ∀ fuel' < fuel, ∀ {s}, 2 * s.length + 1 ≤ fuel' →
            Ends (value (closing :: closings) s) (closing :: closings)
              (readValue fuel' depth s) :=
        fun hdepth fuel' hlt s hfuel' => ih fuel' (Nat.lt_succ_of_lt hlt) hdepth hfuel'
      unfold readValue
      split
      · exact ends_readString rfl
      · rename_i s
        have hskip := length_skipSpace_le s
        rw [List.length_cons] at hfuel
        split
        · exact .strained .refl (.deep (.inl rfl) (by omega)) .tooDeep
        rename_i depth
        have hopen : closings.length < maxDepth := by omega
        split
        · rename_i hclosing
          exact .read (.single (.noElement hopen hclosing))
        · rename_i hinside
          exact .after (.single (.element hopen hinside))
            (ends_readElements (hvalue (by rw [List.length_cons]; omega)) (by omega))
      · rename_i s
        have hskip := length_skipSpace_le s
        rw [List.length_cons] at hfuel
        split
        · exact .strained .refl (.deep (.inr rfl) (by omega)) .tooDeep
        rename_i depth
        have hopen : closings.length < maxDepth := by omega
        split
        · rename_i hclosing
          exact .read (.single (.noMember hopen hclosing))
        · rename_i hinside
          exact .after (.single (.member hopen hinside))
            (ends_readMembers (hvalue (by rw [List.length_cons]; omega)) (by omega))
      · rename_i hstring harray hobject
        exact ends_readAtom hstring harray hobject

end Reader

lemma Stop.not_givesUp_malformed {fault : Fault} {rest : List Char} :
    ¬ (Stop.malformed fault rest).GivesUp := by
  intro h
  cases h

/-- **The reader gives up on a document exactly if its way leads to a strained place.** -/
theorem strains_iff_read (document : List Char) :
    Strains document ↔ ∃ stop, read document = .error stop ∧ stop.GivesUp := by
  by_cases hmark : document.head? = some '\ufeff'
  · refine iff_of_false (fun h => h.1 hmark) ?_
    rintro ⟨stop, hread, hstop⟩
    rw [read, if_pos hmark] at hread
    cases hread
    exact Stop.not_givesUp_malformed hstop
  have hskip := length_skipSpace_le document
  have hends : Ends (value [] (skipSpace document)) []
      (readValue (2 * document.length + 2) maxDepth (skipSpace document)) :=
    ends_readValue (Nat.zero_add _) (by omega)
  have hnone {last : Place} (hlast : last.Final)
      (hway : ReflTransGen Step (value [] (skipSpace document)) last) : ¬ Strains document :=
    fun ⟨_, _, hplace, hstrained⟩ => hlast.not_strained hway hplace hstrained
  rw [read, if_neg hmark]
  cases hread : readValue (2 * document.length + 2) maxDepth (skipSpace document) with
  | error stop =>
    rw [hread] at hends
    cases hends with
    | broken hway hlast =>
      refine iff_of_false (hnone hlast hway) ?_
      rintro ⟨stop, hresult, hstop⟩
      cases hresult
      exact Stop.not_givesUp_malformed hstop
    | strained hway hlast hstop =>
      exact iff_of_true ⟨hmark, _, hway, hlast⟩ ⟨stop, rfl, hstop⟩
  | ok found =>
    obtain ⟨x, rest⟩ := found
    rw [hread] at hends
    cases hends with
    | read hway =>
    refine iff_of_false (hnone final_outside hway) ?_
    rintro ⟨stop, hresult, hstop⟩
    dsimp only [bind, Except.bind, pure, Except.pure] at hresult
    split at hresult
    · cases hresult
    · cases hresult
      exact Stop.not_givesUp_malformed hstop

end LanguageHost.Json.Loose
