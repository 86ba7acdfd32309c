import Mathlib.Tactic.IntervalCases
import LanguageHost.Proofs.Grammar

/-!
# The reader of strings

The reader of schema texts takes a string exactly where the grammar has one, and gives the code
points that the grammar gives. Its bound on steps is never met: it has one step more than there are
characters, and each code point takes at least one character.
-/

namespace LanguageHost.Json.Strict

open Loose (hexValue? hexUnit? escaped?)
open Grammar

variable {s rest : List Char} {unit : CodePoint} {t : Text}

/-! ## Hexadecimal escapes -/

lemma toNat_lt_of_hexValue? {c : Char} {n : Nat} (h : hexValue? c = some n) : c.toNat < 103 := by
  simp only [hexValue?, Bool.and_eq_true, decide_eq_true_eq, Char.le_def,
    UInt32.le_iff_toNat_le] at h
  rw [Char.toNat]
  split at h
  · rename_i hdigit
    exact lt_of_le_of_lt hdigit.2 (by decide)
  · split at h
    · rename_i hlower
      exact lt_of_le_of_lt hlower.2 (by decide)
    · split at h
      · rename_i hupper
        exact lt_of_le_of_lt hupper.2 (by decide)
      · cases h

lemma hexDigit_of_hexValue? {c : Char} {n : Nat} (h : hexValue? c = some n) : HexDigit c n := by
  have hall : ∀ k < 103, ∀ n ∈ hexValue? (Char.ofNat k), HexDigit (Char.ofNat k) n := by
    unfold HexDigit
    decide
  simpa [h] using hall c.toNat (toNat_lt_of_hexValue? h) n

lemma HexDigit.lt {c : Char} {n : Nat} (h : HexDigit c n) : n < 16 := by
  obtain h | h := h <;> exact (List.getElem?_eq_some_iff.1 h).1

lemma hexValue?_of_hexDigit {c : Char} {n : Nat} (h : HexDigit c n) : hexValue? c = some n := by
  have hn : n < 16 := HexDigit.lt h
  interval_cases n <;> (obtain h | h := h) <;> (cases h; decide)

lemma hexUnit?_eq_some {a b c d : Char} :
    hexUnit? a b c d = some unit ↔ CodeUnit (a :: b :: c :: d :: rest) unit rest := by
  constructor
  · intro h
    simp only [hexUnit?, Option.bind_eq_bind, Option.bind_eq_some_iff] at h
    obtain ⟨i, hi, j, hj, k, hk, l, hl, h⟩ := h
    split at h
    · cases h
      exact .digits (hexDigit_of_hexValue? hi) (hexDigit_of_hexValue? hj)
        (hexDigit_of_hexValue? hk) (hexDigit_of_hexValue? hl) rfl
    · cases h
  · intro h
    cases h with
    | digits ha hb hc hd hunit =>
      simp only [hexUnit?, hexValue?_of_hexDigit ha, hexValue?_of_hexDigit hb,
        hexValue?_of_hexDigit hc, hexValue?_of_hexDigit hd, Option.bind_eq_bind,
        Option.bind_some, ← hunit, unit.isLt, dite_true]

lemma readUnit_sound {last : List Char} (h : readUnit s = .ok (unit, rest, last)) :
    CodeUnit s unit rest := by
  simp only [readUnit] at h
  split at h
  · cases h
  · split at h
    · split at h
      · rename_i hunit
        cases h
        exact hexUnit?_eq_some.1 hunit
      · cases h
    · cases h

/-- Four characters are at least four bytes. -/
lemma four_le_byteCount (a b c d : Char) : 4 ≤ byteCount [a, b, c, d] := by
  have ha := Char.utf8Size_pos a
  have hb := Char.utf8Size_pos b
  have hc := Char.utf8Size_pos c
  have hd := Char.utf8Size_pos d
  simp only [byteCount, List.foldl_cons, List.foldl_nil]
  omega

lemma readUnit_complete (h : CodeUnit s unit rest) :
    ∃ last, readUnit s = .ok (unit, rest, last) := by
  cases h with
  | @digits a b c d i j k l _ _ ha hb hc hd hunit =>
    have hunits : CodeUnit (a :: b :: c :: d :: rest) unit rest := .digits ha hb hc hd hunit
    have hvalue := hexUnit?_eq_some.2 hunits
    have hbytes := four_le_byteCount a b c d
    refine ⟨d :: rest, ?_⟩
    simp only [readUnit, List.take_succ_cons, List.take_zero, hvalue]
    rw [if_neg (by omega)]

/-! ## Surrogates -/

lemma val_ofPair {high low : CodePoint} (hhigh : high.isHighSurrogate = true)
    (hlow : low.isLowSurrogate = true) : (CodePoint.ofPair high low).val =
      0x10000 + (high.val - 0xD800) * 0x400 + (low.val - 0xDC00) := by
  simp only [CodePoint.isHighSurrogate, CodePoint.isLowSurrogate, Bool.and_eq_true,
    decide_eq_true_eq] at hhigh hlow
  simp only [CodePoint.ofPair]
  omega

lemma isSurrogate_eq_false (hlow : unit.isLowSurrogate = false)
    (hhigh : unit.isHighSurrogate = false) : unit.isSurrogate = false := by
  simp only [CodePoint.isHighSurrogate, CodePoint.isLowSurrogate, CodePoint.isSurrogate,
    Bool.and_eq_false_iff, decide_eq_false_iff_not] at hlow hhigh ⊢
  omega

lemma halves_eq_false (h : unit.isSurrogate = false) :
    unit.isLowSurrogate = false ∧ unit.isHighSurrogate = false := by
  simp only [CodePoint.isHighSurrogate, CodePoint.isLowSurrogate, CodePoint.isSurrogate,
    Bool.and_eq_false_iff, decide_eq_false_iff_not] at h ⊢
  omega

lemma isLowSurrogate_eq_false (h : unit.isHighSurrogate = true) :
    unit.isLowSurrogate = false := by
  simp only [CodePoint.isHighSurrogate, CodePoint.isLowSurrogate, Bool.and_eq_true,
    Bool.and_eq_false_iff, decide_eq_true_eq, decide_eq_false_iff_not] at h ⊢
  omega

lemma readLowHalf_sound (h : readLowHalf s = .ok (unit, rest)) :
    ∃ between, s = '\\' :: 'u' :: between ∧ CodeUnit between unit rest ∧
      unit.isLowSurrogate = true := by
  simp only [readLowHalf] at h
  split at h <;> try cases h
  rename_i between
  split at h
  · cases h
  · rename_i low more last hread
    split at h
    · rename_i hlow
      cases h
      exact ⟨between, rfl, readUnit_sound hread, hlow⟩
    · cases h

/-- What an escape of a code unit may be: one that is no surrogate, or a pair of them. -/
lemma readEscapedPoint_sound {c : CodePoint} (h : readEscapedPoint s = .ok (c, rest))
    {t : Text} {after : List Char} (hinside : Inside rest t after) :
    Inside ('\\' :: 'u' :: s) (c :: t) after := by
  simp only [readEscapedPoint] at h
  split at h
  · cases h
  · rename_i unit more last hread
    have hunit := readUnit_sound hread
    split at h
    · cases h
    · rename_i hnotLow
      split at h
      · rename_i hhigh
        split at h
        · cases h
        · rename_i low behind hlowRead
          simp only [Except.ok.injEq, Prod.mk.injEq] at h
          obtain ⟨rfl, rfl⟩ := h
          obtain ⟨between, rfl, hlowUnit, hlow⟩ := readLowHalf_sound hlowRead
          exact .pair hunit hhigh hlowUnit hlow (val_ofPair hhigh hlow) hinside
      · rename_i hnotHigh
        cases h
        exact .unit hunit
          (isSurrogate_eq_false (by simpa using hnotLow) (by simpa using hnotHigh)) hinside

lemma readEscapedPoint_unit (h : CodeUnit s unit rest) (hwhole : unit.isSurrogate = false) :
    readEscapedPoint s = .ok (unit, rest) := by
  obtain ⟨last, hread⟩ := readUnit_complete h
  obtain ⟨hlow, hhigh⟩ := halves_eq_false hwhole
  simp only [readEscapedPoint, hread, hlow, hhigh, Bool.false_eq_true, if_false]

lemma readEscapedPoint_pair {high low c : CodePoint} {between : List Char}
    (hhigh : CodeUnit s high ('\\' :: 'u' :: between)) (hfirst : high.isHighSurrogate = true)
    (hlow : CodeUnit between low rest) (hsecond : low.isLowSurrogate = true)
    (hc : c.val = 0x10000 + (high.val - 0xD800) * 0x400 + (low.val - 0xDC00)) :
    readEscapedPoint s = .ok (c, rest) := by
  obtain ⟨last, hread⟩ := readUnit_complete hhigh
  obtain ⟨lastLow, hreadLow⟩ := readUnit_complete hlow
  have hpair : CodePoint.ofPair high low = c := Fin.ext (by rw [val_ofPair hfirst hsecond, hc])
  rw [← hpair]
  simp only [readEscapedPoint, hread, isLowSurrogate_eq_false hfirst, hfirst, readLowHalf,
    hreadLow, hsecond, Bool.false_eq_true, if_false, if_true]

/-! ## Strings -/

lemma mem_escapes_of_escaped? {letter c : Char} (h : escaped? letter = some c) :
    (letter, c) ∈ escapes := by
  simp only [escaped?] at h
  split at h <;> cases h <;> decide

lemma escaped?_of_mem_escapes {letter c : Char} (h : (letter, c) ∈ escapes) :
    letter ≠ 'u' ∧ escaped? letter = some c := by
  have hall : ∀ entry ∈ escapes, entry.1 ≠ 'u' ∧ escaped? entry.1 = some entry.2 := by decide
  exact hall (letter, c) h

lemma readPoints_sound {fuel : Nat} {done : Text} (h : readPoints fuel done s = .ok (t, rest)) :
    ∃ ts, t = done.reverse ++ ts ∧ Inside s ts rest := by
  fun_induction readPoints fuel done s
  all_goals try cases h
  case case3 => exact ⟨[], by simp, .close _⟩
  case case6 c more hread ih =>
    obtain ⟨ts, hts, hinside⟩ := ih h
    exact ⟨c :: ts, by simp [hts], readEscapedPoint_sound hread hinside⟩
  case case7 hletter c hescaped ih =>
    obtain ⟨ts, hts, hinside⟩ := ih h
    exact ⟨.ofChar c :: ts, by simp [hts], .escape (mem_escapes_of_escaped? hescaped) hinside⟩
  case case10 c more hquote hend hunit hescape hcontrol ih =>
    obtain ⟨ts, hts, hinside⟩ := ih h
    have hslash : c ≠ '\\' := by
      intro hc
      cases more with
      | nil => exact hend hc rfl
      | cons letter more => exact hescape letter more hc rfl
    exact ⟨.ofChar c :: ts, by simp [hts], .raw (by omega) hquote hslash hinside⟩

lemma readPoints_complete (h : Inside s t rest) (fuel : Nat) (done : Text)
    (hfuel : s.length ≤ fuel) : readPoints fuel done s = .ok (done.reverse ++ t, rest) := by
  induction h generalizing fuel done with
  | close rest =>
    obtain ⟨fuel, rfl⟩ := Nat.exists_eq_add_one.2 (Nat.lt_of_lt_of_le (by simp) hfuel)
    simp [readPoints]
  | @raw c s rest t hc hquote hslash _ ih =>
    obtain ⟨fuel, rfl⟩ := Nat.exists_eq_add_one.2 (Nat.lt_of_lt_of_le (by simp) hfuel)
    rw [List.length_cons] at hfuel
    rw [readPoints, if_neg (by omega), ih fuel (.ofChar c :: done) (by omega)]
    · simp
    · exact hquote
    · exact fun hc _ => hslash hc
    · exact fun _ hc _ => hslash hc
    · exact fun _ _ hc _ => hslash hc
  | @escape letter c s rest t hc _ ih =>
    obtain ⟨fuel, rfl⟩ := Nat.exists_eq_add_one.2 (Nat.lt_of_lt_of_le (by simp) hfuel)
    simp only [List.length_cons] at hfuel
    obtain ⟨hletter, hescaped⟩ := escaped?_of_mem_escapes hc
    rw [readPoints.eq_def]
    simp only [hescaped]
    rw [ih fuel (.ofChar c :: done) (by omega)]
    simp
  | @unit unit s more rest t hunit hwhole _ ih =>
    obtain ⟨fuel, rfl⟩ := Nat.exists_eq_add_one.2 (Nat.lt_of_lt_of_le (by simp) hfuel)
    have hlength := hunit.length_lt
    simp only [List.length_cons] at hfuel
    simp only [readPoints, readEscapedPoint_unit hunit hwhole, ih fuel (unit :: done) (by omega)]
    simp
  | @pair high low c s between more rest t hhigh hfirst hlow hsecond hc _ ih =>
    obtain ⟨fuel, rfl⟩ := Nat.exists_eq_add_one.2 (Nat.lt_of_lt_of_le (by simp) hfuel)
    have hlengthHigh := hhigh.length_lt
    have hlengthLow := hlow.length_lt
    simp only [List.length_cons] at hfuel hlengthHigh
    simp only [readPoints, readEscapedPoint_pair hhigh hfirst hlow hsecond hc,
      ih fuel (c :: done) (by omega)]
    simp

/-- **The reader of strings is the grammar's.** From behind an opening quote, a string is read
exactly where one is written. -/
lemma readString_iff : readString s = .ok (t, rest) ↔ Inside s t rest := by
  constructor
  · intro h
    obtain ⟨ts, hts, hinside⟩ := readPoints_sound h
    rw [hts]
    exact hinside
  · intro h
    exact readPoints_complete h (s.length + 1) [] (by omega)

end LanguageHost.Json.Strict
