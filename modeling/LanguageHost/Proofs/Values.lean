import Mathlib.Data.List.TakeWhile
import LanguageHost.Proofs.Strings

/-!
# The reader of values

The containers of the reader of schema texts, against the grammar. Whatever it reads as an array or
an object is written as one, of the things that it reads one by one; and an array or an object
whose parts are read is read. The two bounds of the reader are told apart: the steps are always
enough for the characters that are there, and the depth is what each container takes one from.
-/

namespace LanguageHost.Json.Strict

open Loose (isSpace skipSpace)
open Grammar

variable {s rest : List Char} {fuel depth : Nat} {x : Json}

/-! ## Gaps -/

lemma isSpace_iff {c : Char} : isSpace c = true ↔ c = ' ' ∨ c = '\t' ∨ c = '\n' ∨ c = '\r' := by
  simp [isSpace, or_assoc]

lemma gap_skipSpace (s : List Char) : Gap s (skipSpace s) := by
  refine ⟨s.takeWhile isSpace, fun c hc => isSpace_iff.1 ?_, List.takeWhile_append_dropWhile.symm⟩
  exact List.mem_takeWhile_imp hc

lemma gap_of_skipSpace (h : skipSpace s = rest) : Gap s rest :=
  h ▸ gap_skipSpace s

/-- Whoever skips a gap stands where it ends. -/
lemma skipSpace_gap {start : List Char} (h : Gap s start) : skipSpace s = skipSpace start := by
  obtain ⟨blanks, hblanks, rfl⟩ := h
  exact List.dropWhile_append_of_pos fun c hc => isSpace_iff.2 (hblanks c hc)

lemma skipSpace_cons {c : Char} (h : Gap s (c :: rest)) (hc : isSpace c = false) :
    skipSpace s = c :: rest := by
  rw [skipSpace_gap h, skipSpace, List.dropWhile_cons_of_neg (by simp [hc])]

/-! ## Constants and numbers -/

/-- A value that is neither a string nor a container. -/
def isAtom : Json → Bool
  | .str _ | .arr _ | .obj _ => false
  | _ => true

lemma isAtom_readConstant {word : String} {y : Json} (hy : isAtom y = true)
    (h : readConstant word y s = .ok (x, rest)) : isAtom x = true := by
  rw [readConstant] at h
  split at h <;> cases h
  exact hy

lemma isAtom_readUnsigned {negative : Bool} (h : readUnsigned negative s = .ok (x, rest)) :
    isAtom x = true := by
  simp only [readUnsigned] at h
  repeat' split at h
  all_goals cases h
  all_goals rfl

lemma isAtom_readAtom (h : readAtom s = .ok (x, rest)) : isAtom x = true := by
  rw [readAtom.eq_def] at h
  repeat' split at h
  all_goals first
    | cases h
    | exact isAtom_readConstant rfl h
    | exact isAtom_readUnsigned h

/-! ## What is read is written -/

/-- Some bound on the steps is enough to read a value. -/
def Yields (depth : Nat) (s : List Char) (x : Json) (rest : List Char) : Prop :=
  ∃ fuel, readValue fuel depth s = .ok (x, rest)

lemma readElements_sound {done : List Json} (h : readElements fuel depth done s = .ok (x, rest)) :
    ∃ xs, x = .arr (done.reverse ++ xs) ∧
      Items (Yields depth) ']' s xs rest := by
  induction fuel generalizing done s with
  | zero => cases h
  | succ fuel ih =>
    rw [readElements] at h
    split at h
    · cases h
    · rename_i y after hread
      split at h
      · cases h
      · rename_i more hspace
        cases h
        exact ⟨[y], by simp, .last (.refl s) ⟨fuel, hread⟩ (gap_of_skipSpace hspace)⟩
      · rename_i more hspace
        split at h
        · cases h
        · obtain ⟨xs, rfl, hitems⟩ := ih h
          exact ⟨y :: xs, by simp, .comma (.refl s) ⟨fuel, hread⟩ (gap_of_skipSpace hspace)
            (hitems.gap (gap_skipSpace more))⟩
      · cases h

lemma readMembers_sound {done : List (Text × Json)}
    (h : readMembers fuel depth done s = .ok (x, rest)) :
    ∃ ms, x = .obj (done.reverse ++ ms) ∧
      Items (Member (Yields depth)) '\x7d' ('"' :: s) ms rest := by
  induction fuel generalizing done s with
  | zero => cases h
  | succ fuel ih =>
    rw [readMembers] at h
    split at h
    · cases h
    · rename_i key afterKey hkey
      split at h
      · cases h
      · rename_i afterColon hcolon
        split at h
        · cases h
        · rename_i y after hread
          have hmember : Member (Yields depth) ('"' :: s) (key, y) after :=
            .colon (.quote (readString_iff.1 hkey)) (gap_of_skipSpace hcolon)
              (gap_skipSpace afterColon) ⟨fuel, hread⟩
          split at h
          · cases h
          · rename_i more hspace
            cases h
            exact ⟨[(key, y)], by simp, .last (.refl _) hmember (gap_of_skipSpace hspace)⟩
          · rename_i more hspace
            split at h
            · cases h
            · rename_i next hquote
              obtain ⟨ms, rfl, hitems⟩ := ih h
              exact ⟨(key, y) :: ms, by simp, .comma (.refl _) hmember (gap_of_skipSpace hspace)
                (hitems.gap (gap_of_skipSpace hquote))⟩
            · cases h
            · cases h
          · cases h
      · cases h

/-- How a value is written, of values that are read. Nothing is said about the constants and the
numbers. -/
inductive Written (depth : Nat) : List Char → Json → List Char → Prop
  | str {s rest : List Char} {t : Text} (h : Quoted s t rest) : Written depth s (.str t) rest
  | arr {s rest : List Char} {xs : List Json} (h : Enclosed (Yields depth) '[' ']' s xs rest) :
      Written depth s (.arr xs) rest
  | obj {s rest : List Char} {ms : List (Text × Json)}
      (h : Enclosed (Member (Yields depth)) '\x7b' '\x7d' s ms rest) : Written depth s (.obj ms) rest
  | atom {s rest : List Char} {x : Json} (h : isAtom x = true) : Written depth s x rest

lemma Yields.written (h : Yields (depth + 1) s x rest) : Written depth s x rest := by
  obtain ⟨fuel, h⟩ := h
  rw [readValue.eq_def] at h
  split at h <;> try cases h
  rename_i hdepth
  cases hdepth
  split at h
  · -- a string
    split at h <;> cases h
    rename_i hread
    exact .str (.quote (readString_iff.1 hread))
  · -- an array
    split at h
    · cases h
    · rename_i more hspace
      cases h
      exact .arr (.empty (gap_of_skipSpace hspace))
    · obtain ⟨xs, rfl, hitems⟩ := readElements_sound h
      exact .arr (.items (hitems.gap (gap_skipSpace _)))
  · -- an object
    split at h
    · cases h
    · rename_i more hspace
      cases h
      exact .obj (.empty (gap_of_skipSpace hspace))
    · rename_i more hspace
      obtain ⟨ms, rfl, hitems⟩ := readMembers_sound h
      exact .obj (.items (hitems.gap (gap_of_skipSpace hspace)))
    · cases h
  · exact .atom (isAtom_readAtom h)

lemma Yields.quoted {t : Text} (h : Yields (depth + 1) s (.str t) rest) : Quoted s t rest := by
  cases h.written with
  | str h => exact h
  | atom h => cases h

lemma Yields.files {files : Glob} (h : Yields (depth + 2) s files.toJson rest) :
    Files s files rest := by
  cases files with
  | one pattern => exact .one h.quoted
  | many patterns =>
    cases h.written with
    | arr h => exact .many (h.of_map Yields.quoted)
    | atom h => cases h

/-! ## What is written is read -/

/-- Every bound on the steps that is not below the number of characters of a value is enough to
read it. -/
structure Reads (depth : Nat) (s : List Char) (x : Json) (rest : List Char) : Prop where
  shorter : rest.length < s.length
  reads : ∀ {fuel}, s.length ≤ fuel + rest.length → readValue fuel depth s = .ok (x, rest)

lemma reads_of_quoted {t : Text} (h : Quoted s t rest) : Reads (depth + 1) s (.str t) rest := by
  refine ⟨h.length_lt, fun {fuel} hfuel => ?_⟩
  have hlength := h.length_lt
  obtain ⟨fuel, rfl⟩ := Nat.exists_eq_add_one.2 (show 0 < fuel by omega)
  obtain ⟨h⟩ := h
  simp only [readValue, readString_iff.2 h]

/-- A value begins with a character that neither is a blank nor closes an array. -/
lemma Reads.head (h : Reads depth s x rest) :
    ∃ c more, s = c :: more ∧ isSpace c = false ∧ c ≠ ']' := by
  have hread := h.reads (Nat.le_add_right s.length rest.length)
  cases s with
  | nil => cases h.shorter
  | cons c more =>
    cases depth with
    | zero => cases hread
    | succ depth =>
      refine ⟨c, more, rfl, Bool.eq_false_iff.2 fun hspace => ?_, ?_⟩
      · obtain rfl | rfl | rfl | rfl := isSpace_iff.1 hspace <;> cases hread
      · rintro rfl
        cases hread

lemma Reads.skipSpace {start : List Char} (hgap : Gap s start) (h : Reads depth start x rest) :
    skipSpace s = start := by
  obtain ⟨c, more, rfl, hc, -⟩ := h.head
  exact skipSpace_cons hgap hc

lemma skipSpace_elements {xs : List Json} {closing : Char}
    (h : Items (Reads depth) closing s xs rest) : ∃ c more, skipSpace s = c :: more ∧ c ≠ ']' := by
  cases h with
  | last hbefore hx | comma hbefore hx =>
    obtain ⟨c, more, rfl, hspace, hc⟩ := hx.head
    exact ⟨c, more, skipSpace_cons hbefore hspace, hc⟩

lemma Member.skipSpace {item : List Char → Json → List Char → Prop} {m : Text × Json}
    {start : List Char} (hgap : Gap s start) (h : Member item start m rest) :
    ∃ inside, start = '"' :: inside ∧ skipSpace s = '"' :: inside := by
  obtain ⟨⟨-⟩, -, -, -⟩ := h
  exact ⟨_, rfl, skipSpace_cons hgap rfl⟩

lemma skipSpace_members {item : List Char → Json → List Char → Prop} {ms : List (Text × Json)}
    {closing : Char} (h : Items (Member item) closing s ms rest) :
    ∃ inside, skipSpace s = '"' :: inside := by
  cases h with
  | last hbefore hx | comma hbefore hx =>
    obtain ⟨inside, -, hquote⟩ := Member.skipSpace hbefore hx
    exact ⟨inside, hquote⟩

lemma readElements_complete {xs : List Json} (h : Items (Reads depth) ']' s xs rest)
    (hfuel : s.length ≤ fuel + rest.length) (done : List Json) :
    readElements fuel depth done (skipSpace s) = .ok (.arr (done.reverse ++ xs), rest) := by
  induction h generalizing fuel done with
  | last hbefore hx hafter =>
    have hstart := hbefore.length_le
    have hend := hafter.length_lt
    have hshorter := hx.shorter
    obtain ⟨fuel, rfl⟩ := Nat.exists_eq_add_one.2 (show 0 < fuel by omega)
    rw [hx.skipSpace hbefore, readElements, hx.reads (by omega)]
    simp only [skipSpace_cons hafter rfl, List.reverse_cons]
  | @comma s start after more rest x xs hbefore hx hafter hitems ih =>
    have hstart := hbefore.length_le
    have hend := hafter.length_lt
    have hshorter := hx.shorter
    have hmore := hitems.length_lt Reads.shorter
    obtain ⟨fuel, rfl⟩ := Nat.exists_eq_add_one.2 (show 0 < fuel by omega)
    rw [hx.skipSpace hbefore, readElements, hx.reads (by omega)]
    simp only [skipSpace_cons hafter rfl]
    -- The reader looks for a bracket behind the comma, which would be one comma too many.
    obtain ⟨d, next, hnext, hd⟩ := skipSpace_elements hitems
    split
    · rename_i hbracket
      cases hnext.symm.trans hbracket
      exact absurd rfl hd
    · rw [ih (by omega), List.reverse_cons, List.append_assoc, List.singleton_append]

/-- **Arrays.** An array of things that are read is read. -/
lemma reads_of_array {xs : List Json} (h : Enclosed (Reads depth) '[' ']' s xs rest) :
    Reads (depth + 1) s (.arr xs) rest := by
  have hlength := h.length_lt Reads.shorter
  refine ⟨hlength, fun {fuel} hfuel => ?_⟩
  obtain ⟨fuel, rfl⟩ := Nat.exists_eq_add_one.2 (show 0 < fuel by omega)
  cases h with
  | empty hgap =>
    rw [readValue]
    simp only [skipSpace_cons hgap rfl]
  | items hitems =>
    rw [List.length_cons] at hfuel
    obtain ⟨c, more, hmore, hc⟩ := skipSpace_elements hitems
    rw [readValue]
    split
    · rename_i hnil
      cases hmore.symm.trans hnil
    · rename_i hbracket
      cases hmore.symm.trans hbracket
      exact absurd rfl hc
    · exact readElements_complete hitems (by omega) []

/-- One member, up to its value. -/
lemma readMember_complete {m : Text × Json} {after : List Char}
    (h : Member (Reads depth) ('"' :: s) m after) :
    ∃ afterKey afterColon, readString s = .ok (m.1, afterKey) ∧
      skipSpace afterKey = ':' :: afterColon ∧ ∀ fuel, s.length ≤ fuel + after.length →
        readValue fuel depth (skipSpace afterColon) = .ok (m.2, after) := by
  obtain ⟨hkey, hcolon, hgap, hx⟩ := h
  obtain ⟨hinside⟩ := hkey
  have hlengthKey := hinside.length_lt
  have hlengthColon := hcolon.length_lt
  have hlengthGap := hgap.length_le
  refine ⟨_, _, readString_iff.2 hinside, skipSpace_cons hcolon rfl, fun fuel hfuel => ?_⟩
  rw [hx.skipSpace hgap]
  exact hx.reads (by omega)

lemma readMembers_complete {ms : List (Text × Json)} {inside : List Char}
    (h : Items (Member (Reads depth)) '\x7d' s ms rest) (hquote : skipSpace s = '"' :: inside)
    (hfuel : s.length ≤ fuel + rest.length) (done : List (Text × Json)) :
    readMembers fuel depth done inside = .ok (.obj (done.reverse ++ ms), rest) := by
  induction h generalizing fuel done inside with
  | last hbefore hx hafter =>
    have hstart := hbefore.length_le
    have hend := hafter.length_lt
    have hshorter := hx.length_lt Reads.shorter
    obtain ⟨fuel, rfl⟩ := Nat.exists_eq_add_one.2 (show 0 < fuel by omega)
    obtain ⟨_, rfl, hstartQuote⟩ := Member.skipSpace hbefore hx
    cases hquote.symm.trans hstartQuote
    rw [List.length_cons] at hstart hshorter
    obtain ⟨afterKey, afterColon, hkey, hcolon, hread⟩ := readMember_complete hx
    have hvalue := hread fuel (by omega)
    rw [readMembers]
    simp only [hkey, hcolon, hvalue, skipSpace_cons hafter rfl, List.reverse_cons]
  | comma hbefore hx hafter hitems ih =>
    have hstart := hbefore.length_le
    have hend := hafter.length_lt
    have hshorter := hx.length_lt Reads.shorter
    have hmore := hitems.length_lt fun h => h.length_lt Reads.shorter
    obtain ⟨fuel, rfl⟩ := Nat.exists_eq_add_one.2 (show 0 < fuel by omega)
    obtain ⟨_, rfl, hstartQuote⟩ := Member.skipSpace hbefore hx
    cases hquote.symm.trans hstartQuote
    rw [List.length_cons] at hstart hshorter
    obtain ⟨afterKey, afterColon, hkey, hcolon, hread⟩ := readMember_complete hx
    have hvalue := hread fuel (by omega)
    obtain ⟨next, hnext⟩ := skipSpace_members hitems
    rw [readMembers]
    simp only [hkey, hcolon, hvalue, skipSpace_cons hafter rfl, hnext]
    rw [ih hnext (by omega), List.reverse_cons, List.append_assoc, List.singleton_append]

/-- **Objects.** An object whose values are read is read. -/
lemma reads_of_object {ms : List (Text × Json)}
    (h : Enclosed (Member (Reads depth)) '\x7b' '\x7d' s ms rest) :
    Reads (depth + 1) s (.obj ms) rest := by
  have hlength := h.length_lt fun h => h.length_lt Reads.shorter
  refine ⟨hlength, fun {fuel} hfuel => ?_⟩
  obtain ⟨fuel, rfl⟩ := Nat.exists_eq_add_one.2 (show 0 < fuel by omega)
  cases h with
  | empty hgap =>
    rw [readValue]
    simp only [skipSpace_cons hgap rfl]
  | items hitems =>
    rw [List.length_cons] at hfuel
    obtain ⟨inside, hquote⟩ := skipSpace_members hitems
    rw [readValue]
    simp only [hquote]
    exact readMembers_complete hitems hquote (by omega) []

lemma reads_of_files {files : Glob} (h : Files s files rest) :
    Reads (depth + 2) s files.toJson rest := by
  cases h with
  | one h => exact reads_of_quoted h
  | many h => exact reads_of_array (h.map reads_of_quoted)

/-! ## Whole texts -/

lemma read_eq_ok : read s = .ok x ↔
    ∃ rest, readValue (2 * s.length + 2) (maxDepth + 1) (skipSpace s) = .ok (x, rest) ∧
      skipSpace rest = [] := by
  rw [read]
  constructor
  · intro h
    split at h
    · cases h
    · rename_i y rest hread
      split at h
      · rename_i hend
        cases h
        exact ⟨rest, hread, hend⟩
      · cases h
  · rintro ⟨rest, hread, hend⟩
    simp only [hread, hend]

/-- **Whole texts.** A text is read as an object whose values are strings and arrays of strings
exactly where it is a schema text, and the members of the object are its entries then. -/
lemma read_iff {entries : List (Text × Glob)} :
    read s = .ok (SchemaMapping.toJson entries) ↔ SchemaText s entries := by
  rw [read_eq_ok]
  constructor
  · rintro ⟨rest, hread, hend⟩
    have hwritten : Written maxDepth (skipSpace s) (SchemaMapping.toJson entries) rest :=
      Yields.written ⟨_, hread⟩
    cases hwritten with
    | obj h =>
      refine ⟨_, rest, gap_skipSpace s, h.of_map ?_, gap_of_skipSpace hend⟩
      rintro start ⟨key, files⟩ after ⟨hkey, hcolon, hgap, hx⟩
      exact .colon hkey hcolon hgap hx.files
    | atom h => cases h
  · rintro ⟨start, rest, hbefore, henclosed, hafter⟩
    have hreads : Reads (maxDepth + 1) start (SchemaMapping.toJson entries) rest := by
      refine reads_of_object (henclosed.map ?_)
      rintro start ⟨key, files⟩ after ⟨hkey, hcolon, hgap, hx⟩
      exact .colon hkey hcolon hgap (reads_of_files hx)
    have hlength := hbefore.length_le
    refine ⟨rest, ?_, skipSpace_gap hafter⟩
    rw [hreads.skipSpace hbefore]
    exact hreads.reads (by omega)

end LanguageHost.Json.Strict
