import Mathlib.Data.List.Chain
import Mathlib.Tactic.Lemma
import LanguageHost.Json.Printer
import LanguageHost.Text.Blank

/-!
# The characters of written JSON

What is written for a JSON value is printable ASCII, in the indented form with line feeds between
its lines. In that form no line is empty or ends with a blank, as `Json.Solid` says: the blanks at
the beginnings of lines and behind colons always have something behind them on their line.
-/

namespace LanguageHost.Json

/-- A printable character of ASCII. -/
def IsPrintable (ch : Char) : Prop :=
  0x20 ≤ ch.toNat ∧ ch.toNat ≤ 0x7E

/-- A printable character of ASCII that is not the blank. -/
def IsInk (ch : Char) : Prop :=
  0x21 ≤ ch.toNat ∧ ch.toNat ≤ 0x7E

/-- A character of a constant or a number. -/
def IsMark (ch : Char) : Prop :=
  ch.isAlphanum = true ∨ ch ∈ ['-', '+', '.']

instance (ch : Char) : Decidable (IsPrintable ch) :=
  inferInstanceAs (Decidable (_ ∧ _))

instance (ch : Char) : Decidable (IsInk ch) :=
  inferInstanceAs (Decidable (_ ∧ _))

instance (ch : Char) : Decidable (IsMark ch) :=
  inferInstanceAs (Decidable (_ ∨ _))

-- Characters are finitely many: an instance for that would try them all, not only those of `s`.
instance (s : List Char) : Decidable (∀ ch ∈ s, IsPrintable ch) :=
  List.decidableBAll _ s

instance (s : List Char) : Decidable (∀ ch ∈ s, IsInk ch) :=
  List.decidableBAll _ s

instance (s : List Char) : Decidable (∀ ch ∈ s, IsMark ch) :=
  List.decidableBAll _ s

lemma IsInk.isPrintable {ch : Char} (h : IsInk ch) : IsPrintable ch :=
  ⟨Nat.le_of_succ_le h.1, h.2⟩

lemma IsInk.isBlank_eq {ch : Char} (h : IsInk ch) : (CodePoint.ofChar ch).isBlank = false := by
  have hval : (CodePoint.ofChar ch).val = ch.toNat := rfl
  obtain ⟨hlow, hhigh⟩ := h
  simp [CodePoint.isBlank, hval]
  omega

lemma isMark_of_isDigit {ch : Char} (h : ch.isDigit = true) : IsMark ch :=
  Or.inl (by simp [Char.isAlphanum, h])

lemma IsMark.isInk {ch : Char} (h : IsMark ch) : IsInk ch := by
  rcases h with h | h
  · delta Char.isAlphanum Char.isAlpha Char.isUpper Char.isLower Char.isDigit at h
    simp only [Bool.or_eq_true, Bool.and_eq_true, decide_eq_true_eq, ge_iff_le,
      UInt32.le_iff_toNat_le] at h
    rcases h with (⟨hlow, hhigh⟩ | ⟨hlow, hhigh⟩) | ⟨hlow, hhigh⟩ <;>
      exact ⟨Nat.le_trans (by decide) hlow, Nat.le_trans hhigh (by decide)⟩
  · have hall : ∀ ch ∈ ['-', '+', '.'], IsInk ch := by decide
    exact hall ch h

/-! ## Strings -/

lemma toNat_ofNat_printable {n : Nat} (hn : n ≤ 0x7E) : (Char.ofNat n).toNat = n := by
  rw [Char.ofNat, dif_pos (Or.inl (by omega))]
  rfl

lemma isPrintable_hexDigits (width n : Nat) : ∀ ch ∈ hexDigits width n, IsPrintable ch := by
  have hall : ∀ n < 16, IsPrintable (hexDigit n) := by decide
  induction width generalizing n with
  | zero => exact List.forall_mem_nil _
  | succ width ih =>
    exact List.forall_mem_append.2
      ⟨ih _, List.forall_mem_singleton.2 (hall _ (Nat.mod_lt n (by decide)))⟩

lemma isPrintable_unitEscape (n : Nat) : ∀ ch ∈ unitEscape n, IsPrintable ch :=
  List.forall_mem_cons.2 ⟨by decide, List.forall_mem_cons.2 ⟨by decide, isPrintable_hexDigits 4 n⟩⟩

/-- The letters that stand behind a backslash for characters. -/
def letters : List (Char × Char) :=
  [('"', '"'), ('\\', '\\'), ('n', '\n'), ('r', '\r'), ('t', '\t'), ('b', '\x08'), ('f', '\x0c')]

/-- A code point beyond `U+FFFF` is made of a high and a low surrogate. -/
structure Halves (c high low : CodePoint) : Prop where
  isHigh : high.isHighSurrogate = true
  isLow : low.isLowSurrogate = true
  val_eq : c.val = 0x10000 + (high.val - 0xD800) * 0x400 + (low.val - 0xDC00)

/-- How a code point is written: as a letter behind a backslash, as itself, or as one or two code
units. -/
inductive Spelling (c : CodePoint) : List Char → Prop
  | letter (letter ch : Char) (hletter : (letter, ch) ∈ letters) (hc : c = .ofChar ch) :
    Spelling c ['\\', letter]
  | raw (ch : Char) (hc : c = .ofChar ch) (hch : IsPrintable ch) (hquote : ch ≠ '"')
    (hslash : ch ≠ '\\') : Spelling c [ch]
  | unit (hunit : c.val < 0x10000) : Spelling c (unitEscape c.val)
  | pair (high low : CodePoint) (h : Halves c high low) :
    Spelling c (unitEscape high.val ++ unitEscape low.val)

lemma exists_halves {c : CodePoint} (hc : 0x10000 ≤ c.val) : ∃ high low : CodePoint,
    Halves c high low ∧ high.val = 0xD800 + (c.val - 0x10000) / 0x400 ∧
      low.val = 0xDC00 + (c.val - 0x10000) % 0x400 := by
  have hlt := c.isLt
  refine ⟨⟨0xD800 + (c.val - 0x10000) / 0x400, by omega⟩,
    ⟨0xDC00 + (c.val - 0x10000) % 0x400, by omega⟩, ⟨?_, ?_, ?_⟩, rfl, rfl⟩
  · simp only [CodePoint.isHighSurrogate, Bool.and_eq_true, decide_eq_true_eq]
    omega
  · simp only [CodePoint.isLowSurrogate, Bool.and_eq_true, decide_eq_true_eq]
    omega
  · dsimp only
    omega

/-- Surrogates are code units. -/
lemma Halves.lt {c high low : CodePoint} (h : Halves c high low) :
    high.val < 0x10000 ∧ low.val < 0x10000 := by
  obtain ⟨hhigh, hlow, -⟩ := h
  simp only [CodePoint.isHighSurrogate, CodePoint.isLowSurrogate, Bool.and_eq_true,
    decide_eq_true_eq] at hhigh hlow
  omega

lemma spelling_writePoint (c : CodePoint) : Spelling c (writePoint c) := by
  unfold writePoint
  dsimp only
  split
  · rename_i hquote
    exact .letter '"' '"' (by decide) (Fin.ext hquote)
  split
  · rename_i hslash
    exact .letter '\\' '\\' (by decide) (Fin.ext hslash)
  split
  · rename_i hfeed
    exact .letter 'n' '\n' (by decide) (Fin.ext hfeed)
  split
  · rename_i hreturn
    exact .letter 'r' '\r' (by decide) (Fin.ext hreturn)
  split
  · rename_i htab
    exact .letter 't' '\t' (by decide) (Fin.ext htab)
  split
  · rename_i hback
    exact .letter 'b' '\x08' (by decide) (Fin.ext hback)
  split
  · rename_i hform
    exact .letter 'f' '\x0c' (by decide) (Fin.ext hform)
  rename_i hquote hslash _ _ _ _ _
  split
  · rename_i hprintable
    simp only [Bool.and_eq_true, decide_eq_true_eq] at hprintable
    have hnat := toNat_ofNat_printable hprintable.2
    refine .raw _ (Fin.ext hnat.symm) ?_ (fun hsame => hquote ?_) (fun hsame => hslash ?_)
    · rwa [IsPrintable, hnat]
    · rw [← hnat, hsame]
      rfl
    · rw [← hnat, hsame]
      rfl
  split
  · rename_i hunit
    exact .unit hunit
  · rename_i hbeyond
    obtain ⟨high, low, hhalves, hhigh, hlow⟩ := exists_halves (Nat.le_of_not_lt hbeyond)
    rw [← hhigh, ← hlow]
    exact .pair high low hhalves

lemma Spelling.isPrintable {c : CodePoint} {s : List Char} (h : Spelling c s) :
    ∀ ch ∈ s, IsPrintable ch := by
  cases h with
  | letter letter ch hletter _ =>
    have hall : ∀ entry ∈ letters, IsPrintable entry.1 := by decide
    exact List.forall_mem_cons.2 ⟨by decide, List.forall_mem_singleton.2 (hall _ hletter)⟩
  | raw ch _ hch => exact List.forall_mem_singleton.2 hch
  | unit _ => exact isPrintable_unitEscape _
  | pair high low _ =>
    exact List.forall_mem_append.2 ⟨isPrintable_unitEscape _, isPrintable_unitEscape _⟩

lemma isPrintable_writeText (t : Text) : ∀ ch ∈ writeText t, IsPrintable ch := by
  refine List.forall_mem_append.2 ⟨List.forall_mem_cons.2 ⟨by decide, fun ch hch => ?_⟩, by decide⟩
  obtain ⟨c, -, hch⟩ := List.mem_flatMap.1 hch
  exact (spelling_writePoint c).isPrintable ch hch

/-! ## Numbers -/

lemma isMark_toDigits (n : Nat) : ∀ ch ∈ Nat.toDigits 10 n, IsMark ch :=
  fun _ hch => isMark_of_isDigit (Nat.isDigit_of_mem_toDigits (by decide) (by decide) hch)

lemma toDigits_ne_nil (n : Nat) : Nat.toDigits 10 n ≠ [] :=
  List.ne_nil_of_length_pos Nat.length_toDigits_pos

/-- At least one character, and no blank among them. -/
def IsWord (s : List Char) : Prop :=
  s ≠ [] ∧ ∀ ch ∈ s, IsInk ch

/-- At least one character, and all of them such as constants and numbers have. -/
def IsNumeral (s : List Char) : Prop :=
  s ≠ [] ∧ ∀ ch ∈ s, IsMark ch

instance (s : List Char) : Decidable (IsWord s) :=
  inferInstanceAs (Decidable (_ ∧ _))

instance (s : List Char) : Decidable (IsNumeral s) :=
  inferInstanceAs (Decidable (_ ∧ _))

lemma IsNumeral.isWord {s : List Char} (h : IsNumeral s) : IsWord s :=
  ⟨h.1, fun ch hch => (h.2 ch hch).isInk⟩

lemma isNumeral_toDigits (n : Nat) : IsNumeral (Nat.toDigits 10 n) :=
  ⟨toDigits_ne_nil n, isMark_toDigits n⟩

lemma IsNumeral.cons {ch : Char} {s : List Char} (hch : IsMark ch) (hs : ∀ ch ∈ s, IsMark ch) :
    IsNumeral (ch :: s) :=
  ⟨List.cons_ne_nil ch s, List.forall_mem_cons.2 ⟨hch, hs⟩⟩

lemma isNumeral_toString (n : Int) : IsNumeral (toString n).toList := by
  cases n with
  | ofNat n =>
    change IsNumeral (String.ofList (Nat.toDigits 10 n)).toList
    rw [String.toList_ofList]
    exact isNumeral_toDigits n
  | negSucc n =>
    have hsign : (toString (Int.negSucc n)).toList = '-' :: Nat.toDigits 10 (n + 1) := by
      change ("-" ++ String.ofList (Nat.toDigits 10 (n + 1))).toList = _
      rw [String.toList_append]
      exact congrArg ('-' :: ·) String.toList_ofList
    rw [hsign]
    exact .cons (by decide) (isMark_toDigits _)

lemma isMark_zeros (n : Nat) : ∀ ch ∈ List.replicate n '0', IsMark ch := fun _ hch =>
  List.eq_of_mem_replicate hch ▸ by decide

lemma isMark_positional (d : Decimal) : ∀ ch ∈ d.positional, IsMark ch := by
  have hdigits := isMark_toDigits d.digits
  unfold Decimal.positional
  dsimp only
  split
  · exact List.forall_mem_append.2 ⟨List.forall_mem_cons.2 ⟨by decide, List.forall_mem_cons.2
      ⟨by decide, isMark_zeros _⟩⟩, hdigits⟩
  split
  · exact List.forall_mem_append.2
      ⟨List.forall_mem_append.2 ⟨hdigits, isMark_zeros _⟩, by decide⟩
  · exact List.forall_mem_append.2 ⟨fun ch hch => hdigits ch (List.mem_of_mem_take hch),
      List.forall_mem_cons.2 ⟨by decide, fun ch hch => hdigits ch (List.mem_of_mem_drop hch)⟩⟩

lemma isMark_scientific (d : Decimal) : ∀ ch ∈ d.scientific, IsMark ch := by
  have hdigits := isMark_toDigits d.digits
  have hpower : ∀ power : List Char, (∀ ch ∈ power, IsMark ch) →
      ∀ ch ∈ (if power.length < 2 then '0' :: power else power), IsMark ch := by
    intro power hpower
    split
    · exact List.forall_mem_cons.2 ⟨by decide, hpower⟩
    · exact hpower
  unfold Decimal.scientific
  dsimp only
  refine List.forall_mem_append.2 ⟨List.forall_mem_append.2
    ⟨fun ch hch => hdigits ch (List.mem_of_mem_take hch), ?_⟩, List.forall_mem_cons.2
      ⟨by decide, List.forall_mem_cons.2 ⟨?_, hpower _ (isMark_toDigits _)⟩⟩⟩
  · split
    · exact List.forall_mem_nil _
    · exact List.forall_mem_cons.2
        ⟨by decide, fun ch hch => hdigits ch (List.mem_of_mem_drop hch)⟩
  · split <;> decide

lemma isNumeral_text (x : Binary64) : IsNumeral (Binary64.text "NaN" "Infinity" x).toList := by
  cases x with
  | nan => decide
  | infinite negative => cases negative <;> decide
  | finite negative significand exponent =>
    have hunsigned : IsNumeral
        (if significand = 0 then ['0', '.', '0']
          else (Binary64.shortest significand exponent).text) := by
      split
      · decide
      · unfold Decimal.text
        dsimp only
        split
        · refine ⟨?_, isMark_positional _⟩
          unfold Decimal.positional
          dsimp only
          split
          · simp
          · split <;> simp
        · refine ⟨?_, isMark_scientific _⟩
          simp [Decimal.scientific]
    rw [Binary64.text, String.toList_ofList]
    cases negative with
    | false => exact hunsigned
    | true => exact .cons (by decide) hunsigned.2

/-! ## Lines -/

/-- A text of printable lines, of which none is empty or ends with a blank, and the first one does
not begin with a blank. -/
structure Solid (s : List Char) : Prop where
  nonempty : s ≠ []
  plain : ∀ ch ∈ s, IsPrintable ch ∨ ch = '\n'
  first : ∀ ch ∈ s.head?, IsInk ch
  last : ∀ ch ∈ s.getLast?, IsInk ch
  broken : s.IsChain fun a b => b = '\n' → IsInk a

namespace Solid

variable {s t gap : List Char}

lemma of_isPrintable (hs : ∀ ch ∈ s, IsPrintable ch) (hnonempty : s ≠ [])
    (hfirst : ∀ ch ∈ s.head?, IsInk ch) (hlast : ∀ ch ∈ s.getLast?, IsInk ch) : Solid s := by
  refine ⟨hnonempty, fun ch hch => Or.inl (hs ch hch), hfirst, hlast, ?_⟩
  refine (List.pairwise_of_forall_mem_list fun a _ b hb hfeed => ?_).isChain
  exact absurd (hfeed ▸ hs b hb) (by decide)

lemma of_isWord (hs : IsWord s) : Solid s :=
  of_isPrintable (fun ch hch => (hs.2 ch hch).isPrintable) hs.1
    (fun ch hch => hs.2 ch (List.mem_of_mem_head? hch))
    (fun ch hch => hs.2 ch (List.mem_of_mem_getLast? hch))

/-- Two solid texts with blanks between them that end no line. -/
lemma join (hs : Solid s) (ht : Solid t) (hgap : ∀ ch ∈ gap, ch = ' ' ∨ ch = '\n')
    (hbroken : gap.IsChain fun a b => b = '\n' → IsInk a) : Solid (s ++ gap ++ t) := by
  refine ⟨by simp [hs.nonempty], ?_, ?_, ?_, ?_⟩
  · refine List.forall_mem_append.2 ⟨List.forall_mem_append.2 ⟨hs.plain, fun ch hch => ?_⟩, ht.plain⟩
    rcases hgap ch hch with rfl | rfl
    · exact Or.inl (by decide)
    · exact Or.inr rfl
  · rw [List.append_assoc, List.head?_append_of_ne_nil _ hs.nonempty]
    exact hs.first
  · rw [List.getLast?_append_of_ne_nil _ ht.nonempty]
    exact ht.last
  · refine List.isChain_append.2 ⟨List.isChain_append.2 ⟨hs.broken, hbroken, ?_⟩, ht.broken, ?_⟩
    · exact fun a ha _ _ _ => hs.last a ha
    · intro a _ b hb hfeed
      exact absurd (hfeed ▸ ht.first b hb) (by decide)

lemma append (hs : Solid s) (ht : Solid t) : Solid (s ++ t) := by
  have hjoined := hs.join ht (List.forall_mem_nil _) List.isChain_nil
  rwa [List.append_nil] at hjoined

lemma blank (hs : Solid s) (ht : Solid t) : Solid (s ++ ' ' :: t) := by
  have hjoined := hs.join ht (List.forall_mem_singleton.2 (Or.inl rfl)) (List.isChain_singleton ' ')
  rwa [List.append_assoc] at hjoined

lemma lineBreak (depth : Nat) (hs : Solid s) (ht : Solid t) :
    Solid (s ++ Json.lineBreak depth ++ t) := by
  refine hs.join ht (List.forall_mem_cons.2 ⟨Or.inr rfl, fun ch hch => ?_⟩) ?_
  · exact Or.inl (List.eq_of_mem_replicate hch)
  · refine List.isChain_cons.2 ⟨fun b hb hfeed => ?_, ?_⟩
    · cases List.eq_of_mem_replicate (List.mem_of_mem_head? hb)
      cases hfeed
    · refine (List.pairwise_of_forall_mem_list fun a _ b hb hfeed => ?_).isChain
      cases List.eq_of_mem_replicate hb
      cases hfeed

/-- A character that is printed as it is. -/
lemma single (ch : Char) (hch : IsInk ch) : Solid [ch] :=
  of_isWord ⟨by simp, List.forall_mem_singleton.2 hch⟩

end Solid

lemma solid_writeText (t : Text) : Solid (writeText t) := by
  refine .of_isPrintable (isPrintable_writeText t) (by simp [writeText]) ?_ ?_
  · intro ch hch
    cases hch
    decide
  · intro ch hch
    rw [writeText, List.getLast?_append_of_ne_nil _ (by simp)] at hch
    cases hch
    decide

mutual

/-- **Lines.** The indented form has printable lines only, and none is empty or ends with a
blank. -/
theorem solid_writeIndented (depth : Nat) : (j : Json) → Solid (writeIndented depth j)
  | .null => .of_isWord (s := "null".toList) (by decide)
  | .bool true => .of_isWord (s := "true".toList) (by decide)
  | .bool false => .of_isWord (s := "false".toList) (by decide)
  | .int n => .of_isWord (isNumeral_toString n).isWord
  | .float x => .of_isWord (isNumeral_text x).isWord
  | .str t => solid_writeText t
  | .arr [] => .of_isWord (s := ['[', ']']) (by decide)
  | .arr (x :: xs) =>
    (Solid.single '[' (by decide)).lineBreak (depth + 1) (solid_writeIndentedElements depth (x :: xs) (by simp))
  | .obj [] => .of_isWord (s := ['\x7b', '\x7d']) (by decide)
  | .obj (m :: ms) =>
    (Solid.single '\x7b' (by decide)).lineBreak (depth + 1) (solid_writeIndentedMembers depth (m :: ms) (by simp))

/-- The elements of an array and its closing bracket. -/
theorem solid_writeIndentedElements (depth : Nat) :
    (xs : List Json) → xs ≠ [] → Solid (writeIndentedElements depth xs)
  | [], hnonempty => absurd rfl hnonempty
  | [x], _ => (solid_writeIndented (depth + 1) x).lineBreak depth (.single ']' (by decide))
  | x :: y :: ys, _ => by
    have hcomma := (solid_writeIndented (depth + 1) x).append (.single ',' (by decide))
    have hall := hcomma.lineBreak (depth + 1) (solid_writeIndentedElements depth (y :: ys) (by simp))
    simpa only [writeIndentedElements, List.append_assoc, List.cons_append, List.nil_append]
      using hall

/-- The members of an object and its closing brace. -/
theorem solid_writeIndentedMembers (depth : Nat) :
    (ms : List (Text × Json)) → ms ≠ [] → Solid (writeIndentedMembers depth ms)
  | [], hnonempty => absurd rfl hnonempty
  | [(k, x)], _ => by
    have hkey := (solid_writeText k).append (.single ':' (by decide))
    have hmember := hkey.blank (solid_writeIndented (depth + 1) x)
    have hall := hmember.lineBreak depth (.single '\x7d' (by decide))
    simpa only [writeIndentedMembers, List.append_assoc, List.cons_append, List.nil_append]
      using hall
  | (k, x) :: m :: ms, _ => by
    have hkey := (solid_writeText k).append (.single ':' (by decide))
    have hmember := hkey.blank (solid_writeIndented (depth + 1) x)
    have hcomma := hmember.append (.single ',' (by decide))
    have hall := hcomma.lineBreak (depth + 1) (solid_writeIndentedMembers depth (m :: ms) (by simp))
    simpa only [writeIndentedMembers, List.append_assoc, List.cons_append, List.nil_append]
      using hall

end

end LanguageHost.Json
