/-!
# Text as code points

A text read from a preference file may hold a surrogate on its own, which no `Char` is. `Text` is
therefore a list of code points, surrogates included. A `String` embeds in it, and a text comes
back as a `String` exactly when no surrogate is left in it.

`Text.display` is the total way back, for places that only show a text to a person.
-/

namespace LanguageHost

/-- A Unicode code point; the surrogates `U+D800` to `U+DFFF` are included. -/
abbrev CodePoint := Fin 0x110000

/-- A sequence of code points. -/
abbrev Text := List CodePoint

namespace CodePoint

/-- The code point of a character. -/
def ofChar (c : Char) : CodePoint :=
  ⟨c.toNat, by
    have h := c.valid
    simp only [UInt32.isValidChar, Nat.isValidChar] at h
    simp only [Char.toNat]
    omega⟩

/-- A first half of a surrogate pair. -/
def isHighSurrogate (c : CodePoint) : Bool :=
  0xD800 ≤ c.val && c.val < 0xDC00

/-- A second half of a surrogate pair. -/
def isLowSurrogate (c : CodePoint) : Bool :=
  0xDC00 ≤ c.val && c.val < 0xE000

/-- Half of a surrogate pair, which is no character by itself. -/
def isSurrogate (c : CodePoint) : Bool :=
  0xD800 ≤ c.val && c.val < 0xE000

/-- The character at a code point, when there is one. -/
def toChar? (c : CodePoint) : Option Char :=
  if c.isSurrogate then none else some (Char.ofNat c.val)

theorem isSurrogate_ofChar (c : Char) : (ofChar c).isSurrogate = false := by
  have h := c.valid
  simp only [UInt32.isValidChar, Nat.isValidChar] at h
  refine Bool.eq_false_iff.2 fun surrogate => ?_
  simp only [isSurrogate, Bool.and_eq_true, decide_eq_true_eq] at surrogate
  simp only [ofChar, Char.toNat] at surrogate
  omega

/-- A character comes back from its code point. -/
@[simp] theorem toChar?_ofChar (c : Char) : (ofChar c).toChar? = some c := by
  rw [toChar?, isSurrogate_ofChar]
  simp [ofChar]

/-- The code point that a surrogate pair stands for. -/
def ofPair (high low : CodePoint) : CodePoint :=
  ⟨(0x10000 + (high.val - 0xD800) % 0x400 * 0x400 + (low.val - 0xDC00) % 0x400), by omega⟩

end CodePoint

/-- The lower-case hexadecimal digit of a number below sixteen. -/
def hexDigit (n : Nat) : Char :=
  if n < 10 then Char.ofNat (48 + n) else Char.ofNat (87 + n)

/-- The last `width` hexadecimal digits of a number, the highest first. -/
def hexDigits : Nat → Nat → List Char
  | 0, _ => []
  | width + 1, n => hexDigits width (n / 16) ++ [hexDigit (n % 16)]

namespace Text

/-- The code points of a list of characters. -/
def ofChars (cs : List Char) : Text :=
  cs.map CodePoint.ofChar

/-- The code points of a string. -/
def ofString (s : String) : Text :=
  ofChars s.toList

instance : Coe String Text := ⟨ofString⟩

/-- The characters of a text that holds no surrogate. -/
def toChars? (t : Text) : Option (List Char) :=
  t.mapM CodePoint.toChar?

/-- The string with the same code points, unless a surrogate is among them. -/
def toString? (t : Text) : Option String :=
  t.toChars?.map String.ofList

@[simp] theorem toChars?_ofChars (cs : List Char) : (ofChars cs).toChars? = some cs := by
  induction cs with
  | nil => rfl
  | cons c rest ih =>
    simp only [toChars?, ofChars] at ih
    simp [toChars?, ofChars, List.mapM_cons, ih]

/-- A string comes back from its code points. -/
@[simp] theorem toString?_ofString (s : String) : (ofString s).toString? = some s := by
  simp [toString?, ofString]

/-- The text for a reader's eyes: a surrogate is written as its escape. -/
def display (t : Text) : String :=
  String.ofList <| t.flatMap fun c =>
    match c.toChar? with
    | some ch => [ch]
    | none => '\\' :: 'u' :: hexDigits 4 c.val

/-- Another text stands somewhere in the text. -/
def hasPart (part : Text) : Text → Bool
  | [] => part.isEmpty
  | c :: rest => part.isPrefixOf (c :: rest) || hasPart part rest

/-- The texts one after another with a separator between neighbours. -/
def join (separator : Text) (parts : List Text) : Text :=
  List.intercalate separator parts

end Text

end LanguageHost
