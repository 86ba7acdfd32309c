import LanguageHost.Folders
import LanguageHost.Json.Loose
import LanguageHost.Proofs.Utf8

/-!
# Addresses of folders

The address of a path is its text in UTF-8, byte by byte. A byte that is a letter, a digit or one of
five marks stands for itself, and `Path.Escaped` says that all others are written as a percent sign
and two digits. `Path.unescape?` reads any text of this kind, and gives one reading only.

So the address says everything about the text: the bytes are read back from the escapes, and the
characters from the bytes. Paths with different texts have different addresses.
-/

namespace LanguageHost

open Json.Loose (hexValue?)

namespace Text

/-- A string is shown as it is. -/
@[simp] theorem display_ofString (s : String) : (ofString s).display = s := by
  simp [display, ofString, ofChars, List.flatMap_map]

end Text

namespace Path

/-! ## Escaped bytes -/

/-- A character that stands for itself in an address: a letter or digit, or one of five marks. -/
def IsPlain (c : Char) : Prop :=
  c.isAlphanum = true ∨ c ∈ ['_', '.', '-', '~', '/']

instance (c : Char) : Decidable (IsPlain c) :=
  inferInstanceAs (Decidable (_ ∨ _))

/-- Bytes as an address writes them: a plain one as its character, any other one as a percent sign
and its two digits. -/
inductive Escaped : List UInt8 → List Char → Prop
  | nil : Escaped [] []
  | plain {c : Char} {bytes : List UInt8} {body : List Char} : IsPlain c → Escaped bytes body →
    Escaped (c.toNat.toUInt8 :: bytes) (c :: body)
  | escape {b : UInt8} {high low : Char} {bytes : List UInt8} {body : List Char} :
    ¬ IsPlain (Char.ofNat b.toNat) → hexValue? high = some (b.toNat / 16) →
    hexValue? low = some (b.toNat % 16) → Escaped bytes body →
    Escaped (b :: bytes) ('%' :: high :: low :: body)

/-- The bytes that an escaped text stands for: a percent sign and two hexadecimal digits stand for
the byte with that number, and any other character for the bytes that it is written as. A percent
sign without two digits stands for nothing. -/
def unescape? : List Char → Option (List UInt8)
  | [] => some []
  | '%' :: high :: low :: rest => do
    let high ← hexValue? high
    let low ← hexValue? low
    return (high * 16 + low).toUInt8 :: (← unescape? rest)
  | '%' :: _ => none
  | c :: rest => return Utf8.encodePoint (.ofChar c) ++ (← unescape? rest)

/-- One byte is written as the rule says. -/
def escapesWell (n : Nat) : Bool :=
  match escapeByte n.toUInt8 with
  | [c] => decide (IsPlain c) && c.toNat == n && Utf8.encodePoint (.ofChar c) == [n.toUInt8] &&
    c != '%'
  | [mark, high, low] => mark == '%' && !decide (IsPlain (Char.ofNat n)) &&
    hexValue? high == some (n / 16) && hexValue? low == some (n % 16)
  | _ => false

lemma all_escapesWell : (List.range 256).all escapesWell = true := by
  decide +kernel

/-- Bytes are written as the rule says, and what is written so is read back. -/
lemma escaped_escapeByte (b : UInt8) {bytes : List UInt8} {body : List Char}
    (hbody : Escaped bytes body) (hread : unescape? body = some bytes) :
    Escaped (b :: bytes) (escapeByte b ++ body) ∧
      unescape? (escapeByte b ++ body) = some (b :: bytes) := by
  have hb : b.toNat.toUInt8 = b := UInt8.ofNat_toNat
  have hwell := List.all_eq_true.1 all_escapesWell b.toNat (List.mem_range.2 b.toNat_lt)
  unfold escapesWell at hwell
  rw [hb] at hwell
  split at hwell
  · next c heq =>
    simp only [Bool.and_eq_true, decide_eq_true_eq, beq_iff_eq, bne_iff_ne] at hwell
    obtain ⟨⟨⟨hplain, hnumber⟩, hencode⟩, hpercent⟩ := hwell
    rw [heq, List.singleton_append]
    constructor
    · rw [← hb, ← hnumber]
      exact .plain hplain hbody
    · rw [unescape?, hread, hencode]
      · rfl
      · exact fun _ _ _ hmark => absurd hmark hpercent
      · exact fun hmark => absurd hmark hpercent
  · next mark high low heq =>
    simp only [Bool.and_eq_true, Bool.not_eq_true', decide_eq_false_iff_not, beq_iff_eq] at hwell
    obtain ⟨⟨⟨rfl, hnot⟩, hhigh⟩, hlow⟩ := hwell
    rw [heq]
    refine ⟨.escape hnot hhigh hlow hbody, ?_⟩
    have hvalue : b.toNat / 16 * 16 + b.toNat % 16 = b.toNat := Nat.div_add_mod' _ 16
    simp only [List.cons_append, List.nil_append, unescape?, hhigh, hlow, hread,
      Option.bind_eq_bind, Option.bind_some, hvalue, hb]
    rfl
  · cases hwell

/-- Every sequence of bytes is written as the rule says and read back. -/
lemma escaped_flatMap (bytes : List UInt8) :
    Escaped bytes (bytes.flatMap escapeByte) ∧
      unescape? (bytes.flatMap escapeByte) = some bytes := by
  induction bytes with
  | nil => exact ⟨.nil, rfl⟩
  | cons b rest ih => exact escaped_escapeByte b ih.1 ih.2

/-- Different texts of paths give different addresses. -/
theorem uri_injective {p q : Path} (h : p.uri = q.uri) : p.text = q.text := by
  have hchars : (Utf8.encodeString p.text).flatMap escapeByte =
      (Utf8.encodeString q.text).flatMap escapeByte := by
    have hlists := congrArg String.toList h
    simpa [uri] using hlists
  have hbytes := congrArg unescape? hchars
  rw [(escaped_flatMap _).2, (escaped_flatMap _).2] at hbytes
  exact Utf8.encodeString_injective (Option.some.inj hbytes)

end Path

namespace Folders

/-- A project is announced by the address of its location. -/
lemma addresses_project (name : String) (project : Project) :
    addresses [project.resource name] = .ok [project.location.uri] := by
  have haddress : address (Json.ofString? (project.resource name).uri?) =
      .ok project.location.uri :=
    congrArg Except.ok (Text.display_ofString _)
  rw [addresses, List.mapM_cons, haddress]
  rfl

end Folders

end LanguageHost
