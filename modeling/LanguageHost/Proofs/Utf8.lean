import Mathlib.Tactic.Lemma
import LanguageHost.Text.Utf8

/-!
# Reading UTF-8 back

Every text without surrogates comes back from the bytes that it is written as, so no two such texts
are written alike. The proof takes one character after the other: its bytes, whatever follows them,
are read as this character.

Decoding is strict, so nothing else is read: bytes that are decoded are those that the characters
are written as.
-/

namespace LanguageHost.Utf8

lemma toNat_byte {n : Nat} (hn : n < 256) : n.toUInt8.toNat = n := by
  simpa using Nat.mod_eq_of_lt hn

lemma lt_byte {n : Nat} (hn : n < 256) (b : UInt8) : n.toUInt8 < b ↔ n < b.toNat := by
  rw [UInt8.lt_iff_toNat_lt, toNat_byte hn]

lemma byte_lt {n : Nat} (hn : n < 256) (b : UInt8) : b ≤ n.toUInt8 ↔ b.toNat ≤ n := by
  rw [UInt8.le_iff_toNat_le, toNat_byte hn]

/-- The byte that carries six bits continues a sequence. -/
lemma isContinuation_byte {n : Nat} (hn : n < 0x40) :
    isContinuation (0x80 + n).toUInt8 = true := by
  simp only [isContinuation, Bool.and_eq_true, decide_eq_true_eq]
  rw [lt_byte (by omega), byte_lt (by omega)]
  simp
  omega

lemma payload_byte {n : Nat} (hn : n < 0x40) : payload (0x80 + n).toUInt8 = n := by
  rw [payload, toNat_byte (by omega)]
  omega

lemma decodeFrom_one {n : Nat} (hn : n < 0x80) (position : Nat) (done : List Char)
    (rest : List UInt8) : decodeFrom position done (n.toUInt8 :: rest) =
      decodeFrom (position + 1) (Char.ofNat n :: done) rest := by
  rw [decodeFrom.eq_def]
  simp only [toNat_byte (show n < 256 by omega), lt_byte (show n < 256 by omega)]
  rw [if_pos (by simpa using hn)]

lemma decodeFrom_two {n : Nat} (hlow : 0x80 ≤ n) (hn : n < 0x800) (position : Nat)
    (done : List Char) (rest : List UInt8) :
    decodeFrom position done ((0xC0 + n / 0x40).toUInt8 :: (0x80 + n % 0x40).toUInt8 :: rest) =
      decodeFrom (position + 2) (Char.ofNat n :: done) rest := by
  have hfirst : 0xC0 + n / 0x40 < 256 := by omega
  rw [decodeFrom.eq_def]
  simp only [toNat_byte hfirst, lt_byte hfirst, isContinuation_byte (Nat.mod_lt n (by decide)),
    payload_byte (Nat.mod_lt n (by decide))]
  rw [if_neg (by simp; omega), if_neg (by simp; omega), if_pos (by simp; omega)]
  have hvalue : (0xC0 + n / 0x40) % 0x20 * 0x40 + n % 0x40 = n := by omega
  rw [hvalue, if_pos trivial]

lemma byte_eq {n : Nat} (hn : n < 256) (b : UInt8) : n.toUInt8 = b ↔ n = b.toNat := by
  rw [← UInt8.toNat_inj, toNat_byte hn]

lemma decodeFrom_three {n : Nat} (hlow : 0x800 ≤ n) (hn : n < 0x10000)
    (hsurrogate : n < 0xD800 ∨ 0xE000 ≤ n) (position : Nat) (done : List Char)
    (rest : List UInt8) :
    decodeFrom position done ((0xE0 + n / 0x1000).toUInt8 :: (0x80 + n / 0x40 % 0x40).toUInt8 ::
        (0x80 + n % 0x40).toUInt8 :: rest) =
      decodeFrom (position + 3) (Char.ofNat n :: done) rest := by
  have hfirst : 0xE0 + n / 0x1000 < 256 := by omega
  have hsecond : 0x80 + n / 0x40 % 0x40 < 256 := by omega
  have hfits : secondFits (0xE0 + n / 0x1000).toUInt8 (0x80 + n / 0x40 % 0x40).toUInt8 = true := by
    simp only [secondFits, isContinuation_byte (Nat.mod_lt (n / 0x40) (show 0 < 0x40 by decide)),
      Bool.true_and, byte_eq hfirst, lt_byte hsecond, byte_lt hsecond]
    simp
    repeat' split
    all_goals omega
  rw [decodeFrom.eq_def]
  simp only [toNat_byte hfirst, lt_byte hfirst, hfits, Bool.not_true,
    isContinuation_byte (Nat.mod_lt n (show 0 < 0x40 by decide)),
    payload_byte (Nat.mod_lt n (show 0 < 0x40 by decide)),
    payload_byte (Nat.mod_lt (n / 0x40) (show 0 < 0x40 by decide))]
  rw [if_neg (by simp; omega), if_neg (by simp; omega), if_neg (by simp),
    if_pos (by simp; omega), if_neg (by simp), if_neg (by simp)]
  have hvalue : (0xE0 + n / 0x1000) % 0x10 * 0x1000 + n / 0x40 % 0x40 * 0x40 + n % 0x40 = n := by
    omega
  rw [hvalue]

lemma decodeFrom_four {n : Nat} (hlow : 0x10000 ≤ n) (hn : n < 0x110000) (position : Nat)
    (done : List Char) (rest : List UInt8) :
    decodeFrom position done ((0xF0 + n / 0x40000).toUInt8 ::
        (0x80 + n / 0x1000 % 0x40).toUInt8 :: (0x80 + n / 0x40 % 0x40).toUInt8 ::
        (0x80 + n % 0x40).toUInt8 :: rest) =
      decodeFrom (position + 4) (Char.ofNat n :: done) rest := by
  have hfirst : 0xF0 + n / 0x40000 < 256 := by omega
  have hsecond : 0x80 + n / 0x1000 % 0x40 < 256 := by omega
  have hfits :
      secondFits (0xF0 + n / 0x40000).toUInt8 (0x80 + n / 0x1000 % 0x40).toUInt8 = true := by
    simp only [secondFits, isContinuation_byte (Nat.mod_lt (n / 0x1000) (show 0 < 0x40 by decide)),
      Bool.true_and, byte_eq hfirst, lt_byte hsecond, byte_lt hsecond]
    simp
    repeat' split
    all_goals omega
  rw [decodeFrom.eq_def]
  simp only [toNat_byte hfirst, lt_byte hfirst, hfits, Bool.not_true,
    isContinuation_byte (Nat.mod_lt n (show 0 < 0x40 by decide)),
    isContinuation_byte (Nat.mod_lt (n / 0x40) (show 0 < 0x40 by decide)),
    payload_byte (Nat.mod_lt n (show 0 < 0x40 by decide)),
    payload_byte (Nat.mod_lt (n / 0x40) (show 0 < 0x40 by decide)),
    payload_byte (Nat.mod_lt (n / 0x1000) (show 0 < 0x40 by decide))]
  rw [if_neg (by simp; omega), if_neg (by simp; omega), if_neg (by simp; omega),
    if_neg (by simp), if_pos (by simp; omega), if_neg (by simp), if_neg (by simp),
    if_neg (by simp)]
  have hvalue : (0xF0 + n / 0x40000) % 0x8 * 0x40000 + n / 0x1000 % 0x40 * 0x1000 +
      n / 0x40 % 0x40 * 0x40 + n % 0x40 = n := by
    omega
  rw [hvalue]

/-- The bytes of a character are read as this character, whatever follows. -/
lemma decodeFrom_encodePoint (c : Char) (position : Nat) (done : List Char) (rest : List UInt8) :
    ∃ next, decodeFrom position done (encodePoint (CodePoint.ofChar c) ++ rest) =
      decodeFrom next (c :: done) rest := by
  have hvalid := c.valid
  simp only [UInt32.isValidChar, Nat.isValidChar] at hvalid
  have hn : c.toNat < 0xD800 ∨ 0xE000 ≤ c.toNat ∧ c.toNat < 0x110000 := by
    simp only [Char.toNat]
    omega
  have hback : Char.ofNat c.toNat = c := Char.ofNat_toNat c
  have hval : (CodePoint.ofChar c).val = c.toNat := rfl
  simp only [encodePoint, hval]
  split
  · rename_i h1
    have hread := decodeFrom_one h1 position done rest
    rw [hback] at hread
    exact ⟨_, hread⟩
  split
  · rename_i h1 h2
    have hread := decodeFrom_two (by omega) h2 position done rest
    rw [hback] at hread
    exact ⟨_, hread⟩
  split
  · rename_i h1 h2 h3
    have hread := decodeFrom_three (by omega) h3 (by omega) position done rest
    rw [hback] at hread
    exact ⟨_, hread⟩
  · rename_i h1 h2 h3
    have hread := decodeFrom_four (n := c.toNat) (by omega) (by omega) position done rest
    rw [hback] at hread
    exact ⟨_, hread⟩

lemma encode_cons (c : Char) (cs : List Char) : encode (Text.ofChars (c :: cs)) =
    encodePoint (CodePoint.ofChar c) ++ encode (Text.ofChars cs) :=
  rfl

/-- The bytes of characters are read as these characters. -/
lemma decodeFrom_encode (cs done : List Char) (position : Nat) :
    decodeFrom position done (encode (Text.ofChars cs)) = .ok (done.reverse ++ cs) := by
  induction cs generalizing done position with
  | nil => simp [encode, Text.ofChars, decodeFrom]
  | cons c rest ih =>
    obtain ⟨next, hnext⟩ := decodeFrom_encodePoint c position done (encode (Text.ofChars rest))
    rw [encode_cons, hnext, ih]
    simp

/-- The characters of a string come back from its bytes. -/
theorem decode_encodeString (s : String) : decode (encodeString s) = .ok s.toList :=
  decodeFrom_encode s.toList [] 0

/-- Different strings are written as different bytes. -/
theorem encodeString_injective {s t : String} (h : encodeString s = encodeString t) : s = t := by
  have hs := decode_encodeString s
  rw [h, decode_encodeString t] at hs
  exact (String.toList_injective (Except.ok.inj hs)).symm

/-! ## What is decoded was written so -/

/-- The number is that of a character. -/
lemma toNat_ofNat {n : Nat} (hn : n < 0xD800 ∨ 0xE000 ≤ n ∧ n < 0x110000) :
    (Char.ofNat n).toNat = n := by
  have hvalid : n.isValidChar := by
    simp only [Nat.isValidChar]
    omega
  rw [Char.ofNat, dif_pos hvalid]
  rfl

lemma isContinuation_iff (b : UInt8) :
    isContinuation b = true ↔ 0x80 ≤ b.toNat ∧ b.toNat < 0xC0 := by
  simp [isContinuation, UInt8.le_iff_toNat_le, UInt8.lt_iff_toNat_lt]

/-- The bytes of the character with a number. -/
lemma encodePoint_ofNat {n : Nat} (hn : n < 0xD800 ∨ 0xE000 ≤ n ∧ n < 0x110000) :
    encodePoint (CodePoint.ofChar (Char.ofNat n)) =
      if n < 0x80 then [n.toUInt8]
      else if n < 0x800 then [(0xC0 + n / 0x40).toUInt8, (0x80 + n % 0x40).toUInt8]
      else if n < 0x10000 then
        [(0xE0 + n / 0x1000).toUInt8, (0x80 + n / 0x40 % 0x40).toUInt8, (0x80 + n % 0x40).toUInt8]
      else
        [(0xF0 + n / 0x40000).toUInt8, (0x80 + n / 0x1000 % 0x40).toUInt8,
          (0x80 + n / 0x40 % 0x40).toUInt8, (0x80 + n % 0x40).toUInt8] := by
  have hval : (CodePoint.ofChar (Char.ofNat n)).val = n := toNat_ofNat hn
  simp only [encodePoint, hval]

lemma encodePoint_one {b : UInt8} (hb : b.toNat < 0x80) :
    encodePoint (CodePoint.ofChar (Char.ofNat b.toNat)) = [b] := by
  rw [encodePoint_ofNat (by omega), if_pos hb]
  simp

lemma encodePoint_two {b c : UInt8} (hlow : 0xC2 ≤ b.toNat) (hb : b.toNat < 0xE0)
    (hc : isContinuation c = true) :
    encodePoint (CodePoint.ofChar (Char.ofNat (b.toNat % 0x20 * 0x40 + payload c))) = [b, c] := by
  rw [isContinuation_iff] at hc
  rw [payload, encodePoint_ofNat (by omega), if_neg (by omega), if_pos (by omega)]
  simp only [List.cons.injEq, and_true]
  exact ⟨(byte_eq (by omega) b).2 (by omega), (byte_eq (by omega) c).2 (by omega)⟩

/-- A second byte that fits keeps the number of a sequence of three within the characters that need
three. -/
lemma number_three {b c : UInt8} (hlow : 0xE0 ≤ b.toNat) (hb : b.toNat < 0xF0)
    (hc : secondFits b c = true) :
    isContinuation c = true ∧ 0x20 ≤ b.toNat % 0x10 * 0x40 + payload c ∧
      (b.toNat % 0x10 * 0x40 + payload c < 0x360 ∨ 0x380 ≤ b.toNat % 0x10 * 0x40 + payload c) := by
  simp only [secondFits, Bool.and_eq_true] at hc
  have hcontinued := (isContinuation_iff c).1 hc.1
  refine ⟨hc.1, ?_⟩
  have hfits := hc.2
  simp only [← UInt8.toNat_inj, payload] at hfits ⊢
  split at hfits
  · simp [UInt8.le_iff_toNat_le] at *
    omega
  · split at hfits
    · simp [UInt8.lt_iff_toNat_lt] at *
      omega
    · simp at *
      omega

/-- A second byte that fits keeps the number of a sequence of four within the characters that need
four. -/
lemma number_four {b c : UInt8} (hlow : 0xF0 ≤ b.toNat) (hb : b.toNat < 0xF5)
    (hc : secondFits b c = true) :
    isContinuation c = true ∧ 0x10 ≤ b.toNat % 0x8 * 0x40 + payload c ∧
      b.toNat % 0x8 * 0x40 + payload c < 0x110 := by
  simp only [secondFits, Bool.and_eq_true] at hc
  have hcontinued := (isContinuation_iff c).1 hc.1
  refine ⟨hc.1, ?_⟩
  have hfits := hc.2
  simp only [← UInt8.toNat_inj, payload] at hfits ⊢
  split at hfits
  · simp at *
    omega
  split at hfits
  · simp at *
    omega
  split at hfits
  · simp [UInt8.le_iff_toNat_le] at *
    omega
  split at hfits
  · simp [UInt8.lt_iff_toNat_lt] at *
    omega
  · simp at *
    omega

lemma encodePoint_three {b c d : UInt8} (hlow : 0xE0 ≤ b.toNat) (hb : b.toNat < 0xF0)
    (hc : secondFits b c = true) (hd : isContinuation d = true) :
    encodePoint (CodePoint.ofChar
        (Char.ofNat (b.toNat % 0x10 * 0x1000 + payload c * 0x40 + payload d))) = [b, c, d] := by
  obtain ⟨hcontinued, hnumber⟩ := number_three hlow hb hc
  rw [isContinuation_iff] at hcontinued hd
  simp only [payload] at hnumber ⊢
  rw [encodePoint_ofNat (by omega), if_neg (by omega), if_neg (by omega), if_pos (by omega)]
  simp only [List.cons.injEq, and_true]
  exact ⟨(byte_eq (by omega) b).2 (by omega), (byte_eq (by omega) c).2 (by omega),
    (byte_eq (by omega) d).2 (by omega)⟩

lemma encodePoint_four {b c d e : UInt8} (hlow : 0xF0 ≤ b.toNat) (hb : b.toNat < 0xF5)
    (hc : secondFits b c = true) (hd : isContinuation d = true) (he : isContinuation e = true) :
    encodePoint (CodePoint.ofChar (Char.ofNat
        (b.toNat % 0x8 * 0x40000 + payload c * 0x1000 + payload d * 0x40 + payload e))) =
      [b, c, d, e] := by
  obtain ⟨hcontinued, hnumber⟩ := number_four hlow hb hc
  rw [isContinuation_iff] at hcontinued hd he
  simp only [payload] at hnumber ⊢
  rw [encodePoint_ofNat (by omega), if_neg (by omega), if_neg (by omega), if_neg (by omega)]
  simp only [List.cons.injEq, and_true]
  exact ⟨(byte_eq (by omega) b).2 (by omega), (byte_eq (by omega) c).2 (by omega),
    (byte_eq (by omega) d).2 (by omega), (byte_eq (by omega) e).2 (by omega)⟩

/-- What is decoded behind the characters before was written as the bytes. -/
lemma encode_of_decodeFrom {position : Nat} {done cs : List Char} {bytes : List UInt8}
    (h : decodeFrom position done bytes = .ok cs) :
    ∃ more, cs = done.reverse ++ more ∧ bytes = encode (Text.ofChars more) := by
  have htaken {done : List Char} {c : Char} {first rest : List UInt8}
      (hfirst : encodePoint (CodePoint.ofChar c) = first)
      (h : ∃ more, cs = (c :: done).reverse ++ more ∧ rest = encode (Text.ofChars more)) :
      ∃ more, cs = done.reverse ++ more ∧ first ++ rest = encode (Text.ofChars more) := by
    obtain ⟨more, rfl, rfl⟩ := h
    exact ⟨c :: more, by simp, by rw [encode_cons, hfirst]⟩
  fun_induction decodeFrom position done bytes with
  | case1 =>
    cases h
    exact ⟨[], by simp, rfl⟩
  | case2 position done b rest hb ih =>
    rw [UInt8.lt_iff_toNat_lt] at hb
    exact htaken (encodePoint_one hb) (ih h)
  | case5 position done b _ hlow hb c rest hc ih =>
    rw [UInt8.lt_iff_toNat_lt] at hlow hb
    exact htaken (encodePoint_two (Nat.le_of_not_lt hlow) hb hc) (ih h)
  | case12 position done b _ _ hlow hb c d rest hc hd ih =>
    rw [UInt8.lt_iff_toNat_lt] at hlow hb
    exact htaken (encodePoint_three (Nat.le_of_not_lt hlow) hb (by simpa using hc)
      (by simpa using hd)) (ih h)
  | case22 position done b _ _ _ hlow hb c d e rest hc hd he ih =>
    rw [UInt8.lt_iff_toNat_lt] at hlow hb
    exact htaken (encodePoint_four (Nat.le_of_not_lt hlow) hb (by simpa using hc)
      (by simpa using hd) (by simpa using he)) (ih h)
  | _ => cases h

/-- **Decoding inverts encoding**: bytes are decoded exactly if characters are written so. -/
theorem decode_eq_ok_iff {bytes : List UInt8} {cs : List Char} :
    decode bytes = .ok cs ↔ bytes = encode (Text.ofChars cs) := by
  constructor
  · intro h
    obtain ⟨more, rfl, hbytes⟩ := encode_of_decodeFrom h
    exact hbytes
  · rintro rfl
    exact decodeFrom_encode cs [] 0

end LanguageHost.Utf8
