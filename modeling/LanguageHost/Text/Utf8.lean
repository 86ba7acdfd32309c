import LanguageHost.Text.Basic

/-!
# UTF-8

Decoding is strict: it stops at the first byte sequence that no character is written as, and says
which bytes are at fault and why. A sequence is at fault from its first byte up to the first byte
that cannot continue it; where the input ends too early, up to the end of the input.
-/

namespace LanguageHost.Utf8

/-- Why a byte sequence is no character. -/
inductive Reason where
  | startByte
  | continuationByte
  | endOfData
  deriving DecidableEq, Repr

/-- The first fault of a byte text: where it starts, its first byte and how many bytes it covers. -/
structure Fault where
  position : Nat
  byte : UInt8
  length : Nat
  reason : Reason
  deriving DecidableEq, Repr

/-- The wording of a reason. -/
def Reason.message : Reason → String
  | .startByte => "invalid start byte"
  | .continuationByte => "invalid continuation byte"
  | .endOfData => "unexpected end of data"

/-- The wording of a fault; one byte is named, several are given by their positions. -/
def Fault.message (f : Fault) : String :=
  let place :=
    if f.length = 1 then
      "byte 0x" ++ String.ofList (hexDigits 2 f.byte.toNat) ++ " in position " ++
        toString f.position
    else
      "bytes in position " ++ toString f.position ++ "-" ++ toString (f.position + f.length - 1)
  "'utf-8' codec can't decode " ++ place ++ ": " ++ f.reason.message

/-- The byte can continue a sequence. -/
def isContinuation (b : UInt8) : Bool :=
  0x80 ≤ b && b < 0xC0

/-- The low six bits of a continuation byte. -/
def payload (b : UInt8) : Nat :=
  b.toNat % 0x40

/-- The byte can follow this first byte of a sequence of three or four: sequences that are longer
than needed, surrogates and values past the last code point are ruled out here. -/
def secondFits (first second : UInt8) : Bool :=
  isContinuation second &&
    (if first = 0xE0 then 0xA0 ≤ second
     else if first = 0xED then second < 0xA0
     else if first = 0xF0 then 0x90 ≤ second
     else if first = 0xF4 then second < 0x90
     else true)

/-- Decodes from a position on, in front of which lies what was decoded so far (reversed). -/
def decodeFrom (position : Nat) (done : List Char) : List UInt8 → Except Fault (List Char)
  | [] => .ok done.reverse
  | b :: rest =>
    let fault (length : Nat) (reason : Reason) : Except Fault (List Char) :=
      .error ⟨position, b, length, reason⟩
    if b < 0x80 then decodeFrom (position + 1) (Char.ofNat b.toNat :: done) rest
    else if b < 0xC2 then fault 1 .startByte
    else if b < 0xE0 then
      match rest with
      | [] => fault 1 .endOfData
      | c :: more =>
        if isContinuation c then
          decodeFrom (position + 2) (Char.ofNat (b.toNat % 0x20 * 0x40 + payload c) :: done) more
        else fault 1 .continuationByte
    else if b < 0xF0 then
      match rest with
      | [] => fault 1 .endOfData
      | [c] => if secondFits b c then fault 2 .endOfData else fault 1 .continuationByte
      | c :: d :: more =>
        if !secondFits b c then fault 1 .continuationByte
        else if !isContinuation d then fault 2 .continuationByte
        else
          decodeFrom (position + 3)
            (Char.ofNat (b.toNat % 0x10 * 0x1000 + payload c * 0x40 + payload d) :: done) more
    else if b < 0xF5 then
      match rest with
      | [] => fault 1 .endOfData
      | [c] => if secondFits b c then fault 2 .endOfData else fault 1 .continuationByte
      | [c, d] =>
        if !secondFits b c then fault 1 .continuationByte
        else if !isContinuation d then fault 2 .continuationByte
        else fault 3 .endOfData
      | c :: d :: e :: more =>
        if !secondFits b c then fault 1 .continuationByte
        else if !isContinuation d then fault 2 .continuationByte
        else if !isContinuation e then fault 3 .continuationByte
        else
          decodeFrom (position + 4)
            (Char.ofNat (b.toNat % 0x8 * 0x40000 + payload c * 0x1000 + payload d * 0x40 +
              payload e) :: done) more
    else fault 1 .startByte

/-- The characters that the bytes are written as, or the first fault. -/
def decode (bytes : List UInt8) : Except Fault (List Char) :=
  decodeFrom 0 [] bytes

/-- The bytes of a code point; a surrogate gets the three bytes its number suggests. -/
def encodePoint (c : CodePoint) : List UInt8 :=
  let n := c.val
  if n < 0x80 then [n.toUInt8]
  else if n < 0x800 then [(0xC0 + n / 0x40).toUInt8, (0x80 + n % 0x40).toUInt8]
  else if n < 0x10000 then
    [(0xE0 + n / 0x1000).toUInt8, (0x80 + n / 0x40 % 0x40).toUInt8, (0x80 + n % 0x40).toUInt8]
  else
    [(0xF0 + n / 0x40000).toUInt8, (0x80 + n / 0x1000 % 0x40).toUInt8,
      (0x80 + n / 0x40 % 0x40).toUInt8, (0x80 + n % 0x40).toUInt8]

/-- The bytes of a text. -/
def encode (t : Text) : List UInt8 :=
  t.flatMap encodePoint

/-- The bytes of a string. -/
def encodeString (s : String) : List UInt8 :=
  encode (Text.ofString s)

end LanguageHost.Utf8
