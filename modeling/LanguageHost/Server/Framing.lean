import LanguageHost.Json.Lenient
import LanguageHost.Json.Printer
import LanguageHost.Text.Utf8

/-!
# Framing

Messages travel as frames: a header of lines that a blank line ends, and a body. Only the first
line of a header says the length of the body. A body without a length is everything that is left,
and so is one with the length -1. A first line whose length cannot be read is a frame by itself.

Bytes in hand and a pipe differ in other negative lengths: in hand they mean everything that is
left, but nothing can be read from a pipe then, and the header is a frame by itself.
-/

namespace LanguageHost.Framing

/-- Where bytes are read from. -/
inductive Source where
  /-- All of them are in hand. -/
  | hand
  /-- They come through a pipe, and more of them may come until it has ended. -/
  | pipe (ended : Bool)
  deriving DecidableEq, Repr

/-- No more bytes will come. -/
def Source.isOver : Source → Bool
  | hand => true
  | pipe ended => ended

/-- What stands at the start of bytes that are read. -/
inductive Next where
  /-- A frame's body, and what follows it. -/
  | body (bytes rest : List UInt8)
  /-- A header with a length that no bytes can be read by, and what follows it. -/
  | badLength (rest : List UInt8)
  /-- A header with a length that no body can have. -/
  | tooLong
  /-- More bytes have to come before the frame is whole. -/
  | wait
  /-- The bytes end before a frame's body. -/
  | done

/-- The line at the start of bytes, its end included, and what follows it. -/
def spanLine (bytes : List UInt8) : List UInt8 × List UInt8 :=
  let line := bytes.takeWhile (· ≠ 0x0A)
  (bytes.take (line.length + 1), bytes.drop (line.length + 1))

/-- A blank of the ASCII range. -/
def isBlankByte (b : UInt8) : Bool :=
  b = 0x20 || (0x09 ≤ b && b ≤ 0x0D)

/-- Nothing but blanks. -/
def isBlankLine (line : List UInt8) : Bool :=
  line.all isBlankByte

/-- The bytes without the blanks at their ends. -/
def trimBytes (bytes : List UInt8) : List UInt8 :=
  ((bytes.dropWhile isBlankByte).reverse.dropWhile isBlankByte).reverse

/-- The start of a line that says a length. -/
def lengthMark : List UInt8 :=
  Utf8.encodeString "Content-Length: "

/-- The bytes contain others. -/
def contains (part : List UInt8) : List UInt8 → Bool
  | [] => part.isEmpty
  | b :: rest => part.isPrefixOf (b :: rest) || contains part rest

/-- Decimal digits, with single underscores between them. `expectDigit` says that the next byte
has to be a digit. -/
def readDigits (expectDigit : Bool) (n : Nat) : List UInt8 → Option Nat
  | [] => if expectDigit then none else some n
  | b :: rest =>
    if 0x30 ≤ b && b ≤ 0x39 then readDigits false (n * 10 + (b.toNat - 0x30)) rest
    else if b = 0x5F && !expectDigit then readDigits true n rest
    else none

/-- An integer with an optional sign, unless it has too many digits to be converted. -/
def readInteger (bytes : List UInt8) : Option Int :=
  let digits := bytes.countP fun b => 0x30 ≤ b && b ≤ 0x39
  if Json.Loose.maxIntegerDigits < digits then none
  else
    match trimBytes bytes with
    | 0x2B :: rest => (readDigits true 0 rest).map fun n => (n : Int)
    | 0x2D :: rest => (readDigits true 0 rest).map fun n => -(n : Int)
    | other => (readDigits true 0 other).map fun n => (n : Int)

/-- A length that fits into a machine word with a sign. -/
def isWordSized (n : Int) : Bool :=
  -0x8000000000000000 ≤ n && n < 0x8000000000000000

/-- The length that a first line says: none if it says none. -/
def lengthOf (line : List UInt8) : Except Unit (Option Int) :=
  if !lengthMark.isPrefixOf line then .ok none
  else
    let value := line.drop lengthMark.length
    if contains lengthMark value then .error ()
    else
      match readInteger value with
      | some n => .ok (some n)
      | none => .error ()

/-- A line has come in completely. -/
def isWhole (source : Source) (line : List UInt8) : Bool :=
  source.isOver || line.getLast? = some 0x0A

/-- What follows the blank line that ends a header; none if there is none. -/
def skipHeader (source : Source) : Nat → List UInt8 → Option (List UInt8)
  | 0, _ => none
  | fuel + 1, bytes =>
    let (line, rest) := spanLine bytes
    if line.isEmpty || !isWhole source line then none
    else if isBlankLine line then some rest
    else skipHeader source fuel rest

/-- The body with a length at the start of bytes; without a length it is all of them. -/
def takeBody (source : Source) (length : Option Int) (bytes : List UInt8) : Next :=
  match length with
  | some (.ofNat n) =>
    if bytes.length < n && !source.isOver then .wait else .body (bytes.take n) (bytes.drop n)
  | some (.negSucc (_ + 1)) =>
    match source with
    | .hand => .body bytes []
    | .pipe _ => .badLength bytes
  | some (.negSucc 0) | none => if source.isOver then .body bytes [] else .wait

/-- The first frame of bytes. -/
def next (source : Source) (bytes : List UInt8) : Next :=
  let (line, rest) := spanLine bytes
  if !isWhole source line then .wait
  else if line.isEmpty then .done
  else
    match lengthOf line with
    | .error () => .badLength rest
    | .ok length =>
      let behind :=
        if isBlankLine line then some rest else skipHeader source (rest.length + 1) rest
      match behind with
      | none => if source.isOver then .done else .wait
      | some body =>
        if isWordSized (length.getD 0) then takeBody source length body else .tooLong

/-- The message in a body; none if it cannot be read. -/
def parse? (bytes : List UInt8) : Option Json :=
  match Utf8.decode bytes with
  | .error _ => none
  | .ok document => Json.Lenient.read document

/-- A message as a frame. -/
def frame (message : Json) : List UInt8 :=
  let body := Utf8.encodeString message.compact
  let header := "Content-Length: " ++ toString body.length ++
    "\r\nContent-Type: application/vscode-jsonrpc; charset=utf8\r\n\r\n"
  Utf8.encodeString header ++ body

end LanguageHost.Framing
