import LanguageHost.Child.Scope
import LanguageHost.Text.Utf8

/-!
# Printed words

What the commands that print words make of them: backslash escapes, and formats whose directives
take the words one after another. The result is bytes, because an escape may stand for any byte.

There are two dialects. The one of programs knows a few more escapes than the one of scripts.
-/

namespace LanguageHost.Printed

/-- Whose rules the printing follows. -/
inductive Dialect where
  | script
  | program
  deriving DecidableEq, Repr

/-- The value of digits of a base. -/
def digitsValue (base : Nat) (digits : List Char) : Nat :=
  digits.foldl (fun n c => n * base + (Json.Loose.hexValue? c).getD 0) 0

/-- The character is an octal digit. -/
def isOctal (c : Char) : Bool :=
  '0' ≤ c && c ≤ '7'

/-- The character is a hexadecimal digit. -/
def isHex (c : Char) : Bool :=
  (Json.Loose.hexValue? c).isSome

/-- The character that a letter behind a backslash stands for. -/
def namedEscape? (dialect : Dialect) (c : Char) : Option Nat :=
  match c with
  | 'a' => some 7
  | 'b' => some 8
  | 't' => some 9
  | 'n' => some 10
  | 'v' => some 11
  | 'f' => some 12
  | 'r' => some 13
  | '\\' => some 92
  | 'e' => if dialect = .program then some 27 else none
  | _ => none

/-- The byte that digits behind a backslash stand for, and how many characters they are. In a word
an octal number may have a zero in front of its three digits. -/
def numberedEscape? (dialect : Dialect) (isWord : Bool) (s : List Char) : Option (UInt8 × Nat) :=
  let octal := s.takeWhile isOctal
  if octal.isEmpty then
    match s with
    | 'x' :: rest =>
      let digits := (rest.takeWhile isHex).take 2
      if dialect = .program && !digits.isEmpty then
        some (UInt8.ofNat (digitsValue 16 digits), digits.length + 1)
      else none
    | _ => none
  else
    let digits := octal.take (if isWord && octal.head? = some '0' then 4 else 3)
    some (UInt8.ofNat (digitsValue 8 digits), digits.length)

/-- A text with its escapes replaced; the second component says that an escape ends all output. -/
def unescape (dialect : Dialect) (isWord : Bool) : Nat → List Char → List UInt8 × Bool
  | 0, _ | _, [] => ([], false)
  | fuel + 1, c :: rest =>
    let go (bytes : List UInt8) (rest : List Char) : List UInt8 × Bool :=
      let (more, isOver) := unescape dialect isWord fuel rest
      (bytes ++ more, isOver)
    if c ≠ '\\' then go (Utf8.encodeString (String.singleton c)) rest
    else
      match numberedEscape? dialect isWord rest, rest with
      | some (b, n), _ => go [b] (rest.drop n)
      | none, d :: more =>
        if d = 'c' && isWord then ([], true)
        else
          match namedEscape? dialect d with
          | some n => go [UInt8.ofNat n] more
          | none => go [92] rest
      | none, [] => go [92] rest

/-- A word with its escapes replaced. -/
def unescapeWord (dialect : Dialect) (word : String) : List UInt8 × Bool :=
  unescape dialect true (word.length + 1) word.toList

/-- The bytes of words with blanks between them. -/
def joined (words : List String) : List UInt8 :=
  Utf8.encodeString (" ".intercalate words)

/-- What the words in front of printed words ask for: no line end, and whether escapes count. -/
def echoOptions (dialect : Dialect) : List String → Bool × Option Bool × List String
  | "-n" :: rest =>
    if dialect = .script then (true, none, rest)
    else
      let (_, escapes, words) := echoOptions dialect rest
      (true, escapes, words)
  | word :: rest =>
    if dialect = .program && (word = "-e" || word = "-E") then
      let (isOpen, escapes, words) := echoOptions dialect rest
      (isOpen, escapes.or (some (word = "-e")), words)
    else (false, none, word :: rest)
  | [] => (false, none, [])

/-- Words as they are printed. -/
def echo (dialect : Dialect) (words : List String) : List UInt8 :=
  let (isOpen, escapes, words) := echoOptions dialect words
  let (bytes, isOver) :=
    if escapes.getD (dialect = .script) then unescapeWord dialect (" ".intercalate words)
    else (joined words, false)
  if isOpen || isOver then bytes else bytes ++ [10]

/-! ## Formats -/

/-- A directive of a format: its flags, the least width, the precision, and the letter. -/
structure Directive where
  flags : List Char
  width : Nat
  precision : Option Nat
  letter : Char

/-- The directive behind a percent sign, and what follows it. -/
def directive? (s : List Char) : Option (Directive × List Char) :=
  let flags := s.takeWhile fun c => c = '-' || c = '+' || c = ' ' || c = '0' || c = '#'
  let s := s.drop flags.length
  let width := s.takeWhile Char.isDigit
  let s := s.drop width.length
  let (precision, s) := match s with
    | '.' :: rest =>
      let digits := rest.takeWhile Char.isDigit
      (some (digitsValue 10 digits), rest.drop digits.length)
    | s => (none, s)
  match s with
  | letter :: rest => some (⟨flags, digitsValue 10 width, precision, letter⟩, rest)
  | [] => none

/-- The number that a word is, and whether it is one. -/
def number (word : String) : Int × Bool :=
  let (isNegative, cs) := match word.toList with
    | '-' :: rest => (true, rest)
    | '+' :: rest => (false, rest)
    | cs => (false, cs)
  let (base, digits) := match cs with
    | '0' :: 'x' :: rest => (16, rest)
    | '0' :: d :: rest => (8, d :: rest)
    | cs => (10, cs)
  match cs with
  | ['\x27', c] | ['"', c] => (c.toNat, true)
  | cs =>
    let isDigit (c : Char) : Bool :=
      match base with
      | 16 => isHex c
      | 8 => isOctal c
      | _ => c.isDigit
    let good := digits.takeWhile isDigit
    let n : Int := digitsValue base good
    (if isNegative then -n else n, cs.isEmpty || (good.length = digits.length && !good.isEmpty))

/-- Puts blanks or zeros beside a text until it is wide enough. -/
def Directive.pad (d : Directive) (isNumber : Bool) (bytes : List UInt8) : List UInt8 :=
  let missing := d.width - bytes.length
  if d.flags.contains '-' then bytes ++ List.replicate missing 32
  else if isNumber && d.flags.contains '0' && d.precision.isNone then
    match bytes with
    | 45 :: rest => 45 :: List.replicate missing 48 ++ rest
    | bytes => List.replicate missing 48 ++ bytes
  else List.replicate missing 32 ++ bytes

/-- A whole number with as many digits as a precision asks for. -/
def Directive.writeNumber (d : Directive) (n : Int) (digits : List Char) : List UInt8 :=
  let sign := if n < 0 then "-" else if d.flags.contains '+' then "+"
    else if d.flags.contains ' ' then " " else ""
  let zeros := List.replicate (d.precision.getD 1 - digits.length) '0'
  d.pad true (Utf8.encodeString (sign ++ String.ofList (zeros ++ digits)))

/-- The numbers below zero as they are written without a sign. -/
def unsigned (n : Int) : Nat :=
  if n < 0 then (n + (Nat.pow 2 64 : Nat)).toNat else n.toNat

/-- What a directive writes for a word: the bytes, whether the word fits, and whether all output
ends. The result is none if there is no such directive. -/
def Directive.write (d : Directive) (dialect : Dialect) (word : String) :
    Option (List UInt8 × Bool × Bool) :=
  let text (bytes : List UInt8) : List UInt8 :=
    d.pad false (match d.precision with
      | some n => bytes.take n
      | none => bytes)
  let (n, fits) := number word
  let natural (base : Nat) : List Char := Nat.toDigits base (unsigned n)
  match d.letter with
  | 's' => some (text (Utf8.encodeString word), true, false)
  | 'b' =>
    let (bytes, isOver) := unescapeWord dialect word
    some (text bytes, true, isOver)
  | 'c' => some (d.pad false ((Utf8.encodeString word).take 1), true, false)
  | 'd' | 'i' => some (d.writeNumber n (Nat.toDigits 10 n.natAbs), fits, false)
  | 'u' => some (d.writeNumber 0 (natural 10), fits, false)
  | 'o' => some (d.writeNumber 0 (natural 8), fits, false)
  | 'x' => some (d.writeNumber 0 (natural 16), fits, false)
  | 'X' => some (d.writeNumber 0 ((natural 16).map Char.toUpper), fits, false)
  | _ => none

/-- What one use of a format comes to. -/
structure Filled where
  bytes : List UInt8
  /-- The words that the format has not taken. -/
  left : List String
  /-- A word does not fit its directive. -/
  isFlawed : Bool
  /-- There is nothing to be written behind this. -/
  isOver : Bool

/-- What a format has come to with these bytes in front. -/
def Filled.behind (bytes : List UInt8) (f : Filled) : Filled :=
  { f with bytes := bytes ++ f.bytes }

/-- Fills words into a format. -/
def fill (dialect : Dialect) : Nat → List Char → List String → Filled
  | 0, _, words | _, [], words => ⟨[], words, false, false⟩
  | fuel + 1, c :: rest, words =>
    match c, rest with
    | '%', '%' :: rest => (fill dialect fuel rest words).behind [37]
    | '%', rest =>
      match directive? rest with
      | none => ⟨[], words, true, true⟩
      | some (d, rest) =>
        match d.write dialect (words.headD "") with
        | none => ⟨[], words, true, true⟩
        | some (bytes, fits, isOver) =>
          if isOver then ⟨bytes, [], !fits, true⟩
          else
            let filled := (fill dialect fuel rest (words.drop 1)).behind bytes
            { filled with isFlawed := filled.isFlawed || !fits }
    | '\\', rest =>
      match numberedEscape? dialect false rest, rest with
      | some (b, n), _ => (fill dialect fuel (rest.drop n) words).behind [b]
      | none, d :: more =>
        match namedEscape? dialect d with
        | some n => (fill dialect fuel more words).behind [UInt8.ofNat n]
        | none => (fill dialect fuel rest words).behind [92]
      | none, [] => ⟨[92], words, false, false⟩
    | c, rest => (fill dialect fuel rest words).behind (Utf8.encodeString (String.singleton c))

/-- Fills words into a format again and again until none is left, at most so many times. -/
def fillAll (dialect : Dialect) (format : String) : Nat → List String → Filled
  | 0, words => ⟨[], words, false, true⟩
  | fuel + 1, words =>
    let filled := fill dialect (format.length + 1) format.toList words
    if filled.isOver || filled.left.isEmpty || filled.left.length = words.length then filled
    else
      let more := (fillAll dialect format fuel filled.left).behind filled.bytes
      { more with isFlawed := more.isFlawed || filled.isFlawed }

/-- What a format and its words are printed as, and the status. -/
def format (dialect : Dialect) (words : List String) : List UInt8 × Int :=
  let words := if words.head? = some "--" then words.drop 1 else words
  match words with
  | [] => ([], if dialect = .script then 2 else 1)
  | format :: words =>
    let filled := fillAll dialect format (words.length + 1) words
    (filled.bytes, if filled.isFlawed then 1 else 0)

end LanguageHost.Printed
