import LanguageHost.Json.Basic

/-!
# Reading JSON documents

The reader of preference files and of messages. Beside the JSON grammar it accepts `NaN`,
`Infinity` and `-Infinity`, and escapes of surrogates that have no partner; of repeated keys the
last value is kept at the place of the first. A number is the longest one that starts at its place.

Every fault carries the rest of the document from the place at fault on, so positions are worked
out once, at the end, and no production counts characters.
-/

namespace LanguageHost.Json.Loose

/-- What is wrong at a place of a document. -/
inductive Fault where
  | expectingValue
  | expectingName
  | expectingColon
  | expectingComma
  | extraData
  | unterminatedString
  | controlCharacter
  | invalidEscape
  | invalidUnicodeEscape
  | byteOrderMark
  deriving DecidableEq, Repr

/-- The wording of a fault. -/
def Fault.message : Fault → String
  | .expectingValue => "Expecting value"
  | .expectingName => "Expecting property name enclosed in double quotes"
  | .expectingColon => "Expecting ':' delimiter"
  | .expectingComma => "Expecting ',' delimiter"
  | .extraData => "Extra data"
  | .unterminatedString => "Unterminated string starting at"
  | .controlCharacter => "Invalid control character at"
  | .invalidEscape => "Invalid \\escape"
  | .invalidUnicodeEscape => "Invalid \\uXXXX escape"
  | .byteOrderMark => "Unexpected UTF-8 BOM (decode using utf-8-sig)"

/-- Why no value was read. -/
inductive Stop where
  /-- The grammar is broken where this rest of the document begins. -/
  | malformed (fault : Fault) (rest : List Char)
  /-- An integer of more digits than are converted. -/
  | longInteger (digits : Nat)
  /-- More containers inside one another than are followed. -/
  | tooDeep
  deriving DecidableEq, Repr

/-- The most digits of an integer. -/
def maxIntegerDigits : Nat := 4300

/-- The most containers inside one another. -/
def maxDepth : Nat := 985

/-- Blanks between tokens. -/
def isSpace (c : Char) : Bool :=
  c = ' ' || c = '\t' || c = '\n' || c = '\r'

/-- The rest behind the blanks. -/
def skipSpace (s : List Char) : List Char :=
  s.dropWhile isSpace

/-- The value of a hexadecimal digit. -/
def hexValue? (c : Char) : Option Nat :=
  if '0' ≤ c && c ≤ '9' then some (c.toNat - 48)
  else if 'a' ≤ c && c ≤ 'f' then some (c.toNat - 87)
  else if 'A' ≤ c && c ≤ 'F' then some (c.toNat - 55)
  else none

/-- The code unit that four hexadecimal digits write. -/
def hexUnit? (a b c d : Char) : Option CodePoint := do
  let a ← hexValue? a
  let b ← hexValue? b
  let c ← hexValue? c
  let d ← hexValue? d
  let n := ((a * 16 + b) * 16 + c) * 16 + d
  if h : n < 0x110000 then some ⟨n, h⟩ else none

/-- The character behind a backslash, apart from `u`. -/
def escaped? : Char → Option Char
  | '"' => some '"'
  | '\\' => some '\\'
  | '/' => some '/'
  | 'b' => some '\x08'
  | 'f' => some '\x0c'
  | 'n' => some '\n'
  | 'r' => some '\r'
  | 't' => some '\t'
  | _ => none

/-- Every high surrogate with a low one right behind it becomes one code point. -/
def joinPairs : Text → Text
  | [] => []
  | [c] => [c]
  | c :: d :: rest =>
    if c.isHighSurrogate && d.isLowSurrogate then CodePoint.ofPair c d :: joinPairs rest
    else c :: joinPairs (d :: rest)

/-- The code units of a string up to its closing quote. `start` is the rest from the opening quote
on, `done` the units read so far, the last one first. -/
def readUnits (start : List Char) (done : Text) : List Char → Except Stop (Text × List Char)
  | [] => .error (.malformed .unterminatedString start)
  | '"' :: rest => .ok (done.reverse, rest)
  | ['\\'] => .error (.malformed .unterminatedString start)
  | '\\' :: 'u' :: a :: b :: c :: d :: e :: rest =>
    match hexUnit? a b c d with
    | some unit => readUnits start (unit :: done) (e :: rest)
    | none => .error (.malformed .invalidUnicodeEscape ('u' :: a :: b :: c :: d :: e :: rest))
  | '\\' :: 'u' :: rest => .error (.malformed .invalidUnicodeEscape ('u' :: rest))
  | '\\' :: c :: rest =>
    match escaped? c with
    | some ch => readUnits start (CodePoint.ofChar ch :: done) rest
    | none => .error (.malformed .invalidEscape ('\\' :: c :: rest))
  | c :: rest =>
    if c.toNat < 0x20 then .error (.malformed .controlCharacter (c :: rest))
    else readUnits start (CodePoint.ofChar c :: done) rest

/-- A string; the argument begins with its opening quote. -/
def readString (s : List Char) : Except Stop (Text × List Char) := do
  let (units, rest) ← readUnits s [] (s.drop 1)
  return (joinPairs units, rest)

/-- The natural number that decimal digits write. -/
def digitsValue (ds : List Char) : Nat :=
  ds.foldl (fun n d => n * 10 + (d.toNat - 48)) 0

/-- The digits at the start of a text and what follows them. -/
def spanDigits (s : List Char) : List Char × List Char :=
  (s.takeWhile Char.isDigit, s.dropWhile Char.isDigit)

/-- A fraction: a point with digits behind it. -/
def readFraction : List Char → List Char × List Char
  | '.' :: rest =>
    let (ds, more) := spanDigits rest
    if ds.isEmpty then ([], '.' :: rest) else (ds, more)
  | s => ([], s)

/-- The sign in front of an exponent's digits. -/
def readSign : List Char → Bool × List Char
  | '-' :: rest => (true, rest)
  | '+' :: rest => (false, rest)
  | s => (false, s)

/-- An exponent, if its letter has digits behind it. -/
def readExponent (s : List Char) : Option Int × List Char :=
  match s with
  | c :: rest =>
    if c = 'e' || c = 'E' then
      let (negative, more) := readSign rest
      let (ds, after) := spanDigits more
      if ds.isEmpty then (none, s)
      else
        let n : Int := digitsValue ds
        (some (if negative then -n else n), after)
    else (none, s)
  | [] => (none, [])

/-- The longest number at the start of a text without a sign; `start` is the place of its sign. -/
def readUnsigned (start : List Char) (negative : Bool) (s : List Char) :
    Except Stop (Json × List Char) :=
  let (whole, rest) :=
    match s with
    | '0' :: rest => (['0'], rest)
    | _ => spanDigits s
  if whole.isEmpty then .error (.malformed .expectingValue start)
  else
    let (fraction, afterFraction) := readFraction rest
    let (exponent, afterNumber) := readExponent afterFraction
    if fraction.isEmpty && exponent.isNone then
      if maxIntegerDigits < whole.length then .error (.longInteger whole.length)
      else
        let n : Int := digitsValue whole
        .ok (.int (if negative then -n else n), afterNumber)
    else
      let scale : Int := exponent.getD 0 - fraction.length
      .ok (.float (Binary64.ofDecimal negative (digitsValue (whole ++ fraction)) scale),
        afterNumber)

/-- The word at the start of a text, and what follows it. -/
def dropWord? : List Char → List Char → Option (List Char)
  | [], rest => some rest
  | _ :: _, [] => none
  | w :: ws, c :: rest => if w = c then dropWord? ws rest else none

/-- A constant or a number. -/
def readAtom (s : List Char) : Except Stop (Json × List Char) :=
  let word (w : String) : Option (List Char) := dropWord? w.toList s
  match word "null", word "true", word "false", word "NaN", word "Infinity", word "-Infinity" with
  | some rest, _, _, _, _, _ => .ok (.null, rest)
  | _, some rest, _, _, _, _ => .ok (.bool true, rest)
  | _, _, some rest, _, _, _ => .ok (.bool false, rest)
  | _, _, _, some rest, _, _ => .ok (.float .nan, rest)
  | _, _, _, _, some rest, _ => .ok (.float (.infinite false), rest)
  | _, _, _, _, _, some rest => .ok (.float (.infinite true), rest)
  | _, _, _, _, _, _ =>
    match s with
    | '-' :: rest => readUnsigned s true rest
    | _ => readUnsigned s false s

mutual

/-- A value. The first argument bounds the steps, the second the containers still to be opened. -/
def readValue : Nat → Nat → List Char → Except Stop (Json × List Char)
  | 0, _, _ => .error .tooDeep
  | fuel + 1, depth, s =>
    match s with
    | '"' :: _ => do
      let (t, rest) ← readString s
      return (.str t, rest)
    | '[' :: rest =>
      match depth with
      | 0 => .error .tooDeep
      | depth + 1 =>
        match skipSpace rest with
        | ']' :: more => .ok (.arr [], more)
        | inside => readElements fuel depth [] inside
    | '\x7b' :: rest =>
      match depth with
      | 0 => .error .tooDeep
      | depth + 1 =>
        match skipSpace rest with
        | '\x7d' :: more => .ok (.obj [], more)
        | inside => readMembers fuel depth [] inside
    | _ => readAtom s

/-- The elements of an array from the start of one on; `done` holds those before it, reversed. -/
def readElements : Nat → Nat → List Json → List Char → Except Stop (Json × List Char)
  | 0, _, _, _ => .error .tooDeep
  | fuel + 1, depth, done, s =>
    match readValue fuel depth s with
    | .error e => .error e
    | .ok (x, rest) =>
      match skipSpace rest with
      | ']' :: more => .ok (.arr (x :: done).reverse, more)
      | ',' :: more => readElements fuel depth (x :: done) (skipSpace more)
      | other => .error (.malformed .expectingComma other)

/-- The members of an object from the start of one on; `done` holds those before it, reversed. -/
def readMembers : Nat → Nat → List (Text × Json) → List Char → Except Stop (Json × List Char)
  | 0, _, _, _ => .error .tooDeep
  | fuel + 1, depth, done, s =>
    match s with
    | '"' :: _ =>
      match readString s with
      | .error e => .error e
      | .ok (key, afterKey) =>
        match skipSpace afterKey with
        | ':' :: more =>
          match readValue fuel depth (skipSpace more) with
          | .error e => .error e
          | .ok (x, rest) =>
            match skipSpace rest with
            | '\x7d' :: more => .ok (.obj (mergeMembers ((key, x) :: done).reverse), more)
            | ',' :: more => readMembers fuel depth ((key, x) :: done) (skipSpace more)
            | other => .error (.malformed .expectingComma other)
        | other => .error (.malformed .expectingColon other)
    | _ => .error (.malformed .expectingName s)

end

/-- The value that a whole document holds. -/
def read (document : List Char) : Except Stop Json := do
  if document.head? = some '\ufeff' then
    throw (.malformed .byteOrderMark document)
  let (x, rest) ← readValue (2 * document.length + 2) maxDepth (skipSpace document)
  match skipSpace rest with
  | [] => return x
  | more => throw (.malformed .extraData more)

/-- The wording of a fault at the place where `rest` begins: line and column count from one, the
number of the character from zero. -/
def faultMessage (document : List Char) (fault : Fault) (rest : List Char) : String :=
  let before := document.take (document.length - rest.length)
  let line := before.count '\n' + 1
  let column := (before.reverse.takeWhile (· ≠ '\n')).length + 1
  fault.message ++ ": line " ++ toString line ++ " column " ++ toString column ++ " (char " ++
    toString before.length ++ ")"

end LanguageHost.Json.Loose
