import LanguageHost.Json.Loose

/-!
# Reading schema texts

The reader of the schema preference. It differs from the reader of documents in what it refuses: a
surrogate without its partner, more than two hundred containers around a value, and an integer part
of more than 4300 digits. It keeps repeated members, because each of them is checked.

Places are lines and columns in bytes. As in `Json.Loose`, a fault carries the rest of the text.
-/

namespace LanguageHost.Json.Strict

open Loose (isSpace skipSpace hexUnit? escaped? digitsValue spanDigits readSign)

/-- What is wrong at a place of a schema text. -/
inductive Fault where
  | valueEnds
  | listEnds
  | objectEnds
  | stringEnds
  | expectedValue
  | expectedIdent
  | invalidNumber
  | numberOutOfRange
  | controlCharacter
  | invalidEscape
  | loneSurrogate
  | unpairedEscape
  | expectedListComma
  | expectedObjectComma
  | expectedColon
  | keyNotString
  | trailingComma
  | trailingCharacters
  | tooDeep
  deriving DecidableEq, Repr

/-- The wording of a fault. -/
def Fault.message : Fault → String
  | .valueEnds => "EOF while parsing a value"
  | .listEnds => "EOF while parsing a list"
  | .objectEnds => "EOF while parsing an object"
  | .stringEnds => "EOF while parsing a string"
  | .expectedValue => "expected value"
  | .expectedIdent => "expected ident"
  | .invalidNumber => "invalid number"
  | .numberOutOfRange => "number out of range"
  | .controlCharacter => "control character (\\u0000-\\u001F) found while parsing a string"
  | .invalidEscape => "invalid escape"
  | .loneSurrogate => "lone leading surrogate in hex escape"
  | .unpairedEscape => "unexpected end of hex escape"
  | .expectedListComma => "expected \x60,\x60 or \x60]\x60"
  | .expectedObjectComma => "expected \x60,\x60 or \x60\x7d\x60"
  | .expectedColon => "expected \x60:\x60"
  | .keyNotString => "key must be a string"
  | .trailingComma => "trailing comma"
  | .trailingCharacters => "trailing characters"
  | .tooDeep => "recursion limit exceeded"

/-- A fault and the rest of the text from its place on. -/
structure Stop where
  fault : Fault
  rest : List Char
  deriving DecidableEq, Repr

/-- The most containers around a value. -/
def maxDepth : Nat := 200

/-- The rest behind a word, or the fault at the first character that differs from it. -/
def readWord : List Char → List Char → Except Stop (List Char)
  | [], s => .ok s
  | _ :: _, [] => .error ⟨.valueEnds, []⟩
  | w :: ws, c :: rest => if w = c then readWord ws rest else .error ⟨.expectedIdent, c :: rest⟩

/-- The number of bytes of a text. -/
def byteCount (s : List Char) : Nat :=
  s.foldl (fun n c => n + c.utf8Size) 0

/-- The code unit of a `\u` escape, from behind its `u`. The third component is the rest from the
last digit on, which is where a lone surrogate is reported. -/
def readUnit (s : List Char) : Except Stop (CodePoint × List Char × List Char) :=
  if byteCount (s.take 4) < 4 then .error ⟨.stringEnds, []⟩
  else
    match s with
    | a :: b :: c :: d :: rest =>
      match hexUnit? a b c d with
      | some unit => .ok (unit, rest, d :: rest)
      | none => .error ⟨.invalidEscape, s.dropWhile fun ch => (Loose.hexValue? ch).isSome⟩
    | _ => .error ⟨.invalidEscape, s.dropWhile fun ch => (Loose.hexValue? ch).isSome⟩

/-- The second half of a surrogate pair, from behind the first half on. -/
def readLowHalf (s : List Char) : Except Stop (CodePoint × List Char) :=
  match s with
  | [] => .error ⟨.stringEnds, []⟩
  | '\\' :: [] => .error ⟨.stringEnds, []⟩
  | '\\' :: 'u' :: rest =>
    match readUnit rest with
    | .error e => .error e
    | .ok (low, more, last) =>
      if low.isLowSurrogate then .ok (low, more) else .error ⟨.loneSurrogate, last⟩
  | '\\' :: other => .error ⟨.unpairedEscape, other⟩
  | other => .error ⟨.unpairedEscape, other⟩

/-- The code point of a `\u` escape, or of two of them for a surrogate pair. -/
def readEscapedPoint (s : List Char) : Except Stop (CodePoint × List Char) :=
  match readUnit s with
  | .error e => .error e
  | .ok (unit, rest, last) =>
    if unit.isLowSurrogate then .error ⟨.loneSurrogate, last⟩
    else if unit.isHighSurrogate then
      match readLowHalf rest with
      | .error e => .error e
      | .ok (low, more) => .ok (CodePoint.ofPair unit low, more)
    else .ok (unit, rest)

/-- The code points of a string from behind its opening quote. -/
def readPoints : Nat → Text → List Char → Except Stop (Text × List Char)
  | 0, _, s => .error ⟨.tooDeep, s⟩
  | fuel + 1, done, s =>
    match s with
    | [] => .error ⟨.stringEnds, []⟩
    | '"' :: rest => .ok (done.reverse, rest)
    | '\\' :: [] => .error ⟨.stringEnds, []⟩
    | '\\' :: 'u' :: rest =>
      match readEscapedPoint rest with
      | .error e => .error e
      | .ok (c, more) => readPoints fuel (c :: done) more
    | '\\' :: c :: rest =>
      match escaped? c with
      | some ch => readPoints fuel (CodePoint.ofChar ch :: done) rest
      | none => .error ⟨.invalidEscape, c :: rest⟩
    | c :: rest =>
      if c.toNat < 0x20 then .error ⟨.controlCharacter, c :: rest⟩
      else readPoints fuel (CodePoint.ofChar c :: done) rest

/-- A string; the argument is what follows its opening quote. -/
def readString (s : List Char) : Except Stop (Text × List Char) :=
  readPoints (s.length + 1) [] s

/-- The digits that must stand at the start of a text. -/
def readDigits (s : List Char) : Except Stop (List Char × List Char) :=
  match spanDigits s with
  | ([], []) => .error ⟨.valueEnds, []⟩
  | ([], rest) => .error ⟨.invalidNumber, rest⟩
  | found => .ok found

/-- The integer part of a number: one zero, or digits that start with another one. -/
def readWhole (s : List Char) : Except Stop (List Char × List Char) :=
  match s with
  | '0' :: rest =>
    match rest with
    | d :: _ => if d.isDigit then .error ⟨.invalidNumber, rest⟩ else .ok (['0'], rest)
    | [] => .ok (['0'], [])
  | _ =>
    match readDigits s with
    | .error e => .error e
    | .ok (ds, rest) =>
      if Loose.maxIntegerDigits < ds.length then
        .error ⟨.numberOutOfRange, s.drop (Loose.maxIntegerDigits + 1)⟩
      else .ok (ds, rest)

/-- The digits of a fraction, none when there is no point. -/
def readFraction (s : List Char) : Except Stop (List Char × List Char) :=
  match s with
  | '.' :: rest => readDigits rest
  | _ => .ok ([], s)

/-- The exponent, if its letter is there. -/
def readExponent (s : List Char) : Except Stop (Option Int × List Char) :=
  match s with
  | c :: rest =>
    if c = 'e' || c = 'E' then
      let (negative, more) := readSign rest
      match readDigits more with
      | .error e => .error e
      | .ok (ds, after) =>
        let n : Int := digitsValue ds
        .ok (some (if negative then -n else n), after)
    else .ok (none, s)
  | [] => .ok (none, [])

/-- A number from behind its sign. -/
def readUnsigned (negative : Bool) (s : List Char) : Except Stop (Json × List Char) :=
  match readWhole s with
  | .error e => .error e
  | .ok (whole, afterWhole) =>
    match readFraction afterWhole with
    | .error e => .error e
    | .ok (fraction, afterFraction) =>
      match readExponent afterFraction with
      | .error e => .error e
      | .ok (exponent, rest) =>
        if fraction.isEmpty && exponent.isNone then
          let n : Int := digitsValue whole
          .ok (.int (if negative then -n else n), rest)
        else
          let scale : Int := exponent.getD 0 - fraction.length
          .ok (.float (Binary64.ofDecimal negative (digitsValue (whole ++ fraction)) scale), rest)

/-- A constant that is given by its word. -/
def readConstant (word : String) (x : Json) (s : List Char) : Except Stop (Json × List Char) :=
  match readWord word.toList s with
  | .error e => .error e
  | .ok rest => .ok (x, rest)

/-- A constant or a number. -/
def readAtom (s : List Char) : Except Stop (Json × List Char) :=
  match s with
  | [] => .error ⟨.valueEnds, []⟩
  | 'n' :: _ => readConstant "null" .null s
  | 't' :: _ => readConstant "true" (.bool true) s
  | 'f' :: _ => readConstant "false" (.bool false) s
  | 'N' :: _ => readConstant "NaN" (.float .nan) s
  | 'I' :: _ => readConstant "Infinity" (.float (.infinite false)) s
  | '-' :: rest =>
    match rest with
    | 'I' :: _ => readConstant "Infinity" (.float (.infinite true)) rest
    | _ => readUnsigned true rest
  | c :: _ => if c.isDigit then readUnsigned false s else .error ⟨.expectedValue, s⟩

mutual

/-- A value. The first argument bounds the steps, the second the containers still to be opened
before a value in them is refused. -/
def readValue : Nat → Nat → List Char → Except Stop (Json × List Char)
  | 0, _, s => .error ⟨.tooDeep, s⟩
  | _ + 1, _, [] => .error ⟨.valueEnds, []⟩
  | _ + 1, 0, c :: rest => .error ⟨.tooDeep, c :: rest⟩
  | fuel + 1, depth + 1, c :: rest =>
    match c with
    | '"' =>
      match readString rest with
      | .error e => .error e
      | .ok (t, more) => .ok (.str t, more)
    | '[' =>
      match skipSpace rest with
      | [] => .error ⟨.listEnds, []⟩
      | ']' :: more => .ok (.arr [], more)
      | inside => readElements fuel depth [] inside
    | '\x7b' =>
      match skipSpace rest with
      | [] => .error ⟨.objectEnds, []⟩
      | '\x7d' :: more => .ok (.obj [], more)
      | '"' :: more => readMembers fuel depth [] more
      | other => .error ⟨.keyNotString, other⟩
    | _ => readAtom (c :: rest)

/-- The elements of an array from the start of one on; `done` holds those before it, reversed. -/
def readElements : Nat → Nat → List Json → List Char → Except Stop (Json × List Char)
  | 0, _, _, s => .error ⟨.tooDeep, s⟩
  | fuel + 1, depth, done, s =>
    match readValue fuel depth s with
    | .error e => .error e
    | .ok (x, rest) =>
      match skipSpace rest with
      | [] => .error ⟨.listEnds, []⟩
      | ']' :: more => .ok (.arr (x :: done).reverse, more)
      | ',' :: more =>
        match skipSpace more with
        | ']' :: after => .error ⟨.trailingComma, ']' :: after⟩
        | next => readElements fuel depth (x :: done) next
      | other => .error ⟨.expectedListComma, other⟩

/-- The members of an object from behind the opening quote of a key on. -/
def readMembers : Nat → Nat → List (Text × Json) → List Char → Except Stop (Json × List Char)
  | 0, _, _, s => .error ⟨.tooDeep, s⟩
  | fuel + 1, depth, done, s =>
    match readString s with
    | .error e => .error e
    | .ok (key, afterKey) =>
      match skipSpace afterKey with
      | [] => .error ⟨.objectEnds, []⟩
      | ':' :: afterColon =>
        match readValue fuel depth (skipSpace afterColon) with
        | .error e => .error e
        | .ok (x, rest) =>
          match skipSpace rest with
          | [] => .error ⟨.objectEnds, []⟩
          | '\x7d' :: more => .ok (.obj ((key, x) :: done).reverse, more)
          | ',' :: more =>
            match skipSpace more with
            | [] => .error ⟨.valueEnds, []⟩
            | '"' :: next => readMembers fuel depth ((key, x) :: done) next
            | '\x7d' :: after => .error ⟨.trailingComma, '\x7d' :: after⟩
            | other => .error ⟨.keyNotString, other⟩
          | other => .error ⟨.expectedObjectComma, other⟩
      | other => .error ⟨.expectedColon, other⟩

end

/-- The value that a whole text holds, with repeated members as they are. -/
def read (s : List Char) : Except Stop Json :=
  match readValue (2 * s.length + 2) (maxDepth + 1) (skipSpace s) with
  | .error e => .error e
  | .ok (x, rest) =>
    match skipSpace rest with
    | [] => .ok x
    | more => .error ⟨.trailingCharacters, more⟩

/-- Line and column of the place where `rest` begins in a text. The byte at that place counts as
seen, so a line feed there already opens the next line. -/
def place (s rest : List Char) : Nat × Nat :=
  let before := s.take (s.length - rest.length)
  let seen := before ++ rest.take 1
  let tail := (seen.reverse.takeWhile (· ≠ '\n')).reverse
  let beyond := (rest.take 1).foldl (fun n c => n + (c.utf8Size - 1)) 0
  (seen.count '\n' + 1, byteCount tail - beyond)

/-- The wording of a fault with its place. -/
def Stop.message (s : List Char) (stop : Stop) : String :=
  let (line, column) := place s stop.rest
  stop.fault.message ++ " at line " ++ toString line ++ " column " ++ toString column

end LanguageHost.Json.Strict
