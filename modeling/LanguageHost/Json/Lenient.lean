import LanguageHost.Json.Loose

/-!
# Reading messages

The reader of what a server sends. It never says what is wrong: a text that it cannot read is
passed over. It takes more than the JSON grammar has: numbers with leading zeros, without digits on
one side of the point, or a minus sign alone, which is zero; control characters inside strings,
apart from NUL; a comma behind the last member of an object; and no number and the infinities,
signed or not.
-/

namespace LanguageHost.Json.Lenient

open Loose (skipSpace hexUnit? escaped? joinPairs digitsValue spanDigits readSign dropWord?)

/-- The most containers inside one another. -/
def maxDepth : Nat := 1024

/-- The code units of a string up to its closing quote; `done` holds those read so far, the last
one first. -/
def readUnits (done : Text) : List Char → Option (Text × List Char)
  | [] => none
  | '"' :: rest => some (done.reverse, rest)
  | '\\' :: 'u' :: a :: b :: c :: d :: rest =>
    match hexUnit? a b c d with
    | some unit => readUnits (unit :: done) rest
    | none => none
  | '\\' :: c :: rest =>
    match escaped? c with
    | some ch => readUnits (CodePoint.ofChar ch :: done) rest
    | none => none
  | c :: rest => if c = '\x00' then none else readUnits (CodePoint.ofChar c :: done) rest

/-- A string; the argument is what follows its opening quote. -/
def readString (s : List Char) : Option (Text × List Char) :=
  (readUnits [] s).map fun (units, rest) => (joinPairs units, rest)

/-- The digits behind a point; none without a point. -/
def readFraction : List Char → Option (List Char) × List Char
  | '.' :: rest =>
    let (digits, more) := spanDigits rest
    (some digits, more)
  | s => (none, s)

/-- An exponent; the letter alone makes no number. -/
def readExponent : List Char → Option (Option Int × List Char)
  | [] => some (none, [])
  | c :: rest =>
    if c = 'e' || c = 'E' then
      let (negative, more) := readSign rest
      let (digits, after) := spanDigits more
      let n : Int := digitsValue digits
      if digits.isEmpty then none else some (some (if negative then -n else n), after)
    else some (none, c :: rest)

/-- An integer of so many digits, unless it takes too long to be converted. Digits do not count as
long as a machine word holds the value. -/
def integer (negative : Bool) (digits : List Char) : Option Json :=
  let n := digitsValue digits
  if Loose.maxIntegerDigits < digits.length && 0x8000000000000000 ≤ n then none
  else some (.int (if negative then -(n : Int) else n))

/-- A number from behind its sign. -/
def readUnsigned (negative : Bool) (s : List Char) : Option (Json × List Char) :=
  let (whole, afterWhole) := spanDigits s
  let (fraction, afterFraction) := readFraction afterWhole
  match readExponent afterFraction with
  | none => none
  | some (exponent, rest) =>
    if fraction.isNone && exponent.isNone then (integer negative whole).map (·, rest)
    else
      let digits := whole ++ fraction.getD []
      if digits.isEmpty then none
      else
        let scale : Int := exponent.getD 0 - (fraction.getD []).length
        some (.float (Binary64.ofDecimal negative (digitsValue digits) scale), rest)

/-- The words that are values. -/
def constants : List (String × Json) :=
  [("null", .null), ("true", .bool true), ("false", .bool false), ("NaN", .float .nan),
    ("-NaN", .float .nan), ("Infinity", .float (.infinite false)),
    ("-Infinity", .float (.infinite true))]

/-- A constant or a number. -/
def readAtom (s : List Char) : Option (Json × List Char) :=
  let constant := constants.findSome? fun entry =>
    (dropWord? entry.1.toList s).map fun rest => (entry.2, rest)
  match constant, s with
  | some found, _ => some found
  | none, '-' :: rest => readUnsigned true rest
  | none, c :: _ => if c.isDigit then readUnsigned false s else none
  | none, [] => none

mutual

/-- A value. The first argument bounds the steps, the second the containers still to be opened. -/
def readValue : Nat → Nat → List Char → Option (Json × List Char)
  | 0, _, _ => none
  | fuel + 1, depth, s =>
    match s, depth with
    | '"' :: rest, _ => (readString rest).map fun (t, more) => (.str t, more)
    | '[' :: rest, depth + 1 =>
      match skipSpace rest with
      | ']' :: more => some (.arr [], more)
      | inside => readElements fuel depth [] inside
    | '[' :: _, 0 => none
    | '\x7b' :: rest, depth + 1 => readMembers fuel depth [] (skipSpace rest)
    | '\x7b' :: _, 0 => none
    | other, _ => readAtom other

/-- The elements of an array from the start of one on; `done` holds those before it, reversed. -/
def readElements : Nat → Nat → List Json → List Char → Option (Json × List Char)
  | 0, _, _, _ => none
  | fuel + 1, depth, done, s =>
    match readValue fuel depth s with
    | none => none
    | some (x, rest) =>
      match skipSpace rest with
      | ']' :: more => some (.arr (x :: done).reverse, more)
      | ',' :: more => readElements fuel depth (x :: done) (skipSpace more)
      | _ => none

/-- The members of an object from the start of one on, or its end; `done` holds those before it,
reversed. -/
def readMembers : Nat → Nat → List (Text × Json) → List Char → Option (Json × List Char)
  | 0, _, _, _ => none
  | fuel + 1, depth, done, s =>
    match s with
    | '\x7d' :: more => some (.obj (mergeMembers done.reverse), more)
    | '"' :: inside =>
      match readString inside with
      | none => none
      | some (key, afterKey) =>
        match skipSpace afterKey with
        | ':' :: afterColon =>
          match readValue fuel depth (skipSpace afterColon) with
          | none => none
          | some (x, rest) =>
            match skipSpace rest with
            | '\x7d' :: more => some (.obj (mergeMembers ((key, x) :: done).reverse), more)
            | ',' :: more => readMembers fuel depth ((key, x) :: done) (skipSpace more)
            | _ => none
        | _ => none
    | _ => none

end

/-- The value that a whole text holds. -/
def read (s : List Char) : Option Json :=
  match readValue (2 * s.length + 2) maxDepth (skipSpace s) with
  | some (x, rest) => if (skipSpace rest).isEmpty then some x else none
  | none => none

end LanguageHost.Json.Lenient
