import LanguageHost.Json.Basic

/-!
# JSON output

Output is pure ASCII: every code point outside the printable ASCII range is escaped, those beyond
`U+FFFF` as a surrogate pair. The compact form has a blank after each comma and colon; the indented
form has one element or member a line, and empty containers on one.
-/

namespace LanguageHost.Json

/-- The escape of a code unit by its number. -/
def unitEscape (n : Nat) : List Char :=
  '\\' :: 'u' :: hexDigits 4 n

/-- One code point of a string. -/
def writePoint (c : CodePoint) : List Char :=
  let n := c.val
  if n = 0x22 then ['\\', '"']
  else if n = 0x5C then ['\\', '\\']
  else if n = 0x0A then ['\\', 'n']
  else if n = 0x0D then ['\\', 'r']
  else if n = 0x09 then ['\\', 't']
  else if n = 0x08 then ['\\', 'b']
  else if n = 0x0C then ['\\', 'f']
  else if 0x20 ≤ n && n ≤ 0x7E then [Char.ofNat n]
  else if n < 0x10000 then unitEscape n
  else
    let offset := n - 0x10000
    unitEscape (0xD800 + offset / 0x400) ++ unitEscape (0xDC00 + offset % 0x400)

/-- A string with its quotes. -/
def writeText (t : Text) : List Char :=
  '"' :: t.flatMap writePoint ++ ['"']

/-- The text of a number, a constant or a string; empty for a container. -/
def writeScalar : Json → List Char
  | .null => "null".toList
  | .bool true => "true".toList
  | .bool false => "false".toList
  | .int n => (toString n).toList
  | .float x => (Binary64.text "NaN" "Infinity" x).toList
  | .str t => writeText t
  | .arr _ | .obj _ => []

mutual

/-- The compact form. -/
def write : Json → List Char
  | .arr xs => '[' :: writeElements xs
  | .obj ms => '\x7b' :: writeMembers ms
  | .null => writeScalar .null
  | .bool b => writeScalar (.bool b)
  | .int n => writeScalar (.int n)
  | .float x => writeScalar (.float x)
  | .str t => writeScalar (.str t)

/-- The elements of an array and its closing bracket. -/
def writeElements : List Json → List Char
  | [] => [']']
  | [x] => write x ++ [']']
  | x :: y :: rest => write x ++ ',' :: ' ' :: writeElements (y :: rest)

/-- The members of an object and its closing brace. -/
def writeMembers : List (Text × Json) → List Char
  | [] => ['\x7d']
  | [(k, x)] => writeText k ++ ':' :: ' ' :: write x ++ ['\x7d']
  | (k, x) :: m :: rest =>
    writeText k ++ ':' :: ' ' :: write x ++ ',' :: ' ' :: writeMembers (m :: rest)

end

/-- A line end and the indentation of a nesting depth. -/
def lineBreak (depth : Nat) : List Char :=
  '\n' :: List.replicate (2 * depth) ' '

mutual

/-- The indented form at a nesting depth. -/
def writeIndented (depth : Nat) : Json → List Char
  | .arr [] => ['[', ']']
  | .arr (x :: xs) => '[' :: lineBreak (depth + 1) ++ writeIndentedElements depth (x :: xs)
  | .obj [] => ['\x7b', '\x7d']
  | .obj (m :: ms) => '\x7b' :: lineBreak (depth + 1) ++ writeIndentedMembers depth (m :: ms)
  | .null => writeScalar .null
  | .bool b => writeScalar (.bool b)
  | .int n => writeScalar (.int n)
  | .float x => writeScalar (.float x)
  | .str t => writeScalar (.str t)

/-- The elements of an array on lines of their own, up to its closing bracket. -/
def writeIndentedElements (depth : Nat) : List Json → List Char
  | [] => lineBreak depth ++ [']']
  | [x] => writeIndented (depth + 1) x ++ lineBreak depth ++ [']']
  | x :: y :: rest =>
    writeIndented (depth + 1) x ++ ',' :: lineBreak (depth + 1) ++
      writeIndentedElements depth (y :: rest)

/-- The members of an object on lines of their own, up to its closing brace. -/
def writeIndentedMembers (depth : Nat) : List (Text × Json) → List Char
  | [] => lineBreak depth ++ ['\x7d']
  | [(k, x)] =>
    writeText k ++ ':' :: ' ' :: writeIndented (depth + 1) x ++ lineBreak depth ++ ['\x7d']
  | (k, x) :: m :: rest =>
    writeText k ++ ':' :: ' ' :: writeIndented (depth + 1) x ++ ',' :: lineBreak (depth + 1) ++
      writeIndentedMembers depth (m :: rest)

end

/-- The compact form as a string. -/
def compact (j : Json) : String :=
  String.ofList (write j)

/-- The indented form as a string. -/
def indented (j : Json) : String :=
  String.ofList (writeIndented 0 j)

end LanguageHost.Json
