import LanguageHost.Text.Utf8

/-!
# Paths

A path is where it starts and the names that lead on from there. Reading a path drops empty names
and single dots; a parent reference stays, because only the file system knows where it leads. Two
leading slashes are a start of their own, three or more are one.

`Path.canonical` resolves parent references by the names alone: a reference takes the name before
it away, and at the start it leads nowhere.
-/

namespace LanguageHost

/-- Where a path starts. -/
inductive Path.Start where
  | here
  | root
  | doubleRoot
  deriving DecidableEq, Repr, Inhabited

/-- A path: where it starts, and the names on the way. -/
structure Path where
  start : Path.Start
  names : List String
  deriving DecidableEq, Repr, Inhabited

namespace Path

/-- The parts of a text between slashes. -/
def splitSlashes : List Char → List Char → List (List Char)
  | word, [] => [word.reverse]
  | word, c :: rest =>
    if c = '/' then word.reverse :: splitSlashes [] rest else splitSlashes (c :: word) rest

/-- A part that is a name on the way, and neither empty nor a single dot. -/
def isStep (part : List Char) : Bool :=
  part ≠ [] && part ≠ ['.']

/-- Where the path with this text starts. -/
def startOf : List Char → Start
  | '/' :: '/' :: '/' :: _ => .root
  | '/' :: '/' :: _ => .doubleRoot
  | '/' :: _ => .root
  | _ => .here

/-- The path that a text writes. -/
def ofString (s : String) : Path :=
  let cs := s.toList
  ⟨startOf cs, ((splitSlashes [] cs).filter isStep).map String.ofList⟩

/-- The steps of a text as an operating system takes them: dots stay, and a slash at the end asks
for a folder just as a dot behind it would. -/
def steps (s : String) : List String :=
  let parts := (splitSlashes [] s.toList).filter (· ≠ [])
  let names := parts.map String.ofList
  if s.toList.getLast? = some '/' then names ++ ["."] else names

/-- The text of a start. -/
def Start.text : Start → String
  | .here => ""
  | .root => "/"
  | .doubleRoot => "//"

/-- The text of a path; the path that goes nowhere is a dot. -/
def text (p : Path) : String :=
  if p.start = .here && p.names.isEmpty then "."
  else p.start.text ++ String.intercalate "/" p.names

/-- The path does not depend on a current directory. -/
def isAbsolute (p : Path) : Bool :=
  p.start ≠ .here

/-- One path after another; an absolute one stands for itself. -/
def append (base next : Path) : Path :=
  if next.isAbsolute then next else ⟨base.start, base.names ++ next.names⟩

/-- A path followed by the one with this text. -/
def child (base : Path) (s : String) : Path :=
  base.append (ofString s)

/-- The path seen from a current directory. -/
def absolute (p cwd : Path) : Path :=
  cwd.append p

/-- The path without its last name. -/
def parent (p : Path) : Path :=
  { p with names := p.names.dropLast }

/-- The last name, empty for a path without names. -/
def name (p : Path) : String :=
  p.names.getLastD ""

/-- Takes one step by name: a parent reference takes the last name back. -/
def walkName (done : List String) (name : String) : List String :=
  if name = ".." then done.dropLast else done ++ [name]

/-- The absolute path without parent references that a path means by its names alone. -/
def canonical (p cwd : Path) : Path :=
  let full := p.absolute cwd
  { full with names := full.names.foldl walkName [] }

/-- A path is the other or lies below it. -/
def isWithin (p base : Path) : Bool :=
  p.start = base.start && base.names.isPrefixOf p.names

/-- A byte that stands for itself in an address. -/
def isPlainByte (b : UInt8) : Bool :=
  let n := b.toNat
  (0x41 ≤ n && n ≤ 0x5A) || (0x61 ≤ n && n ≤ 0x7A) || (0x30 ≤ n && n ≤ 0x39) ||
    n == 0x5F || n == 0x2E || n == 0x2D || n == 0x7E || n == 0x2F

/-- One byte of an address: itself, or a percent sign and two upper-case digits. -/
def escapeByte (b : UInt8) : List Char :=
  if isPlainByte b then [Char.ofNat b.toNat]
  else '%' :: (hexDigits 2 b.toNat).map Char.toUpper

/-- The address of a file: its path with every byte escaped that is not plain. -/
def uri (p : Path) : String :=
  "file://" ++ String.ofList ((Utf8.encodeString p.text).flatMap escapeByte)

end Path

end LanguageHost
