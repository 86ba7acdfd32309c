import LanguageHost.Child.Tool
import LanguageHost.FileSystem.SearchPath

/-!
# Executables

What a command names: a program of the machine, or a script that names its interpreter in its first
line, which is then called with the script. A name without a slash is looked for in the directories
of the search path.
-/

namespace LanguageHost

/-- A program of the machine, what it was called, and its arguments. -/
structure Executable where
  name : String
  called : String
  arguments : List String

namespace Executable

/-- The start of the file of a program of the machine. -/
def programMark : List UInt8 := [0x7F, 0x45, 0x4C, 0x46]

/-- The start of the file of a script that names its interpreter. -/
def interpreterMark : List UInt8 := [0x23, 0x21]

/-- The text of bytes; what is no text counts as empty. -/
def textOf (bytes : List UInt8) : String :=
  match Utf8.decode bytes with
  | .ok cs => String.ofList cs
  | .error _ => ""

/-- The interpreter that a script's first line names, and its option: all that follows the name. -/
def splitInterpreter (line : List Char) : String × List String :=
  let isBlank (c : Char) : Bool := c = ' ' || c = '\t'
  let text := ((line.dropWhile isBlank).reverse.dropWhile isBlank).reverse
  let name := text.takeWhile fun c => !isBlank c
  let option := (text.drop name.length).dropWhile isBlank
  (String.ofList name, if option.isEmpty then [] else [String.ofList option])

/-- The executable in a file with these bytes; scripts are followed to their interpreter once. -/
def ofBytes (files : FileSystem) (name path called : String) (bytes : List UInt8)
    (arguments : List String) : Except Errno Executable :=
  if programMark.isPrefixOf bytes then .ok ⟨name, called, arguments⟩
  else if interpreterMark.isPrefixOf bytes then
    let line := (textOf (bytes.takeWhile (· ≠ 0x0A))).toList.drop 2
    let (interpreter, option) := splitInterpreter line
    match files.lookUp true interpreter with
    | .error errno => .error errno
    | .ok (.missing _) => .error .noEntry
    | .ok (.node names (.file _)) =>
      .ok ⟨names.getLastD "", interpreter, option ++ path :: arguments⟩
    | .ok (.node _ _) => .error .accessDenied
  else .error .badFormat

/-- The executable at a path. -/
def atPath (files : FileSystem) (path called : String) (arguments : List String) :
    Except Errno Executable :=
  match files.lookUp true path with
  | .error errno => .error errno
  | .ok (.missing _) => .error .noEntry
  | .ok (.node names (.file inode)) =>
    match files.body? inode with
    | none => .error .noEntry
    | some body =>
      if body.mode &&& 0o111 = 0 then .error .accessDenied
      else ofBytes files (names.getLastD "") path called body.bytes arguments
  | .ok (.node _ _) => .error .accessDenied

/-- The paths at which a program is looked for. -/
def candidates (searchPath : Option String) (program : String) : List String :=
  if program.toList.contains '/' then [program]
  else (SearchPath.directories searchPath).map fun directory =>
    SearchPath.inDirectory directory program

/-- The first of several paths with an executable; otherwise the first error that is not about a
missing file, or the last one. -/
def firstOf (files : FileSystem) (called : String) (arguments : List String)
    (saved : Option Errno) (last : Errno) : List String → Except Errno Executable
  | [] => .error (saved.getD last)
  | path :: rest =>
    match atPath files path called arguments with
    | .ok found => .ok found
    | .error errno =>
      let isAbsence := errno = .noEntry || errno = .notFolder
      let saved := if saved.isNone && !isAbsence then some errno else saved
      firstOf files called arguments saved errno rest

/-- The executable that a command names in a folder. -/
def find (files : FileSystem) (searchPath : Option String) (folder : Path) (program : String)
    (arguments : List String) : Except Errno Executable :=
  firstOf { files with cwd := folder } program arguments none .noEntry
    (candidates searchPath program)

end Executable

end LanguageHost
