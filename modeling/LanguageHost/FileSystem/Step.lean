import LanguageHost.Journal.Basic

/-!
# File steps

Steps by which a user prepares and inspects files. Paths are seen from the current directory;
writing a file makes the folders above it.
-/

namespace LanguageHost

/-- A step on the file system. -/
inductive FileStep where
  | write (path : String) (bytes : List UInt8) (mode : Option Nat) (modified : Option Int)
  | makeFolder (path : String) (modified : Option Int)
  | link (path target : String)
  | remove (path : String)
  | read (path : String)
  | list (path : String)
  | exists? (path : String)
  | deny (path : String)
  | allow (path : String)

namespace FileStep

/-- The path that a step is about, seen from the current directory. -/
def absolute (text : String) : Task Path := do
  return (Path.ofString text).absolute (← get).cwd

/-- A path that is handed to the operating system holds no NUL. -/
def refuseNul (path : Path) : Task Unit := do
  if FileSystem.hasNul path then throw .nulByte

/-- The path of a step that hands it to the operating system. -/
def usable (text : String) : Task Path := do
  let path ← absolute text
  refuseNul path
  return path

/-- Makes the folders above a path. -/
def makeParents (path : Path) : Task Unit := do
  refuseNul path.parent
  let p ← get
  match p.files.ensureFolders path.parent with
  | .ok files => Task.setFiles files
  | .error fault =>
    Task.setFiles (p.files.foldersLeft path.parent)
    throw (.os fault)

/-- Stamps a path with a time, if one is given. -/
def stamp (path : Path) (modified : Option Int) : Task Unit :=
  match modified with
  | some time => modify fun p => { p with files := p.files.setModified path time }
  | none => pure ()

/-- Takes a step; the result is what it shows. -/
def perform : FileStep → Task Json
  | write text bytes mode modified => do
    let path ← absolute text
    makeParents path
    refuseNul path
    Task.setFiles (← Task.ofErrno path ((← get).files.writeFile path bytes))
    if let some mode := mode then
      modify fun p => { p with files := p.files.setMode path mode }
    stamp path modified
    return .null
  | makeFolder text modified => do
    let path ← usable text
    if let .error .noEntry := (← get).files.makeFolder path then makeParents path
    Task.setFiles (← Task.ofErrno path ((← get).files.makeFolder path))
    stamp path modified
    return .null
  | link text target => do
    let path ← usable text
    if target.toList.contains '\x00' then throw .nulByte
    match (← get).files.makeLink path target with
    | .ok files => Task.setFiles files
    | .error errno => throw (.linkRefused errno target path.text)
    return .null
  | remove text => do
    let path ← usable text
    Task.setFiles (← Task.ofErrno path ((← get).files.removeFile path))
    return .null
  | read text => do
    let path ← usable text
    let bytes ← Task.ofErrno path ((← get).files.readFile path)
    match Utf8.decode bytes with
    | .ok cs => return .str (Text.ofChars cs)
    | .error fault => throw (.undecodable fault)
  | list text => do
    let path ← usable text
    match ← Task.ofErrno path ((← get).files.stat path) with
    | .folder _ es => return Json.ofStrings ((es.map (·.1)).mergeSort fun a b => !(b < a))
    | _ => Task.failWith .notFolder path.text
  | exists? text => do
    let path ← absolute text
    return .bool (← Task.ofErrno path ((← get).files.pathExists path))
  | deny text => do
    let path ← absolute text
    modify fun p => { p with files := p.files.deny path }
    return .null
  | allow text => do
    let path ← absolute text
    modify fun p => { p with files := p.files.allow path }
    return .null

end FileStep

end LanguageHost
