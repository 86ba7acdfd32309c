import LanguageHost.Path.Basic
import LanguageHost.Text.Literal

/-!
# The file system

A file system is a tree of folders with files, symbolic links and devices at its leaves. The bytes
of a file lie in a table beside the tree, so that a file that is open for writing stays the same
file when its name is taken away or given to another one.

`FileSystem.lookUp` follows a path from folder to folder as an operating system does: a parent
reference leads to the folder above the one that was reached, a dot or a slash at the end asks for
a folder, and a link continues at its target, forty times at most. A path that does not begin with
a slash is seen from the current directory, and only its own text counts against the limit.
-/

namespace LanguageHost

/-- What goes wrong with a path. -/
inductive Errno where
  | noEntry
  | badFormat
  | accessDenied
  | alreadyThere
  | notFolder
  | isFolder
  | nameTooLong
  | tooManyLinks
  deriving DecidableEq, Repr

namespace Errno

/-- The number of an error. -/
def number : Errno → Nat
  | noEntry => 2
  | badFormat => 8
  | accessDenied => 13
  | alreadyThere => 17
  | notFolder => 20
  | isFolder => 21
  | nameTooLong => 36
  | tooManyLinks => 40

/-- The wording of an error. -/
def text : Errno → String
  | noEntry => "No such file or directory"
  | badFormat => "Exec format error"
  | accessDenied => "Permission denied"
  | alreadyThere => "File exists"
  | notFolder => "Not a directory"
  | isFolder => "Is a directory"
  | nameTooLong => "File name too long"
  | tooManyLinks => "Too many levels of symbolic links"

end Errno

/-- An error of the operating system about a path. -/
structure OsFault where
  errno : Errno
  path : String
  deriving DecidableEq, Repr

/-- The wording of an error about a path. -/
def OsFault.message (f : OsFault) : String :=
  "[Errno " ++ toString f.errno.number ++ "] " ++ f.errno.text ++ ": " ++ quoted f.path

/-- A place in the tree. -/
inductive Node where
  /-- A regular file; its bytes lie in the table under this number. -/
  | file (inode : Nat)
  | folder (modified : Int) (entries : List (String × Node))
  | link (target : String)
  | device
  deriving Inhabited

/-- The content of a regular file, its permission bits and the time of its last change. -/
structure FileBody where
  bytes : List UInt8
  mode : Nat
  modified : Int
  deriving DecidableEq, Repr

/-- The tree, the files' contents, the folders whose listing is refused, and the current
directory. -/
structure FileSystem where
  root : Node
  bodies : List (Nat × FileBody)
  nextInode : Nat
  /-- The time that the next change is stamped with. -/
  now : Int
  denied : List String
  /-- The folder that relative paths are seen from. -/
  cwd : Path
  deriving Inhabited

namespace Node

/-- The entries of a folder, none for anything else. -/
def entries : Node → List (String × Node)
  | folder _ es => es
  | _ => []

/-- A folder and not a link to one. -/
def isFolder : Node → Bool
  | folder _ _ => true
  | _ => false

/-- The entry under a name. -/
def named? (name : String) : List (String × Node) → Option Node
  | [] => none
  | e :: rest => if e.1 = name then some e.2 else named? name rest

/-- The node that names lead to, without following links. -/
def at? : List String → Node → Option Node
  | [], node => some node
  | name :: rest, node =>
    match named? name node.entries with
    | some next => at? rest next
    | none => none

/-- Puts a node under a name, or takes the name away. -/
def putEntry (name : String) (change : Option Node) (es : List (String × Node)) :
    List (String × Node) :=
  match change with
  | none => es.filter fun e => e.1 ≠ name
  | some node =>
    if es.any fun e => e.1 = name then es.map fun e => if e.1 = name then (name, node) else e
    else es ++ [(name, node)]

/-- The tree with another node, or none, where the names lead. The folder that holds the changed
name is stamped with the time of the change if the name is new there or gone. -/
def put (now : Int) (change : Option Node) : List String → Node → Node
  | [], node => change.getD node
  | [name], folder modified es =>
    let stamp := if (named? name es).isSome && change.isSome then modified else now
    folder stamp (putEntry name change es)
  | name :: rest, folder modified es =>
    match named? name es with
    | some next => folder modified (putEntry name (some (put now change rest next)) es)
    | none => folder modified es
  | _ :: _, node => node

end Node

namespace FileSystem

/-- The most links that are followed on one path. -/
def maxLinks : Nat := 40

/-- The most bytes of a name. -/
def maxNameBytes : Nat := 255

/-- The most bytes of a path. -/
def maxPathBytes : Nat := 4095

/-- Where a path leads. -/
inductive Found where
  /-- Something is there; the names lead to it without links. -/
  | node (names : List String) (node : Node)
  /-- Nothing is there, but the folder that would hold it is. -/
  | missing (names : List String)

/-- How far a path leads without following links. -/
inductive Reach where
  | done (found : Found)
  | failed (errno : Errno)
  /-- A link stands in the folder with these names, and the path goes on behind it. -/
  | through (names : List String) (target : String) (rest : List String)

/-- Follows names from a folder up to the first link; the last name is not followed as a link
when `followLast` is off. -/
def walk (root : Node) (followLast : Bool) : List String → Node → List String → Reach
  | here, node, [] => .done (.node here node)
  | here, node, name :: rest =>
    if !node.isFolder then .failed .notFolder
    else if name = "." then walk root followLast here node rest
    else if name = ".." then
      let up := here.dropLast
      walk root followLast up ((root.at? up).getD root) rest
    else if maxNameBytes < name.utf8ByteSize then .failed .nameTooLong
    else
      match Node.named? name node.entries with
      | none => if rest.isEmpty then .done (.missing (here ++ [name])) else .failed .noEntry
      | some (.link target) =>
        if rest.isEmpty && !followLast then .done (.node (here ++ [name]) (.link target))
        else .through here target rest
      | some next => walk root followLast (here ++ [name]) next rest

/-- Follows names from a folder, links included, as long as the number of links allows. -/
def follow (root : Node) (followLast : Bool) : Nat → List String → List String →
    Except Errno Found
  | links, here, names =>
    match walk root followLast here ((root.at? here).getD root) names with
    | .done found => .ok found
    | .failed errno => .error errno
    | .through folder target rest =>
      match links with
      | 0 => .error .tooManyLinks
      | links + 1 =>
        if target.isEmpty then .error .noEntry
        else
          let base := if (Path.ofString target).isAbsolute then [] else folder
          follow root followLast links base (Path.steps target ++ rest)

/-- Where the path with a text leads. -/
def lookUp (fs : FileSystem) (followLast : Bool) (text : String) : Except Errno Found :=
  if text.isEmpty then .error .noEntry
  else if maxPathBytes < text.utf8ByteSize then .error .nameTooLong
  else
    let base := if (Path.ofString text).isAbsolute then [] else fs.cwd.names
    follow fs.root followLast maxLinks [] (base ++ Path.steps text)

/-- Where a path leads. -/
def find (fs : FileSystem) (followLast : Bool) (p : Path) : Except Errno Found :=
  fs.lookUp followLast p.text

/-- What stands at the end of a path, links followed. -/
def stat (fs : FileSystem) (p : Path) : Except Errno Node :=
  match fs.find true p with
  | .ok (.node _ node) => .ok node
  | .ok (.missing _) => .error .noEntry
  | .error errno => .error errno

/-- The path text cannot be given to the operating system. -/
def hasNul (p : Path) : Bool :=
  p.names.any fun name => name.toList.contains '\x00'

/-- Asks a question about what stands at a path. Whatever is missing, broken or looping makes the
answer no, and so does a path with a NUL; other errors are handed on. -/
def query (fs : FileSystem) (p : Path) (question : Node → Bool) : Except Errno Bool :=
  if hasNul p then .ok false
  else
    match fs.stat p with
    | .ok node => .ok (question node)
    | .error .noEntry | .error .notFolder | .error .tooManyLinks => .ok false
    | .error errno => .error errno

/-- Something stands at the path. -/
def pathExists (fs : FileSystem) (p : Path) : Except Errno Bool :=
  fs.query p fun _ => true

/-- A folder stands at the path. -/
def isFolder (fs : FileSystem) (p : Path) : Except Errno Bool :=
  fs.query p Node.isFolder

/-- A regular file stands at the path. -/
def isFile (fs : FileSystem) (p : Path) : Except Errno Bool :=
  fs.query p fun
    | .file _ => true
    | _ => false

/-- The body of a file. -/
def body? (fs : FileSystem) (inode : Nat) : Option FileBody :=
  (fs.bodies.find? fun b => b.1 = inode).map (·.2)

/-- A regular file that its permission bits let someone run stands at the path. -/
def isRunnable (fs : FileSystem) (p : Path) : Bool :=
  if hasNul p then false
  else
    match fs.stat p with
    | .ok (.file inode) =>
      match fs.body? inode with
      | some body => body.mode &&& 0o111 != 0
      | none => false
    | _ => false

/-- The bytes of the file at the path; a device is empty. -/
def readFile (fs : FileSystem) (p : Path) : Except Errno (List UInt8) :=
  match fs.stat p with
  | .ok (.file inode) => .ok ((fs.body? inode).map (·.bytes) |>.getD [])
  | .ok (.folder _ _) => .error .isFolder
  | .ok _ => .ok []
  | .error errno => .error errno

/-- The entries of the folder at the path, unless its listing is refused. -/
def list (fs : FileSystem) (p : Path) : Except Errno (List (String × Node)) :=
  if fs.denied.contains (p.absolute fs.cwd).text then .error .accessDenied
  else
    match fs.stat p with
    | .ok (.folder _ es) => .ok es
    | .ok _ => .error .notFolder
    | .error errno => .error errno

end FileSystem

end LanguageHost
