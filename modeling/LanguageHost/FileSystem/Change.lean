import LanguageHost.FileSystem.Basic

/-!
# Changing the file system

Folders, files and links are made and removed here. Opening a file for writing empties it and
gives a handle: the number of the file and the place of the next byte. A handle keeps to its file
when the name is removed or given to another file.
-/

namespace LanguageHost

/-- A file that is open for writing, and the place where the next byte goes. -/
structure FileHandle where
  inode : Nat
  offset : Nat
  deriving DecidableEq, Repr, Inhabited

namespace FileSystem

/-- Permission bits of a file that is made without saying them. -/
def defaultMode : Nat := 0o644

/-- Puts a node at names that lead through folders, or takes it away; time moves on. -/
def putNode (fs : FileSystem) (names : List String) (change : Option Node) : FileSystem :=
  { fs with root := fs.root.put fs.now change names, now := fs.now + 1 }

/-- Gives a file another body. -/
def putBody (fs : FileSystem) (inode : Nat) (body : FileBody) : FileSystem :=
  if fs.bodies.any fun b => b.1 = inode then
    { fs with bodies := fs.bodies.map fun b => if b.1 = inode then (inode, body) else b }
  else { fs with bodies := fs.bodies ++ [(inode, body)] }

@[simp] theorem cwd_putBody (fs : FileSystem) (inode : Nat) (body : FileBody) :
    (fs.putBody inode body).cwd = fs.cwd := by
  unfold putBody
  split <;> rfl

/-- A new regular file at names that nothing stands at. -/
def addFile (fs : FileSystem) (names : List String) (body : FileBody) : FileSystem :=
  let inode := fs.nextInode
  { (fs.putNode names (some (.file inode))).putBody inode body with nextInode := inode + 1 }

/-- Opens the file at a path for writing: it is made if it is not there and emptied if it is. -/
def openForWriting (fs : FileSystem) (p : Path) : Except Errno (FileHandle × FileSystem) :=
  match fs.find true p with
  | .error errno => .error errno
  | .ok (.missing names) => .ok (⟨fs.nextInode, 0⟩, fs.addFile names ⟨[], defaultMode, fs.now⟩)
  | .ok (.node _ (.folder _ _)) => .error .isFolder
  | .ok (.node _ (.file inode)) =>
    let mode := (fs.body? inode).map (·.mode) |>.getD defaultMode
    .ok (⟨inode, 0⟩, { fs.putBody inode ⟨[], mode, fs.now⟩ with now := fs.now + 1 })
  | .ok (.node _ _) => .ok (⟨fs.nextInode, 0⟩, { fs with nextInode := fs.nextInode + 1 })

/-- The bytes with others written over them from a place on; a gap is filled with zeros. -/
def overwrite (bytes : List UInt8) (offset : Nat) (written : List UInt8) : List UInt8 :=
  bytes.take offset ++ List.replicate (offset - bytes.length) 0 ++ written ++
    bytes.drop (offset + written.length)

/-- Writes bytes through a handle. -/
def writeThrough (fs : FileSystem) (handle : FileHandle) (written : List UInt8) :
    FileHandle × FileSystem :=
  let next : FileHandle := { handle with offset := handle.offset + written.length }
  match fs.body? handle.inode with
  | some body =>
    let bytes := overwrite body.bytes handle.offset written
    (next, { fs.putBody handle.inode ⟨bytes, body.mode, fs.now⟩ with now := fs.now + 1 })
  | none => (next, fs)

@[simp] theorem cwd_writeThrough (fs : FileSystem) (handle : FileHandle) (written : List UInt8) :
    (fs.writeThrough handle written).2.cwd = fs.cwd := by
  unfold writeThrough
  cases fs.body? handle.inode with
  | some body => exact cwd_putBody fs _ _
  | none => rfl

/-- Writes a whole file at a path. -/
def writeFile (fs : FileSystem) (p : Path) (bytes : List UInt8) : Except Errno FileSystem :=
  match fs.openForWriting p with
  | .error errno => .error errno
  | .ok (handle, fs) => .ok (fs.writeThrough handle bytes).2

/-- Makes one folder where nothing stands. -/
def makeFolder (fs : FileSystem) (p : Path) : Except Errno FileSystem :=
  match fs.find false p with
  | .error errno => .error errno
  | .ok (.node _ _) => .error .alreadyThere
  | .ok (.missing names) => .ok (fs.putNode names (some (.folder fs.now [])))

/-- Makes one folder unless a folder is there already; the error names the path. -/
def ensureFolder (fs : FileSystem) (p : Path) : Except OsFault FileSystem :=
  match fs.makeFolder p with
  | .ok fs => .ok fs
  | .error errno =>
    match fs.isFolder p with
    | .ok true => .ok fs
    | .ok false => .error ⟨errno, p.text⟩
    | .error inner => .error ⟨inner, p.text⟩

/-- Makes the folders of a path from the outermost missing one inward. The names are those of the
path, the last one first. -/
def ensureFoldersRev (fs : FileSystem) (start : Path.Start) :
    List String → Except OsFault FileSystem
  | [] => fs.ensureFolder ⟨start, []⟩
  | name :: above =>
    let p : Path := ⟨start, (name :: above).reverse⟩
    match fs.makeFolder p with
    | .error .noEntry =>
      match fs.ensureFoldersRev start above with
      | .error e => .error e
      | .ok fs => fs.ensureFolder p
    | _ => fs.ensureFolder p

/-- Makes a folder and those above it, unless they are there already. -/
def ensureFolders (fs : FileSystem) (p : Path) : Except OsFault FileSystem :=
  fs.ensureFoldersRev p.start p.names.reverse

/-- What is there after the folders of a path could not all be made: those that could be made above
stay. The names are those of the path, the last one first. -/
def foldersLeftRev (fs : FileSystem) (start : Path.Start) : List String → FileSystem
  | [] => fs
  | name :: above =>
    match fs.makeFolder ⟨start, (name :: above).reverse⟩ with
    | .error .noEntry =>
      match fs.ensureFoldersRev start above with
      | .error _ => fs.foldersLeftRev start above
      | .ok fs => fs
    | _ => fs

/-- What is there after a folder and those above it could not all be made. -/
def foldersLeft (fs : FileSystem) (p : Path) : FileSystem :=
  fs.foldersLeftRev p.start p.names.reverse

/-- Takes a file or link away. -/
def removeFile (fs : FileSystem) (p : Path) : Except Errno FileSystem :=
  match fs.find false p with
  | .error errno => .error errno
  | .ok (.missing _) => .error .noEntry
  | .ok (.node _ (.folder _ _)) => .error .isFolder
  | .ok (.node names _) => .ok (fs.putNode names none)

/-- Makes a symbolic link where nothing stands. Its target, which need not be there, is a text that
could be a path. -/
def makeLink (fs : FileSystem) (p : Path) (target : String) : Except Errno FileSystem :=
  if target.isEmpty then .error .noEntry
  else if maxPathBytes < target.utf8ByteSize then .error .nameTooLong
  else
    match fs.find false p with
    | .error errno => .error errno
    | .ok (.node _ _) => .error .alreadyThere
    | .ok (.missing names) => .ok (fs.putNode names (some (.link target)))

/-- Sets the permission bits of the file at a path. -/
def setMode (fs : FileSystem) (p : Path) (mode : Nat) : FileSystem :=
  match fs.find true p with
  | .ok (.node _ (.file inode)) =>
    match fs.body? inode with
    | some body => fs.putBody inode { body with mode }
    | none => fs
  | _ => fs

/-- Sets the time of the last change of what stands at a path. -/
def setModified (fs : FileSystem) (p : Path) (time : Int) : FileSystem :=
  match fs.find true p with
  | .ok (.node _ (.file inode)) =>
    match fs.body? inode with
    | some body => fs.putBody inode { body with modified := time }
    | none => fs
  | .ok (.node names (.folder _ es)) =>
    { fs with root := fs.root.put fs.now (some (.folder time es)) names }
  | _ => fs

/-- The time of the last change of a node of this file system; links are followed. -/
def modifiedAt (fs : FileSystem) (p : Path) : Except Errno Int :=
  match fs.stat p with
  | .ok (.file inode) => .ok ((fs.body? inode).map (·.modified) |>.getD 0)
  | .ok (.folder modified _) => .ok modified
  | .ok _ => .ok 0
  | .error errno => .error errno

/-- From now on the listing of the folder with this path is refused. -/
def deny (fs : FileSystem) (p : Path) : FileSystem :=
  { fs with denied := fs.denied ++ [p.text] }

/-- The listing of the folder with this path is no longer refused. -/
def allow (fs : FileSystem) (p : Path) : FileSystem :=
  { fs with denied := fs.denied.filter (· ≠ p.text) }

end FileSystem

end LanguageHost
