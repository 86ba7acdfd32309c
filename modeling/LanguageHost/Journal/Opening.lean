import LanguageHost.Journal.Basic

/-!
# Opening and closing the log file

`Journal.openLog` makes the folder, thins it out and opens a file named for the current second.
The path is set before the file is opened, and an open file stays the destination until then.
-/

namespace LanguageHost.Journal

/-- The log files of a folder, with the times of their last changes; a folder that cannot be
listed counts as empty. -/
def logFiles (p : Platform) (folder : Path) : Except OsFault (List (String × Int)) :=
  match p.files.list folder with
  | .error _ => .ok []
  | .ok es =>
    let names := (es.map (·.1)).filter isLogName
    if names.length < keptFiles then .ok (names.map fun name => (name, 0))
    else
      names.mapM fun name =>
        let file := folder.child name
        match p.files.modifiedAt file with
        | .ok time => .ok (name, time)
        | .error errno => .error ⟨errno, file.text⟩

/-- The log files that make room for a new one: all but the newest ones, if the folder is full. -/
def surplus (found : List (String × Int)) : List String :=
  if found.length < keptFiles then []
  else ((found.mergeSort fun a b => b.2 ≤ a.2).drop (keptFiles - 1)).map (·.1)

/-- Removes a log file; one that cannot be removed stays. -/
def removeLog (folder : Path) (files : FileSystem) (name : String) : FileSystem :=
  match files.removeFile (folder.child name) with
  | .ok files => files
  | .error _ => files

/-- Thins out a folder of log files. -/
def prune (folder : Path) : Task Unit := do
  let p ← get
  match logFiles p folder with
  | .error fault => throw (.os fault)
  | .ok found => Task.setFiles ((surplus found).foldl (removeLog folder) p.files)

/-- The name of a log file opened at a time. -/
def fileName (now : Instant) : String :=
  now.format "" ++ ".log"

/-- Sets the level if one is given; unless lines are to be printed, opens a new log file in the
given folder or in the usual one. -/
def openLog (print : Bool) (level : Option Level) (folder : Option Path) : Task Unit := do
  if let some level := level then
    modify fun p => { p with journal := { p.journal with level } }
  if !print then
    let p ← get
    let folder := folder.getD p.logFolder
    if FileSystem.hasNul folder then throw .nulByte
    match p.files.ensureFolders folder with
    | .error fault =>
      Task.setFiles (p.files.foldersLeft folder)
      throw (.os fault)
    | .ok files => Task.setFiles files
    prune folder
    let file := folder.child (fileName p.clock)
    modify fun p => { p with journal := { p.journal with path := file.text } }
    let (handle, files) ← Task.ofErrno file ((← get).files.openForWriting file)
    modify fun p => { p with files, journal := { p.journal with sink := some handle } }

/-- Closes the log file, if one is open; lines go to the standard error stream again. -/
def closeLog (p : Platform) : Platform :=
  match p.journal.sink with
  | none => p
  | some _ => { p with journal := { p.journal with sink := none, path := "" } }

end LanguageHost.Journal
