import LanguageHost.CommandLine
import LanguageHost.UserPaths
import Std.Time.DateTime.Timestamp

/-!
# The program

The outer layer of the command line. It gathers what a run can see of the machine into a `Platform`,
hands the words to `CommandLine.run`, and carries the changes back: files that were written are
written, log files that were thinned out are removed, and what was printed is printed.

A file is seen if a word of the command line or the usual place of preferences names it, or if it
lies in the log folder. No process of the machine is seen, so launching a server reports that its
runner cannot be found.
-/

namespace LanguageHost.Program

/-- The environment variables that a run looks at. -/
def seenVariables : List String :=
  ["PATH", "HOME", "XDG_CONFIG_HOME", "XDG_STATE_HOME"]

/-- The environment of a run. -/
def environment : IO (List (String × String)) :=
  seenVariables.filterMapM fun name => do
    return (← IO.getEnv name).map fun value => (name, value)

/-- The first microsecond of the year 2024, counted from that of 1970. -/
def yearStart : Int := 1704067200000000

/-- The present instant. -/
def now : IO Instant := do
  let time ← Std.Time.Timestamp.now
  return time.toNanosecondsSinceUnixEpoch.val / 1000 - yearStart

/-- The paths that a word may name: the word, and what follows an equals sign in it. -/
def pathsIn (word : String) : List Path :=
  let behind := (word.toList.dropWhile (· ≠ '=')).drop 1
  [Path.ofString word, Path.ofString (String.ofList behind)]

/-- The file system with a file or folder of the machine at an absolute path. -/
def see (files : FileSystem) (path : Path) : IO FileSystem := do
  try
    let metadata ← ((← IO.currentDir) / path.text).metadata
    match metadata.type with
    | .dir => return (files.ensureFolders path).toOption.getD files
    | .file =>
      let bytes ← IO.FS.readBinFile path.text
      match files.ensureFolders path.parent with
      | .error _ => return files
      | .ok files =>
        let files := (files.writeFile path bytes.toList).toOption.getD files
        return files.setModified path metadata.modified.sec
    | _ => return files
  catch _ => return files

/-- The log files of a folder of the machine. -/
def logFiles (folder : Path) : IO (List Path) := do
  try
    let entries ← ((← IO.currentDir) / folder.text).readDir
    return (entries.toList.map (·.fileName)).filter Journal.isLogName |>.map folder.child
  catch _ => return []

/-- Carries the change of one file back to the machine. -/
def keep (before after : FileSystem) (path : Path) : IO Unit := do
  match after.readFile path with
  | .ok bytes =>
    if (before.readFile path).toOption ≠ some bytes then
      IO.FS.createDirAll path.parent.text
      IO.FS.writeBinFile path.text (ByteArray.mk bytes.toArray)
  | .error .noEntry =>
    if (before.readFile path).toBool then IO.FS.removeFile path.text
  | .error _ => pure ()

/-- Prints lines. -/
def printAll (stream : IO.FS.Stream) (lines : List String) : IO Unit :=
  lines.forM fun line => stream.putStrLn line

/-- Prints how a run ended; the result is the exit code. -/
def conclude (outcome : CommandLine.Outcome) : IO UInt32 := do
  match outcome with
  | .done _ output => printAll (← IO.getStdout) output
  | .wrongUsage => printAll (← IO.getStderr) ["Usage: yamlls-bridge [OPTIONS] COMMAND [ARGS]..."]
  | .failed fault => printAll (← IO.getStderr) [fault.className ++ ": " ++ fault.shown]
  return UInt32.ofNat outcome.exitCode

/-- Runs a command line on the machine. -/
def run (words : List String) : IO UInt32 := do
  let environment ← environment
  let cwd := Path.ofString (← IO.currentDir).toString
  let installation := (Path.ofString (← IO.appPath).toString).parent
  let paths := UserPaths.folders UserPaths.usualApp environment
  let clock ← now
  let logFolder := paths.log.absolute cwd
  let logs ← logFiles logFolder
  let named := (paths.preferences :: words.flatMap pathsIn).map fun path => path.absolute cwd
  let bare : FileSystem := ⟨.folder 0 [], [], 1, clock / 1000000 + yearStart / 1000000, [], cwd⟩
  let before ← (cwd :: logFolder :: named ++ logs).foldlM see bare
  let platform : Platform :=
    { files := before, environment, clock, journal := .initial clock, logFolder, installation
      conversation := [] }
  let (outcome, host) := CommandLine.run words (Host.empty platform paths.preferences)
  let after := host.platform.files
  let opened := logFolder.child (Journal.fileName clock)
  (opened :: named ++ logs).forM (keep before after)
  match CommandLine.split words with
  | some (true, _, _) =>
    printAll (← IO.getStderr) (host.platform.journal.lines.map Text.display)
  | _ => pure ()
  conclude outcome

end LanguageHost.Program

/-- Runs the command line. -/
def main (words : List String) : IO UInt32 :=
  LanguageHost.Program.run words
