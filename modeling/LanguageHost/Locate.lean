import LanguageHost.FileSystem.SearchPath
import LanguageHost.Journal.Basic
import LanguageHost.Text.Blank

/-!
# Locating the server

The server is a script that a runner executes. Either may be named by an environment variable.
Without one the runner is looked up in the directories of the search path, and the script is
expected where it is installed. Blanks around a variable's value do not count, and a blank value
counts as none.
-/

namespace LanguageHost.Locate

/-- The value of an environment variable. -/
def valueOf? (name : String) (p : Platform) : Option String :=
  findMember? name p.environment

/-- A variable's value without the blanks around it. -/
def override (name : String) (p : Platform) : String :=
  trimBlank ((valueOf? name p).getD "")

/-- The first directory of the search path that has a runnable file of this name. -/
def onSearchPath (name : String) (p : Platform) : Option String :=
  let directories := SearchPath.directories (valueOf? "PATH" p)
  (directories.map fun directory => SearchPath.inDirectory directory name).find? fun candidate =>
    p.files.isRunnable (Path.ofString candidate)

/-- The path of the runner. -/
def node : Task Path := do
  let p ← get
  let chosen := override nodeVariable p
  if chosen ≠ "" then
    let path := Path.ofString chosen
    if ← Task.ofErrno path (p.files.isFile path) then
      return path.absolute p.cwd
    throw (.problem (.nodeNoFile chosen))
  match onSearchPath "node" p with
  | none => throw (.problem .nodeMissing)
  | some found =>
    Task.log "node" .debug "Found node" [("path", found)]
    return (Path.ofString found).absolute p.cwd

/-- Where the script lies inside the installation. -/
def installedEntry : Path :=
  Path.ofString "node_modules/yaml-language-server/out/server/src/server.js"

/-- The path of the server script. -/
def entry : Task Path := do
  let p ← get
  let chosen := override entryVariable p
  let path := if chosen ≠ "" then Path.ofString chosen else p.installation.append installedEntry
  if ← Task.ofErrno path (p.files.isFile path) then
    return path.absolute p.cwd
  throw (.problem (.entryNoFile path.text))

end LanguageHost.Locate
