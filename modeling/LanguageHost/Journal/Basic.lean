import LanguageHost.FileSystem.Change
import LanguageHost.Journal.Logger
import LanguageHost.Child.Conversation

/-!
# The journal

The journal takes the lines of all loggers. A line below the current level is dropped. The others
go to the standard error stream, or to a log file once one is opened; `Journal.lines` keeps them
all in order.

Opening a log file first thins out the folder: of the files in it whose names end in `.log`, the
nine newest are kept if there are ten or more, so that with the new one there are ten.
-/

namespace LanguageHost

/-- Where lines go, from which level on, and the lines so far. -/
structure Journal where
  level : Level
  table : LoggerTable
  /-- The open log file; none while lines go to the standard error stream. -/
  sink : Option FileHandle
  /-- The path of the log file as it is shown; empty without one. -/
  path : String
  lines : List Text
  deriving Inhabited

/-- The machine that the program runs on, as far as the program sees it. -/
structure Platform where
  files : FileSystem
  environment : List (String × String)
  clock : Instant
  journal : Journal
  /-- The folder for log files when none is given. -/
  logFolder : Path
  /-- The folder that the server is installed in. -/
  installation : Path
  /-- What a scripted server does on this machine. -/
  conversation : Conversation
  deriving Inhabited

/-- An action on the machine that may fail. -/
abbrev Task := ExceptT Fault (StateM Platform)

namespace Journal

/-- The services that have a logger from the start; the second group shows the bundle beside it. -/
def plainServices : List String :=
  ["node", "lsp.accessor"]

/-- The name under which the YAML services appear. -/
def bundle : String := "yamlls_bridge"

/-- The services of the YAML support. -/
def bundledServices : List String :=
  ["yaml.settings", "yaml.folders", "yaml.listeners", "yaml.server"]

/-- The tags of a service. -/
def serviceTags (service : String) : Tags :=
  [("service", service)]

/-- The tags of a service of the YAML support. -/
def bundledTags (service : String) : Tags :=
  [("service", service), ("bundle", bundle)]

/-- The journal before anything is written. -/
def initial (now : Instant) : Journal where
  level := .info
  table := .ofTags now (plainServices.map serviceTags ++ bundledServices.map bundledTags)
  sink := none
  path := ""
  lines := []

/-- Lines of this level are written. -/
def takes (journal : Journal) (level : Level) : Bool :=
  journal.level.rank ≤ level.rank

/-- The number of log files that are kept. -/
def keptFiles : Nat := 10

/-- The name of a log file. -/
def isLogName (name : String) : Bool :=
  ".log".toList.isSuffixOf name.toList

end Journal

namespace Platform

/-- The current directory. -/
def cwd (p : Platform) : Path :=
  p.files.cwd

/-- Hands a line to the log file or the standard error stream. -/
def writeLine (line : Text) (p : Platform) : Platform :=
  let journal := { p.journal with lines := p.journal.lines ++ [line] }
  match journal.sink with
  | none => { p with journal }
  | some handle =>
    let (handle, files) := p.files.writeThrough handle (Utf8.encode line ++ [0x0A])
    { p with files, journal := { journal with sink := some handle } }

/-- Writes a message with the logger of this number. -/
def logWith (n : Nat) (level : Level) (message : Json) (extra : Tags) (p : Platform) : Platform :=
  if p.journal.takes level then
    let logger := p.journal.table.get n
    let line := logger.line p.clock level message extra
    let table := p.journal.table.set n { logger with last := p.clock }
    { p with journal := { p.journal with table } }.writeLine line
  else p

/-- The logger of a service. -/
def serviceLogger (service : String) (p : Platform) : Nat × Platform :=
  let (n, table) := p.journal.table.create p.clock (Journal.serviceTags service)
  (n, { p with journal := { p.journal with table } })

/-- Writes a message in the name of a service. -/
def log (service : String) (level : Level) (message : Text) (extra : Tags) (p : Platform) :
    Platform :=
  let (n, p) := p.serviceLogger service
  p.logWith n level (.str message) extra

@[simp] theorem cwd_writeLine (line : Text) (p : Platform) : (p.writeLine line).cwd = p.cwd := by
  unfold writeLine
  dsimp only
  cases p.journal.sink with
  | none => rfl
  | some handle => exact FileSystem.cwd_writeThrough _ _ _

/-- Writing to the journal does not change where the program runs. -/
@[simp] theorem cwd_log (service : String) (level : Level) (message : Text) (extra : Tags)
    (p : Platform) : (p.log service level message extra).cwd = p.cwd := by
  unfold log logWith
  dsimp only
  split
  · exact cwd_writeLine _ _
  · rfl

/-- The lines written between two states. -/
def linesSince (before after : Platform) : List Text :=
  after.journal.lines.drop before.journal.lines.length

end Platform

namespace Task

/-- Writes a message in the name of a service. -/
def log (service : String) (level : Level) (message : Text) (extra : Tags) : Task Unit :=
  modify (Platform.log service level message extra)

/-- Fails with an error of the operating system about a path. -/
def failWith {α : Type} (errno : Errno) (path : String) : Task α :=
  throw (.os ⟨errno, path⟩)

/-- The result of a question about a path, whose error names the path as shown. -/
def ofErrno {α : Type} (shown : Path) : Except Errno α → Task α
  | .ok x => pure x
  | .error errno => failWith errno shown.text

/-- A result as an action. -/
def ofExcept {α : Type} : Except Fault α → Task α
  | .ok x => pure x
  | .error fault => throw fault

/-- Replaces the file system. -/
def setFiles (files : FileSystem) : Task Unit :=
  modify fun p => { p with files }

end Task

end LanguageHost
