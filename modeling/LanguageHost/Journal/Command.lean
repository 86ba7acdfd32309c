import LanguageHost.FileSystem.Step
import LanguageHost.Journal.Opening

/-!
# Commands to the journal

Commands that set the clock and the level, make loggers and write with them, and open and close the
log file. Loggers are known by the names they were given; two names may stand for one logger.
-/

namespace LanguageHost.Journal

/-- A command to the journal. When the log is opened, an empty text is no level and no folder. -/
inductive Command where
  | file (step : FileStep)
  | clock (time : Instant)
  | level (name : Option String)
  | create (name : String) (tags : Json)
  | clone (source name : String)
  | tag (name : String) (key : Text) (value : Json)
  | tags (name : String)
  /-- The level is given by the word for writing at it. -/
  | log (name word : String) (message extra : Json)
  | openLog (print : Bool) (level : Option String) (folder : Option String)
  | closeLog

/-- The machine, and the names of loggers in the order they were given. -/
structure Desk where
  platform : Platform
  names : List (String × Nat)

/-- An action on the journal that may fail. -/
abbrev DeskAct := ExceptT Fault (StateM Desk)

namespace Desk

/-- An action on the machine. -/
def onPlatform {α : Type} (task : Task α) : DeskAct α := fun d =>
  let (result, platform) := task d.platform
  (result, { d with platform })

/-- The number of the logger with a name. -/
def numberOf (name : String) : DeskAct Nat := do
  match findMember? name (← get).names with
  | some n => pure n
  | none => throw (.missingKey name)

/-- The level with a name. -/
def levelOf (name : String) : DeskAct Level :=
  match Level.ofName? name with
  | some level => pure level
  | none => throw (.unknownLevel name)

/-- The words for writing at each level. -/
def levelWords : List (String × Level) :=
  [("debug", .debug), ("info", .info), ("warn", .warn), ("error", .error)]

/-- The tags that a new logger gets; an empty value of any kind is no tags. -/
def tagsOf (tags : Json) : DeskAct Tags :=
  match tags with
  | .obj members => pure members
  | other => if other.isEmpty then pure [] else throw (.noMember other.kindWord "get")

/-- The tags that stand beside a message; an empty value of any kind is no tags. -/
def extraOf (extra : Json) : DeskAct Tags :=
  if extra.isEmpty then pure []
  else
    match extra.mapping with
    | .ok members => pure members
    | .error fault => throw fault

/-- Changes the table of loggers. -/
def modifyTable (change : LoggerTable → LoggerTable) : DeskAct Unit :=
  modify fun d =>
    let journal := d.platform.journal
    { d with platform :=
      { d.platform with journal := { journal with table := change journal.table } } }

/-- Makes the logger for these tags, or finds the shared one. -/
def makeLogger (tags : Tags) : DeskAct Nat := do
  let d ← get
  let (n, table) := d.platform.journal.table.create d.platform.clock tags
  modifyTable fun _ => table
  return n

/-- The level in force, and whether lines of each level are written. -/
def showLevel : DeskAct Json := do
  let journal := (← get).platform.journal
  let taken := [Level.debug, .info, .warn, .error].map fun level => Json.bool (journal.takes level)
  return .arr (.ofString journal.level.name :: taken)

/-- Takes a command; the result is what it shows. -/
def perform : Command → DeskAct Json
  | .file step => onPlatform step.perform
  | .clock time => do
    if !time.isInCalendar then throw (.beyondCalendar time.days)
    modify fun d => { d with platform := { d.platform with clock := time } }
    return .null
  | .level none => showLevel
  | .level (some name) => do
    let level ← levelOf name
    modify fun d =>
      { d with platform := { d.platform with journal := { d.platform.journal with level } } }
    showLevel
  | .create name tags => do
    let n ← makeLogger (← tagsOf tags)
    let same := ((← get).names.filter fun entry => entry.2 = n && entry.1 ≠ name).map (·.1)
    modify fun d => { d with names := putMember name n d.names }
    return Json.ofStrings same
  | .clone source name => do
    let d ← get
    let logger := d.platform.journal.table.get (← numberOf source)
    let (n, table) := d.platform.journal.table.add ⟨logger.tags, d.platform.clock⟩
    modifyTable fun _ => table
    modify fun d => { d with names := putMember name n d.names }
    return .null
  | .tag name key value => do
    let n ← numberOf name
    modifyTable fun table =>
      let logger := table.get n
      table.set n { logger with tags := putMember key value logger.tags }
    return .bool true
  | .tags name => do
    let logger := (← get).platform.journal.table.get (← numberOf name)
    return .arr (logger.tags.map fun tag => .arr [.str tag.1, tag.2])
  | .log name word message extra => do
    let n ← numberOf name
    match findMember? word levelWords with
    | none => throw (.noMember "Logger" word)
    | some level =>
      if (← get).platform.journal.takes level then
        let extra ← extraOf extra
        modify fun d => { d with platform := d.platform.logWith n level message extra }
      return .null
  | .openLog print level folder => do
    let level ← (level.filter (· ≠ "")).mapM levelOf
    onPlatform (Journal.openLog print level ((folder.filter (· ≠ "")).map Path.ofString))
    return .null
  | .closeLog => do
    modify fun d => { d with platform := Journal.closeLog d.platform }
    return .null

end Desk

end LanguageHost.Journal
