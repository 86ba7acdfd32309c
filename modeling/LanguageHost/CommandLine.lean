import LanguageHost.Console
import LanguageHost.Host.Plugin
import LanguageHost.Journal.Opening

/-!
# The command line

The command line shows and edits the schema preference, prints the settings a server would receive,
and runs a server until it is interrupted. Options may stand between arguments; what follows two
dashes is an argument. The log is opened before the command's own arguments are looked at.

A run ends in one of three ways: with an exit code and what was printed, with wrong usage, or with
a fault that nothing handles.
-/

namespace LanguageHost.CommandLine

/-- What a command line asks for. -/
inductive Verb where
  | settings
  | schemaShow
  | schemaSet (value : String)
  | schemaClear
  | run (projects : List String)
  deriving DecidableEq, Repr

/-- The options in front of the command. -/
structure Globals where
  printLogs : Bool
  /-- The name of a level; only the one given last counts. -/
  level : String
  deriving DecidableEq, Repr

/-- The options and arguments of a command. -/
structure Arguments where
  preferences : Option String
  positional : List String
  deriving DecidableEq, Repr

/-- How a run ends. -/
inductive Outcome where
  | done (code : Nat) (output : List String)
  | wrongUsage
  | failed (fault : Fault)

/-- The exit code that a run ends with. -/
def Outcome.exitCode : Outcome → Nat
  | done code _ => code
  | wrongUsage => 2
  | failed _ => 1

/-- The value behind an option that is written in one word, `--option=value`. -/
def inlineValue? (option word : String) : Option String :=
  let start := (option ++ "=").toList
  if start.isPrefixOf word.toList then some (String.ofList (word.toList.drop start.length))
  else none

/-- A word that is read as an option. -/
def isOption (word : String) : Bool :=
  match word.toList with
  | '-' :: _ :: _ => true
  | _ => false

/-- Reads the options in front of the command; the rest begins with the command. -/
def readGlobals : Globals → List String → Option (Globals × List String)
  | globals, [] => some (globals, [])
  | globals, word :: rest =>
    if word = "--print-logs" then readGlobals { globals with printLogs := true } rest
    else if word = "--log-level" then
      match rest with
      | [] => none
      | level :: more => readGlobals { globals with level } more
    else if word = "--" then some (globals, rest)
    else
      match inlineValue? "--log-level" word with
      | some level => readGlobals { globals with level } rest
      | none => if isOption word then none else some (globals, word :: rest)

/-- Reads the options and arguments of a command. -/
def readArguments : Arguments → List String → Option Arguments
  | found, [] => some found
  | found, word :: rest =>
    if word = "--preferences" then
      match rest with
      | [] => none
      | path :: more => readArguments { found with preferences := some path } more
    else if word = "--" then some { found with positional := found.positional ++ rest }
    else
      match inlineValue? "--preferences" word with
      | some path => readArguments { found with preferences := some path } rest
      | none =>
        if isOption word then none
        else readArguments { found with positional := found.positional ++ [word] } rest

/-- The verb of a command without arguments of its own. -/
def plainVerb (verb : Verb) (found : Arguments) : Option Verb :=
  if found.positional.isEmpty then some verb else none

/-- What a command about the schema preference asks for; none if it is wrong. -/
def readSchemaCommand : List String → Option (Verb × Option String)
  | "show" :: words => do
    let found ← readArguments ⟨none, []⟩ words
    return (← plainVerb .schemaShow found, found.preferences)
  | "clear" :: words => do
    let found ← readArguments ⟨none, []⟩ words
    return (← plainVerb .schemaClear found, found.preferences)
  | "set" :: words => do
    let found ← readArguments ⟨none, []⟩ words
    match found.positional with
    | [value] => return (.schemaSet value, found.preferences)
    | _ => none
  | _ => none

/-- What a command and its words ask for; none if they are wrong. -/
def readCommand : List String → Option (Verb × Option String)
  | "settings" :: words => do
    let found ← readArguments ⟨none, []⟩ words
    return (← plainVerb .settings found, found.preferences)
  | "run" :: words => do
    let found ← readArguments ⟨none, []⟩ words
    return (.run found.positional, found.preferences)
  | "schema" :: "--" :: words => readSchemaCommand words
  | "schema" :: words => readSchemaCommand words
  | _ => none

/-- The first word names a command. -/
def isCommand (words : List String) : Bool :=
  match words with
  | word :: _ => ["settings", "schema", "run"].contains word
  | [] => false

/-- A host without recorders. -/
abbrev CliHost := Host Unit

/-- An action on a host without recorders. -/
abbrev CliAct := Act Unit

/-- No recorder reacts to anything. -/
def quietly (_ : List Unit) : CliAct Unit :=
  pure ()

/-- A new store at the given path or the usual one. -/
def newStore (preferences : Option String) : CliAct Nat := do
  let usual := (← get).preferencesPath
  let path := (preferences.map Path.ofString).getD usual
  Act.allocate (Host.addStore (.empty path))

/-- A new store with its defaults and what its file holds. -/
def loadedStore (preferences : Option String) : CliAct Nat := do
  let n ← newStore preferences
  modify fun h => h.setStore n (h.store n).withYamlDefaults
  Host.loadPreferences n
  return n

/-- What is printed about an error, in red. -/
def complaint (words : String) : Except Fault (List String) :=
  Console.message ("[red]Error: " ++ words ++ "[/red]")

/-- Prints the settings. -/
def showSettings (preferences : Option String) : CliAct Outcome := do
  let n ← loadedStore preferences
  let settings ← Wire.buildSettings n
  return .done 0 (Console.code (Json.writeIndented 0 settings))

/-- Prints the schema preference. -/
def showSchema (preferences : Option String) : CliAct Outcome := do
  let n ← loadedStore preferences
  let value := ((← get).store n).get schemaKey
  if value.isBlank then return .done 0 ["No schemas configured"]
  return .done 0 (Console.code value.display.toList)

/-- Replaces the schema preference, unless the text is refused. -/
def setSchema (value : String) (preferences : Option String) : CliAct Outcome := do
  match Schema.check (Text.ofString value) with
  | .error rejection =>
    let words := "invalid schema mapping: " ++ rejection.message.display
    return .done 1 (← Act.ofExcept (complaint words))
  | .ok _ =>
    let n ← loadedStore preferences
    Host.setPreference quietly n schemaKey (Text.ofString value)
    Host.savePreferences n
    return .done 0 ["Schema preference saved"]

/-- Resets the schema preference. -/
def clearSchema (preferences : Option String) : CliAct Outcome := do
  let n ← loadedStore preferences
  Host.resetPreference quietly n schemaKey
  Host.savePreferences n
  return .done 0 ["Schema preference cleared"]

/-- Starts a plugin and its server. -/
def startServer (plugin : Nat) (projects : List String) : CliAct Nat := do
  Host.startPlugin plugin
  let p := (← get).plugin plugin
  Host.addProjects quietly p.workspace projects
  Host.launchSession p.definition (some (← get).platform.cwd.text)

/-- Runs a server until it is interrupted, which happens as soon as it has started. A problem ends
the run with its message; the plugin is stopped and the log closed in any case. -/
def runServer (projects : List String) (preferences : Option String) : CliAct Outcome := do
  let store ← newStore preferences
  let workspace ← Act.allocate (Host.addWorkspace .empty)
  let registry ← Act.allocate (Host.addRegistry [])
  let plugin ← Host.createPlugin store workspace registry
  let outcome ← tryCatch
    (do
      let session ← startServer plugin projects
      let started := "[green]Started[/green] " ++ (← get).describeSession session
      return Outcome.done 0 ((← Act.ofExcept (Console.message started)) ++ ["Stopping"]))
    (fun fault =>
      return match fault with
      | .problem p =>
        match complaint p.message.display with
        | .ok lines => .done 1 lines
        | .error fault => .failed fault
      | other => .failed other)
  Host.stopPlugin plugin
  modify fun h => { h with platform := Journal.closeLog h.platform }
  return outcome

/-- Does what a verb asks for. -/
def execute (preferences : Option String) : Verb → CliAct Outcome
  | .settings => showSettings preferences
  | .schemaShow => showSchema preferences
  | .schemaSet value => setSchema value preferences
  | .schemaClear => clearSchema preferences
  | .run projects => runServer projects preferences

/-- Opens the log and does what the words ask for. -/
def executeWords (printLogs : Bool) (level : Level) (words : List String) : CliAct Outcome := do
  Act.onPlatform (Journal.openLog printLogs (some level) none)
  match readCommand words with
  | none => return .wrongUsage
  | some (verb, preferences) => execute preferences verb

/-- The options in front of the command and the words from the command on; none if the options are
wrong or no command follows. -/
def split (words : List String) : Option (Bool × Level × List String) := do
  let (globals, rest) ← readGlobals ⟨false, Level.info.name⟩ words
  let level ← Level.ofName? globals.level
  if isCommand rest then some (globals.printLogs, level, rest) else none

/-- Runs a command line. -/
def run (words : List String) (h : CliHost) : Outcome × CliHost :=
  match split words with
  | none => (.wrongUsage, h)
  | some (printLogs, level, rest) =>
    match executeWords printLogs level rest h with
    | (.ok outcome, h) => (outcome, h)
    | (.error fault, h) => (.failed fault, h)

end LanguageHost.CommandLine
