import LanguageHost.FileSystem.Step
import LanguageHost.Server.Connection

/-!
# Trying out a connection

Commands to one connection: starting and stopping its process, talking to it, and putting a
rehearsal in its place.

What a rehearsal was asked is shown as it stands at the end, when all commands have been taken; a
result may therefore be `Shown.requests`, which `Stage.settle` turns into the requests.
-/

namespace LanguageHost.Connection

/-- A command to a connection. -/
inductive Command where
  | file (step : FileStep)
  | describe
  | commands (words : List String)
  | folder (text : Option String)
  | start
  | alive
  | hook
  | send (text : String)
  | endInput
  | line
  | rest
  | wait
  | stop (grace : Option Json)
  | rehearse (ending : Ending) (code : Option Int)
  | requests

/-- What a command shows. -/
inductive Shown where
  | value (value : Json)
  /-- Everything that the rehearsal with this number is asked. -/
  | requests (number : Nat)

/-- The machine and the connection. -/
structure Stage where
  platform : Platform
  connection : Connection

/-- An action on a connection that may fail. -/
abbrev StageAct := ExceptT Fault (StateM Stage)

namespace Stage

/-- An action on the machine. -/
def onPlatform {α : Type} (task : Task α) : StageAct α := fun s =>
  let (result, platform) := task s.platform
  (result, { s with platform })

/-- An action on the connection. -/
def onConnection {α : Type} (act : ConnectionAct α) : StageAct α := fun s =>
  let (result, connection) := act s.connection
  (result, { s with connection })

/-- Replaces the connection. -/
def setConnection (connection : Connection) : StageAct Unit :=
  modify fun s => { s with connection }

/-- A request to a process as it is shown. -/
def showRequest : Request → Json
  | .wait seconds => .arr [.ofString "wait", seconds]
  | .poll => .arr [.ofString "poll"]
  | .terminate => .arr [.ofString "terminate"]
  | .kill => .arr [.ofString "kill"]

/-- The text that bytes are. -/
def textOf (bytes : List UInt8) : StageAct Json :=
  match Utf8.decode bytes with
  | .ok cs => return .str (Text.ofChars cs)
  | .error fault => throw (.undecodable fault)

/-- The time that is waited for an exit code, in seconds. -/
def waitingTime : Nat := 5

/-- Takes a command; the result is its value. -/
def value (command : Command) : StageAct Json := do
  let c := (← get).connection
  match command with
  | .file step => onPlatform step.perform
  | .describe =>
    return .arr [.ofString c.describe, Json.ofStrings c.commands, Json.ofString? c.folder]
  | .commands words =>
    setConnection { c with commands := words }
    return .null
  | .folder text =>
    setConnection { c with folder := text }
    return .null
  | .start =>
    setConnection (← onPlatform c.start)
    return .null
  | .alive =>
    setConnection (c.note .poll)
    return .bool c.isAlive
  | .hook => return .null
  | .send text =>
    onConnection (send (Utf8.encodeString text))
    return .null
  | .endInput =>
    onConnection closeInput
    return .null
  | .line => textOf (← onConnection readLine)
  | .rest => textOf (← onConnection readAll)
  | .wait => return .int (← onConnection (awaitCode waitingTime))
  | .stop grace =>
    setConnection (← onPlatform (c.stop (grace.getD Connection.grace)))
    return .null
  | .rehearse ending code =>
    let process := ServerProcess.rehearsed (.make c.requests.length ending code)
    setConnection { c with process := some process, requests := c.requests ++ [[]] }
    return .null
  | .requests => return .null

/-- Takes a command; the result is what it shows. -/
def perform (command : Command) : StageAct Shown := do
  match command, (← get).connection.requests.length with
  | .requests, number + 1 => return .requests number
  | .requests, 0 => return .value (.arr [])
  | other, _ => return .value (← value other)

/-- What is shown in the end. -/
def settle (s : Stage) : Shown → Json
  | .value value => value
  | .requests number => .arr ((s.connection.requests.getD number []).map showRequest)

end Stage

end LanguageHost.Connection
