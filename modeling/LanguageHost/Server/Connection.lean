import LanguageHost.Child.Launch
import LanguageHost.Server.Waiting

/-!
# Connections

A connection runs the server as a child process and talks to it over the child's input and output.
Stopping waits for the child to go by itself, then asks it to terminate, and at last ends it.

`ServerProcess` is what a connection asks of its child. A rehearsal stands in for a child; it has no
input and output, and what it is asked is kept.
-/

namespace LanguageHost

/-- When a rehearsal comes to its end. -/
inductive Ending where
  | already
  | whenWaitedFor
  | whenTerminated
  | whenKilled
  deriving DecidableEq, Repr

/-- What a process is asked; a time is given as it was written. -/
inductive Request where
  | wait (seconds : Json)
  | poll
  | terminate
  | kill

/-- A process that stands in for a child. It ends with the planned code; if none is planned it runs
on until it is killed. -/
structure Rehearsal where
  /-- Its place among all rehearsals of a connection. -/
  number : Nat
  ending : Ending
  planned : Option Int
  code : Option Int

namespace Rehearsal

/-- The word for what rehearsals are started by. -/
def command : String := "fake"

/-- A rehearsal that has just begun. -/
def make (number : Nat) (ending : Ending) (planned : Option Int) : Rehearsal :=
  ⟨number, ending, planned, if ending = .already then planned else none⟩

/-- The rehearsal at a point where it may come to its end. -/
def reach (ending : Ending) (r : Rehearsal) : Rehearsal :=
  if r.ending = ending then { r with code := r.code.or r.planned } else r

/-- The rehearsal after it was ended. -/
def kill (r : Rehearsal) : Rehearsal :=
  { r with code := r.code.or (some (-(Child.killSignal : Int))) }

end Rehearsal

/-- A child, or a process that stands in for one. -/
inductive ServerProcess where
  | child (c : Child)
  | rehearsed (r : Rehearsal)

namespace ServerProcess

/-- The exit code, once there is one. -/
def code? : ServerProcess → Option Int
  | child c => c.advance.code
  | rehearsed r => r.code

/-- What the process was started by. -/
def command : ServerProcess → Json
  | child c => Json.ofStrings c.command
  | rehearsed _ => Rehearsal.command

/-- The process after waiting for it, for a time in microseconds or without a limit. -/
def waited (limit : Option Nat) : ServerProcess → ServerProcess
  | child c => child (c.after limit)
  | rehearsed r => rehearsed (r.reach .whenWaitedFor)

/-- The process after a request to terminate. -/
def terminated : ServerProcess → ServerProcess
  | child c => child c.terminate
  | rehearsed r => rehearsed (r.reach .whenTerminated)

/-- The process after it was ended. -/
def killed : ServerProcess → ServerProcess
  | child c => child c.kill
  | rehearsed r => rehearsed r.kill

end ServerProcess

/-- How a server is run: its command, its working directory, and its process while it runs. -/
structure Connection where
  /-- The word in front of the connection's description. -/
  title : String
  commands : List String
  folder : Option String
  process : Option ServerProcess
  /-- What each rehearsal was asked, in order. -/
  requests : List (List Request)
  deriving Inhabited

/-- An action on a connection that may fail. -/
abbrev ConnectionAct := ExceptT Fault (StateM Connection)

namespace Connection

/-- A connection that does not run. -/
def make (commands : List String) (folder : Option String) : Connection :=
  ⟨"", commands, folder, none, []⟩

/-- A connection in a message. -/
def describe (c : Connection) : String :=
  c.title ++ "ProcessStreamConnectionProvider(" ++ " ".intercalate c.commands ++ ")"

/-- The time a child is given to go by itself, in seconds. -/
def grace : Json := .float (Binary64.ofDecimal false 20 (-1))

/-- The time a child is given to obey the request to terminate. -/
def patience : Json := .float (Binary64.ofDecimal false 50 (-1))

/-- Starts the server. -/
def start (c : Connection) : Task Connection := do
  if c.commands.isEmpty then throw (.problem (.noCommand c.describe))
  Task.log "lsp.connection" .info "Starting language server"
    [("command", " ".intercalate c.commands)]
  match Launch.start (← get) c.commands c.folder with
  | .ok child => return { c with process := some (.child child) }
  | .error (.os fault) => throw (.problem (.launchFailed c.commands fault.message))
  | .error fault => throw fault

/-- The process runs. -/
def isAlive (c : Connection) : Bool :=
  match c.process with
  | some process => process.code?.isNone
  | none => false

/-- Notes what a rehearsal is asked. -/
def note (c : Connection) (request : Request) : Connection :=
  match c.process with
  | some (.rehearsed r) =>
    { c with requests := c.requests.modify r.number fun asked => asked ++ [request] }
  | _ => c

/-- Asks for the exit code. -/
def poll (c : Connection) : Option Int × Connection :=
  (c.process.bind ServerProcess.code?, c.note .poll)

/-- Asks something that changes the process. -/
def ask (request : Request) (change : ServerProcess → ServerProcess) (c : Connection) :
    Connection :=
  { c.note request with process := c.process.map change }

/-- Waits for the process, for a time or without a limit. -/
def wait (seconds : Json) (c : Connection) : Connection :=
  let limit := match seconds with
    | .null => none
    | other => some (Waiting.microseconds other)
  c.ask (.wait seconds) (ServerProcess.waited limit)

/-- Waits after a request to terminate, and ends the process if that was in vain. -/
def waitOrKill (c : Connection) : Connection :=
  let c := c.wait patience
  match c.process.bind ServerProcess.code? with
  | some _ => c
  | none => (c.ask .kill ServerProcess.killed).wait .null

/-- Sees to it that the process ends, after it had the given time to go by itself. -/
def bringToEnd (seconds : Json) (c : Connection) : Connection :=
  let (code, c) := (c.wait seconds).poll
  match code with
  | some _ => c.waitOrKill
  | none => (c.ask .terminate ServerProcess.terminated).waitOrKill

/-- The exit code as it is noted. -/
def codeTag (c : Connection) : Json :=
  match c.process.bind ServerProcess.code? with
  | some code => .int code
  | none => .null

/-- Why the process cannot be given so many seconds; a rehearsal takes any. -/
def waitFault? (seconds : Json) : ServerProcess → Option Fault
  | .child _ => Waiting.sumFault? seconds
  | .rehearsed _ => none

/-- Stops the server, if one runs. -/
def stop (seconds : Json) (c : Connection) : Task Connection := do
  match c.process with
  | none => return c
  | some process =>
    if let some fault := waitFault? seconds process then throw fault
    let c := c.bringToEnd seconds
    Task.log "lsp.connection" .info "Language server stopped" [("returncode", c.codeTag)]
    return { c with process := none }

/-- The child, if one was started. -/
def child? (c : Connection) : Option Child :=
  match c.process with
  | some (.child child) => some child
  | _ => none

/-- The child whose stream of a name is used; a rehearsal has no streams. -/
def childWith (stream : String) (c : Connection) : Except Fault Child :=
  match c.process with
  | some (.child child) => .ok child
  | some (.rehearsed _) => .error (.noMember "Rehearsal" stream)
  | none => .error (.problem .processNotStarted)

/-- Replaces the child. -/
def setChild (child : Child) (c : Connection) : Connection :=
  { c with process := some (.child child) }

/-- The name of the stream that a child reads from. -/
def inputName : String := "stdin"

/-- The name of the stream that a child writes to. -/
def outputName : String := "stdout"

/-- Does something to the child, which may fail after it has been done. -/
def onInput (change : Child → Option Fault × Child) : ConnectionAct Unit := do
  let c ← get
  match c.childWith inputName with
  | .error fault => throw fault
  | .ok child =>
    let (fault, child) := change child
    set (c.setChild child)
    match fault with
    | none => pure ()
    | some fault => throw fault

/-- Sends bytes to the child. -/
def send (bytes : List UInt8) : ConnectionAct Unit :=
  onInput (Child.offer bytes)

/-- Closes the child's input. -/
def closeInput : ConnectionAct Unit :=
  onInput Child.closeInput

/-- Takes bytes from the child's output: as many as a function leaves in front of the rest. -/
def takeOutput (ready : Child → Child) (split : List UInt8 → List UInt8 × List UInt8) :
    ConnectionAct (List UInt8) := do
  let c ← get
  match c.childWith outputName with
  | .error fault => throw fault
  | .ok child =>
    let child := ready child
    let (taken, rest) := split child.output
    set (c.setChild { child with output := rest })
    return taken

/-- The next line of the child's output. -/
def readLine : ConnectionAct (List UInt8) :=
  takeOutput Child.advance Framing.spanLine

/-- The rest of the child's output, up to its end. -/
def readAll : ConnectionAct (List UInt8) :=
  takeOutput (Child.after none) fun output => (output, [])

/-- The exit code of the process, for which is waited so many seconds. -/
def awaitCode (seconds : Nat) : ConnectionAct Int := do
  let limit : Json := .int seconds
  let c := (← get).wait limit
  set c
  match c.process with
  | none => throw (.noMember "NoneType" "wait")
  | some process =>
    match process.code? with
    | some code => return code
    | none => throw (.stillRunning process.command limit)

end Connection

end LanguageHost
