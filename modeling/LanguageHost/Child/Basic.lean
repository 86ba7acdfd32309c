import LanguageHost.Child.Conversation
import LanguageHost.Child.Executable
import LanguageHost.Fault
import LanguageHost.Server.Framing

/-!
# Child processes

A child process is what is left of its program, the input it has not read yet, the output nobody
has taken yet, and its exit code once it has one. A program is a list of instructions. What a
command of a script leaves to be done behind it stands in the same list, so that a child can wait
anywhere: for input, for time to pass, or for a signal.

A script runs some of its commands as processes of their own, which see a copy of the scope. Their
end is marked by a frame that keeps what was in force before.

A negative exit code is the number of the signal that ended the child.
-/

namespace LanguageHost

/-- What a frame is the end of. -/
inductive FrameKind where
  /-- A process of its own. -/
  | apart
  /-- A process of its own whose output is filled into a command. -/
  | output (command : ScriptCommand)
  /-- A process of its own whose output is the input of the next one. -/
  | pipe (rest : List ScriptCommand)
  /-- A command whose channels lead elsewhere. -/
  | channels
  /-- A function. -/
  | function
  /-- A command with variables of its own, and their values outside of it. -/
  | bindings (outer : List (String × Option String))

/-- The end of something, and what was in force before it: the scope, and how much input was given
and how much output was kept. -/
structure Frame where
  kind : FrameKind
  outer : Scope
  given : Nat
  kept : Nat

/-- Something that is left to be done. -/
inductive Instruction where
  /-- Runs what is left of a script, line by line. -/
  | script (tokens : List Script.Token)
  /-- Runs the lines that come in as a script; the text is what belongs to a command that is not
  complete. -/
  | readScript (pending : String)
  /-- Runs a command; `isFilled` says that the output of others was filled into it. -/
  | command (c : ScriptCommand) (isFilled : Bool)
  | deed (d : Deed)
  | readLine (names : List String) (isRaw : Bool)
  /-- Runs a command if the last one succeeded, or if it failed. -/
  | follow (succeeded : Bool) (c : ScriptCommand)
  | negate
  | choose (yes no : List ScriptCommand)
  /-- A turn of a loop, which begins with its condition. -/
  | turn (succeeded : Bool) (condition body : List ScriptCommand)
  /-- A turn of a loop behind its condition, and the status that the loop has without it. -/
  | turnIf (succeeded : Bool) (condition body : List ScriptCommand) (status : Int)
  | eachOf (name : String) (values : List String) (body : List ScriptCommand)
  | leave (frame : Frame)
  /-- Ends the script if the last command failed and the script is to end then. -/
  | verify
  /-- Ends the process with the last status. -/
  | quit
  /-- Ends the child with a code. -/
  | finish (code : Int)
  /-- Reads framed messages and reacts to them. -/
  | serve

/-- A child process. -/
structure Child where
  /-- The words that the child was started by. -/
  command : List String
  program : List Instruction
  scope : Scope
  status : Int
  /-- The files of the machine when the child was started. -/
  files : FileSystem
  /-- What a scripted server does on this machine. -/
  conversation : Conversation
  input : List UInt8
  inputEnded : Bool
  /-- The input that was made by other commands, the innermost one first. -/
  given : List (List UInt8)
  /-- Bytes were written to the child that it was not there to take. -/
  unsent : Bool
  output : List UInt8
  /-- The output that is kept for other commands, the innermost one first. -/
  kept : List (List UInt8)
  code : Option Int
  /-- The messages that a scripted server has read. -/
  received : List Json
  deriving Inhabited

namespace Child

/-- The number of the signal that asks to terminate. -/
def terminateSignal : Nat := 15

/-- The number of the signal that ends a process at once. -/
def killSignal : Nat := 9

/-- The number that stands for the end of a script among signals. -/
def endSignal : Nat := 0

/-! ## Channels -/

/-- Writes bytes where a sink leads. -/
def writeTo (sink : Sink) (bytes : List UInt8) (c : Child) : Child :=
  match sink with
  | .outward => { c with output := c.output ++ bytes }
  | .kept => { c with kept := c.kept.modifyHead fun kept => kept ++ bytes }
  | .nowhere => c

/-- Writes bytes to the output in force. -/
def write (c : Child) (bytes : List UInt8) : Child :=
  c.writeTo c.scope.output bytes

/-- The bytes that have come in and have not been read. -/
def available (c : Child) : List UInt8 :=
  match c.scope.input with
  | .inward => c.input
  | .given => c.given.headD []
  | .nowhere => []

/-- No more bytes will come in. -/
def isInputOver (c : Child) : Bool :=
  match c.scope.input with
  | .inward => c.inputEnded
  | .given | .nowhere => true

/-- Leaves these bytes of the input to be read. -/
def leaveInput (rest : List UInt8) (c : Child) : Child :=
  match c.scope.input with
  | .inward => { c with input := rest }
  | .given => { c with given := c.given.modifyHead fun _ => rest }
  | .nowhere => c

/-! ## Frames -/

/-- Puts instructions in front of what is left to be done. -/
def push (instructions : List Instruction) (c : Child) : Child :=
  { c with program := instructions ++ c.program }

/-- Puts commands in front of what is left to be done. -/
def pushCommands (commands : List ScriptCommand) (c : Child) : Child :=
  c.push (commands.map fun command => .command command false)

/-- The frame that ends something that begins now. -/
def frame (kind : FrameKind) (c : Child) : Frame :=
  ⟨kind, c.scope, c.given.length, c.kept.length⟩

/-- The channels of a scope in another one. -/
def withChannels (channels scope : Scope) : Scope :=
  { scope with input := channels.input, output := channels.output, errors := channels.errors }

/-- The variables that had values before, with these values. -/
def restoreVariables (outer : List (String × Option String)) (scope : Scope) : Scope :=
  outer.foldl
    (fun scope (name, value) =>
      match value with
      | some value => scope.setVariable name value
      | none => { scope with bindings := scope.bindings.filter fun m => m.1 ≠ name })
    scope

/-- Brings back what was in force before a frame. -/
def restore (f : Frame) (c : Child) : Child :=
  let scope := match f.kind with
    | .apart | .output _ | .pipe _ => f.outer
    | .channels => withChannels f.outer c.scope
    | .function => { withChannels f.outer c.scope with arguments := f.outer.arguments }
    | .bindings outer => restoreVariables outer (withChannels f.outer c.scope)
  { c with
    scope
    given := c.given.drop (c.given.length - f.given)
    kept := c.kept.drop (c.kept.length - f.kept) }

/-- The instruction is the end of a process of its own. -/
def endsProcess : Instruction → Bool
  | .leave ⟨.apart, _, _, _⟩ | .leave ⟨.output _, _, _, _⟩ | .leave ⟨.pipe _, _, _, _⟩ => true
  | _ => false

/-- Passes over instructions up to one where this is to stop, which is left to be done. What frames
on the way have changed is brought back. -/
def unwind (stops : Instruction → Bool) : List Instruction → Child → Child
  | [], c => { c with program := [] }
  | i :: rest, c =>
    if stops i then { c with program := i :: rest }
    else
      match i with
      | .leave f => unwind stops rest (c.restore f)
      | _ => unwind stops rest c

/-- Begins a process of its own that ends with a frame. -/
def enter (kind : FrameKind) (instructions : List Instruction) (c : Child) : Child :=
  c.push (instructions ++ [.leave (c.frame kind)])

/-! ## Ends -/

/-- Ends the child. -/
def exit (c : Child) (code : Int) : Child :=
  { c with program := [], code := some code }

/-- Ends the process in force: the child, unless it runs one of its own. A child that has something
to do at its end does so first. -/
def exitProcess (c : Child) (code : Int) : Child :=
  if c.program.any endsProcess then unwind endsProcess c.program { c with status := code }
  else
    match (c.scope.traps.find? fun trap => trap.1 = endSignal) with
    | none => c.exit code
    | some (_, handler) =>
      { c with
        status := code, program := [.script (Script.tokens handler), .finish code]
        scope := { c.scope with traps := c.scope.traps.filter fun t => t.1 ≠ endSignal } }

/-- The signals that do nothing unless they are waited for. -/
def harmlessSignals : List Nat := [17, 18, 23, 28]

/-- What a signal to a script does, which goes on with what it does about it. -/
def signal (number : Nat) (c : Child) : Child :=
  if number = 0 then c
  else
    match if number = killSignal then none else c.scope.traps.find? fun t => t.1 = number with
    | some (_, "") => c
    | some (_, handler) =>
      c.push [.script (Script.tokens handler), .deed (.write [] c.status)]
    | none => if harmlessSignals.contains number then c else c.exit (-number)

/-! ## Scripted servers -/

/-- Takes reactions in order until one ends the server. The result says that it goes on. -/
def react (id : Json) : List Reaction → Child → Bool × Child
  | [], c => (true, c)
  | .send message :: rest, c => react id rest (c.write (Framing.frame (Reaction.fillId id message)))
  | .raw text :: rest, c => react id rest (c.write (Utf8.encodeString text))
  | .quit code :: _, c => (false, c.exitProcess code)

/-- Reads one message and reacts to it. The result says that the server goes on. -/
def hear (message : Json) (c : Child) : Bool × Child :=
  let c := { c with received := c.received ++ [message] }
  match message.member? "method" with
  | some (.str method) =>
    let reactions := (findMember? method c.conversation).getD []
    react ((message.member? "id").getD .null) reactions c
  | _ => (true, c)

/-- Reads messages while whole ones have come in. The result says that the server goes on. -/
def listen : Nat → Child → Bool × Child
  | 0, c => (true, c)
  | fuel + 1, c =>
    match Framing.next (.pipe c.isInputOver) c.available with
    | .body bytes rest =>
      match Framing.parse? bytes with
      | some message =>
        match hear message (c.leaveInput rest) with
        | (true, c) => listen fuel c
        | ended => ended
      | none => listen fuel (c.leaveInput rest)
    | .badLength rest => listen fuel (c.leaveInput rest)
    | .tooLong => (false, c.exitProcess 1)
    | .wait | .done => (true, c)

end Child

end LanguageHost
