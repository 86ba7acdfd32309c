import LanguageHost.Child.Shell

/-!
# Running a child

A child takes one instruction after another until one waits for input, for time to pass or for a
signal. Only so many are taken at a time, so that a child that never waits does not keep everything
else from going on.
-/

namespace LanguageHost.Child

/-! ## Reading -/

/-- The line at the start of bytes and what follows it. -/
def spanLine (bytes : List UInt8) : Option (List UInt8 × List UInt8) :=
  let line := bytes.takeWhile (· ≠ 0x0A)
  if line.length < bytes.length then some (line, bytes.drop (line.length + 1)) else none

/-- A text without the backslashes that take the meaning of other characters away. -/
def withoutBackslashes : List Char → List Char
  | '\\' :: c :: rest => c :: withoutBackslashes rest
  | ['\\'] => []
  | c :: rest => c :: withoutBackslashes rest
  | [] => []

/-- A text without blanks at its ends. -/
def trimBlanks (cs : List Char) : List Char :=
  let isBlank (c : Char) : Bool := c = ' ' || c = '\t'
  ((cs.dropWhile isBlank).reverse.dropWhile isBlank).reverse

/-- The values that variables take from a line: a word each, and the last one the rest. -/
def shareLine : List String → List Char → List (String × String)
  | [], _ => []
  | [name], cs => [(name, String.ofList (trimBlanks cs))]
  | name :: names, cs =>
    let cs := trimBlanks cs
    let word := cs.takeWhile fun c => c ≠ ' ' && c ≠ '\t'
    (name, String.ofList word) :: shareLine names (cs.drop word.length)

/-- Gives variables their values from a line. Without separators of words they keep its blanks. -/
def takeLine (names : List String) (isRaw : Bool) (line : List UInt8) (c : Child) : Child :=
  let cs := (Executable.textOf line).toList
  let cs := if isRaw then cs else withoutBackslashes cs
  let values :=
    if c.scope.value? "IFS" = some "" then names.map fun name => (name, String.ofList cs)
    else shareLine names cs
  { c with scope := values.foldl (fun s (name, value) => s.setVariable name value) c.scope }

/-- The lines that came in make up complete commands. -/
def isComplete (text : String) : Bool :=
  match Script.readLine (Script.tokens text) with
  | some (_, rest) => rest.isEmpty
  | none => false

/-! ## Instructions -/

/-- Whether an instruction was taken to its end, and the child behind it. A child that has to wait
is left with what remains to be done. -/
abbrev Taken := Bool × Child

/-- Runs the lines that come in as a script. -/
def takeScript (pending : String) (c : Child) : Taken :=
  match spanLine c.available with
  | some (line, rest) =>
    let text := pending ++ Executable.textOf line ++ "\n"
    let c := c.leaveInput rest
    if isComplete text then
      (true, c.push [.script (Script.tokens text), .readScript ""])
    else (true, c.push [.readScript text])
  | none =>
    if c.isInputOver then
      let text := pending ++ Executable.textOf c.available
      (true, (c.leaveInput []).push [.script (Script.tokens text)])
    else (false, c.push [.readScript pending])

/-- Does a deed. -/
def takeDeed (d : Deed) (c : Child) : Taken :=
  match d with
  | .write bytes status => (true, c.answer bytes status)
  | .sleep 0 => (true, c.conclude 0)
  | .sleep microseconds => (false, c.push [.deed (.sleep microseconds)])
  | .copy =>
    let copied := (c.write c.available).leaveInput []
    if c.isInputOver then (true, copied.conclude 0) else (false, copied.push [.deed .copy])
  | .change result =>
    match result c.available c.isInputOver with
    | some (bytes, status) => (true, (c.leaveInput []).answer bytes status)
    | none => (false, c.push [.deed (.change result)])

/-- The instruction depends on the status of what stands before it. -/
def isTest : Instruction → Bool
  | .follow _ _ | .negate | .choose _ _ | .turnIf _ _ _ _ => true
  | _ => false

/-- The last command succeeded. -/
def isGood (c : Child) : Bool :=
  c.status == 0

/-- Takes the lines of a script, the first one before the others. -/
def takeLines (tokens : List Script.Token) (c : Child) : Child :=
  match Script.readLine tokens with
  | none => c.exitProcess misused
  | some (commands, rest) =>
    (if rest.isEmpty then c else c.push [.script rest]).pushCommands commands

/-- Takes one instruction. -/
def take (i : Instruction) (c : Child) : Taken :=
  match i with
  | .script tokens => (true, c.takeLines tokens)
  | .readScript pending => c.takeScript pending
  | .command command isFilled => (true, c.run command isFilled)
  | .deed d => c.takeDeed d
  | .readLine names isRaw =>
    match spanLine c.available with
    | some (line, rest) => (true, ((c.leaveInput rest).takeLine names isRaw line).conclude 0)
    | none =>
      if c.isInputOver then
        (true, ((c.leaveInput []).takeLine names isRaw c.available).conclude 1)
      else (false, c.push [.readLine names isRaw])
  | .follow succeeded command =>
    (true, if c.isGood == succeeded then c.push [.command command false] else c)
  | .negate => (true, c.conclude (if c.isGood then 1 else 0))
  | .choose yes no =>
    (true, if c.isGood then c.pushCommands yes else (c.conclude 0).pushCommands no)
  | .turn succeeded condition body =>
    (true, (c.push [.turnIf succeeded condition body c.status]).pushCommands condition)
  | .turnIf succeeded condition body status =>
    (true,
      if c.isGood == succeeded then
        ((c.conclude 0).push [.turn succeeded condition body]).pushCommands body
      else c.conclude status)
  | .eachOf _ [] _ => (true, c)
  | .eachOf name (value :: values) body =>
    let c := { c with scope := c.scope.setVariable name value }
    (true, (c.push [.eachOf name values body]).pushCommands body)
  | .leave f => (true, c.leaveFrame f)
  | .verify =>
    let isTested := (c.program.takeWhile fun i => !endsProcess i).any isTest
    (true, if c.isGood || isTested then c else c.exitProcess c.status)
  | .quit => (true, c.exitProcess c.status)
  | .finish code => (true, c.exit code)
  | .serve =>
    match c.listen (c.available.length + 1) with
    | (false, c) => (true, c)
    | (true, c) => if c.isInputOver then (true, c.conclude 0) else (false, c.push [.serve])

/-- Takes instructions until one waits or the child comes to its end, at most so many. -/
def runProgram : Nat → Child → Child
  | 0, c => c
  | fuel + 1, c =>
    if c.code.isSome then c
    else
      match c.program with
      | [] => runProgram fuel (c.exitProcess c.status)
      | i :: rest =>
        match take i { c with program := rest } with
        | (true, c) => runProgram fuel c
        | (false, c) => c

/-- The number of instructions that are taken at a time. -/
def maxSteps : Nat := 10000

/-- Goes on as far as input and time allow. -/
def advance (c : Child) : Child :=
  runProgram maxSteps c

/-! ## Time -/

/-- Lets time pass, or as much of it as the sleeps of the child take. A sleep that is over lets the
child go on with the time that is left. -/
def passTime : Nat → Option Nat → Child → Child
  | 0, _, c => c
  | fuel + 1, limit, c =>
    match c.code, c.program with
    | none, .deed (.sleep needed) :: rest =>
      let isOver := limit.all fun microseconds => needed ≤ microseconds
      if isOver then
        let c := { c with program := rest, status := 0 }
        passTime fuel (limit.map (· - needed)) c.advance
      else { c with program := .deed (.sleep (needed - limit.getD 0)) :: rest }
    | _, _ => c

/-- The child after a time, or after as long as its sleeps take. -/
def after (limit : Option Nat) (c : Child) : Child :=
  passTime maxSteps limit c.advance

/-! ## Signals and input -/

/-- The instructions that a script waits for before it does something about a signal, and those
behind them: what runs as a process of its own comes to its end first. -/
def splitForeground (program : List Instruction) : List Instruction × List Instruction :=
  let behind := (program.reverse.takeWhile fun i => !endsProcess i).reverse
  let before := program.take (program.length - behind.length)
  match before, behind with
  | [], .deed d :: rest => ([.deed d], rest)
  | before, behind => (before, behind)

/-- Asks the child to terminate. -/
def terminate (c : Child) : Child :=
  if c.code.isSome then c
  else
    let (before, behind) := splitForeground c.program
    let signalled := { c with program := behind }.signal terminateSignal
    if signalled.code.isSome then signalled
    else advance { signalled with program := before ++ signalled.program }

/-- Ends the child at once. -/
def kill (c : Child) : Child :=
  if c.code.isSome then c else c.exit (-killSignal)

/-- Bytes come in. -/
def feed (bytes : List UInt8) (c : Child) : Child :=
  { c with input := c.input ++ bytes }.advance

/-- The input comes to its end. -/
def endInput (c : Child) : Child :=
  { c with inputEnded := true }.advance

/-- The child has the input that it was started with: it is in force, or comes back behind what is
being done. -/
def holdsInput (c : Child) : Bool :=
  c.scope.input = .inward || c.program.any fun i =>
    match i with
    | .leave f => f.outer.input = .inward
    | _ => false

/-- Hands bytes to the child. They fail to be written to an input that is closed; a child that is
gone, or that closed its end, does not take them, and they stay unsent. -/
def offer (bytes : List UInt8) (c : Child) : Option Fault × Child :=
  if c.inputEnded then (some .closedStream, c)
  else if c.code.isSome || !c.holdsInput then
    let unsent := c.unsent || !bytes.isEmpty
    (if unsent then some .brokenPipe else none, { c with unsent })
  else (none, c.feed bytes)

/-- Closes the child's input. Bytes that stayed unsent make this fail, but only once. -/
def closeInput (c : Child) : Option Fault × Child :=
  (if c.unsent then some .brokenPipe else none, { c.endInput with unsent := false })

end LanguageHost.Child
