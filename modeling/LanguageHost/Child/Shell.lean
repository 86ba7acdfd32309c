import LanguageHost.Child.Basic

/-!
# Commands of scripts

How a child runs a command of a script. A command either changes the scope at once or leaves
instructions behind: what it is made of, and what is to be done afterwards.

A simple command is an assignment, a function, one of the commands that every script knows, or an
executable; executables run as processes of their own.
-/

namespace LanguageHost.Child

/-- The folder that a child works in. -/
def folder (c : Child) : Path :=
  Path.ofString c.scope.directory

/-- Leaves a status. -/
def conclude (status : Int) (c : Child) : Child :=
  { c with status }

/-- Writes bytes, and leaves a status. -/
def answer (bytes : List UInt8) (status : Int) (c : Child) : Child :=
  (c.write bytes).conclude status

/-- Changes the scope, and leaves the status of success. -/
def changeScope (change : Scope → Scope) (c : Child) : Child :=
  { c with scope := change c.scope, status := 0 }

/-- The status of a command that is wrongly used. -/
def misused : Int := 2

/-- The status of an executable that is no program. -/
def notRunnable : Int := 126

/-- The status of a command that is not there. -/
def notThere : Int := 127

/-! ## Executables -/

/-- The letters of the options that a script is called with, and the other arguments. -/
def splitLetters : List String → List Char × List String
  | [] => ([], [])
  | argument :: rest =>
    if argument = "-" || argument = "--" then ([], rest)
    else
      match argument.toList with
      | '-' :: letters =>
        let (more, words) := splitLetters rest
        (letters ++ more, words)
      | _ => ([], argument :: rest)

/-- Runs a script: one that is an argument, one in a file, or one that comes in. It sees the
variables that other programs see, and ignores the signals that are ignored already. -/
def beginScript (called : String) (arguments : List String) (c : Child) : Child :=
  let (letters, words) := splitLetters arguments
  let begin (called : String) (arguments : List String) (i : Instruction) : Child :=
    let inner (s : Scope) : Scope := { s with
      called, arguments, functions := [], stopsOnFailure := letters.contains 'e'
      bindings := s.bindings.filter fun m => s.exported.contains m.1
      traps := s.traps.filter fun trap => trap.2 = "" }
    (c.changeScope inner).push [i]
  match words with
  | [] => if letters.contains 'c' then c.conclude misused else begin called [] (.readScript "")
  | first :: rest =>
    if letters.contains 'c' then
      begin (rest.headD called) (rest.drop 1) (.script (Script.tokens first))
    else if letters.contains 's' then begin called words (.readScript "")
    else
      match Tool.bytesOf? c.files c.folder first with
      | some bytes => begin first rest (.script (Script.tokens (Executable.textOf bytes)))
      | none => c.conclude misused

/-- The executable that a command names where the child is. -/
def findExecutable (name : String) (arguments : List String) (c : Child) :
    Except Errno Executable :=
  Executable.find c.files (c.scope.value? "PATH") c.folder name arguments

/-- The name and the value in a text that is an assignment. -/
def splitAssignment? (text : String) : Option (String × String) :=
  let name := text.toList.takeWhile Script.isNameChar
  match name, text.toList.drop name.length with
  | first :: _, '=' :: value =>
    if first.isDigit then none else some (String.ofList name, String.ofList value)
  | _, _ => none

/-- Gives a variable that other programs see a value. -/
def exportVariable (name value : String) (s : Scope) : Scope :=
  { s.setVariable name value with exported := s.exported ++ [name] }

/-- Runs an executable in the process in force. The program `env` sets variables for another one
that its arguments name; only so many of them are followed. -/
def beginExecutable : Nat → Executable → Child → Child
  | 0, _, c => c.conclude notThere
  | fuel + 1, e, c =>
    match e.name with
    | "sh" | "dash" | "bash" => c.beginScript e.called e.arguments
    | "node" => c.push [.serve]
    | "env" =>
      let bare := e.arguments.head? = some "-i"
      let words := if bare then e.arguments.drop 1 else e.arguments
      let c := if bare then c.changeScope fun s => { s with exported := [] } else c
      let assigned := (words.map splitAssignment?).takeWhile Option.isSome
      let c := (assigned.filterMap id).foldl
        (fun c (name, value) => c.changeScope (exportVariable name value)) c
      match words.drop assigned.length with
      | [] =>
        let shown := c.scope.bindings.filter fun m => c.scope.exported.contains m.1
        c.answer (Utf8.encodeString (String.join (shown.map fun m => s!"{m.1}={m.2}\n"))) 0
      | name :: arguments =>
        match c.findExecutable name arguments with
        | .ok inner => beginExecutable fuel inner c
        | .error .noEntry | .error .notFolder => c.conclude notThere
        | .error _ => c.conclude notRunnable
    | name =>
      c.push ((Tool.deeds c.files c.folder name e.arguments).map Instruction.deed)

/-- How many programs that run another one are followed. -/
def maxPrograms : Nat := 8

/-- Runs what a command names in the process in force, or leaves the status of a failure. A file
that is no program is taken for a script. -/
def beginNamed (name : String) (arguments : List String) (c : Child) : Child :=
  match c.findExecutable name arguments with
  | .ok e => beginExecutable maxPrograms e c
  | .error .badFormat => c.beginScript name ("--" :: name :: arguments)
  | .error .noEntry | .error .notFolder => c.conclude notThere
  | .error _ => c.conclude notRunnable

/-! ## Signals -/

/-- The names of the signals, from number 1 on. -/
def signalNames : List String :=
  ["HUP", "INT", "QUIT", "ILL", "TRAP", "ABRT", "BUS", "FPE", "KILL", "USR1", "SEGV", "USR2",
    "PIPE", "ALRM", "TERM", "STKFLT", "CHLD", "CONT", "STOP", "TSTP", "TTIN", "TTOU", "URG"]

/-- The number of the signal that a text means. -/
def signalNumber? (text : String) : Option Nat :=
  match Script.integer? text with
  | some n => if 0 ≤ n && n ≤ 64 then some n.toNat else none
  | none =>
    if text = "EXIT" then some endSignal else (signalNames.idxOf? text).map fun i => i + 1

/-- The number of the signal that arguments ask for, and the processes that it is for. -/
def signalAndTargets? : List String → Option (Nat × List String)
  | "-s" :: name :: targets => (signalNumber? name).map fun n => (n, targets)
  | first :: rest =>
    match first.toList with
    | '-' :: name =>
      (signalNumber? (String.ofList name)).map fun n =>
        (n, if rest.head? = some "--" then rest.drop 1 else rest)
    | _ => some (terminateSignal, first :: rest)
  | [] => none

/-- Sends a signal. A child only knows itself. -/
def runKill (words : List String) (c : Child) : Child :=
  match signalAndTargets? words with
  | none => c.conclude misused
  | some (number, targets) =>
    let isOwn := targets.all fun t => c.scope.parameter? 0 "$" = some t
    if targets.isEmpty then c.conclude misused
    else if isOwn then (c.conclude 0).signal number
    else c.conclude 1

/-- Says what signals do. -/
def runTrap (words : List String) (c : Child) : Child :=
  let (handler, names) := match words with
    | [] => ("-", [])
    | [name] => ("-", [name])
    | first :: rest => if (Script.integer? first).isSome then ("-", words) else (first, rest)
  match names.mapM signalNumber? with
  | none => c.conclude 1
  | some numbers =>
    c.changeScope fun s =>
      let others := s.traps.filter fun trap => !numbers.contains trap.1
      { s with traps :=
          if handler = "-" then others else others ++ numbers.map fun n => (n, handler) }

/-! ## The commands that every script knows -/

/-- Changes the folder that the child works in. -/
def changeFolder (target : String) (c : Child) : Child :=
  match { c.files with cwd := c.folder }.lookUp true target with
  | .ok (.node names (.folder _ _)) =>
    c.changeScope fun s => { s with directory := (Path.mk .root names).text }
  | _ => c.conclude misused

/-- The instruction is a turn of a loop. -/
def isTurn : Instruction → Bool
  | .turn _ _ _ | .turnIf _ _ _ _ | .eachOf _ _ _ => true
  | _ => false

/-- Leaves so many loops; only if `goesOn` says so, the last one of them goes on. -/
def leaveLoops (goesOn : Bool) : Nat → Child → Child
  | 0, c => c
  | count + 1, c =>
    if !c.program.any isTurn then c
    else
      let c := unwind isTurn c.program (c.conclude 0)
      if count = 0 then if goesOn then c else { c with program := c.program.drop 1 }
      else leaveLoops goesOn count { c with program := c.program.drop 1 }

/-- The instruction is the end of a function. -/
def endsFunction : Instruction → Bool
  | .leave ⟨.function, _, _, _⟩ => true
  | _ => false

/-- Sets options, and arguments if there are any. -/
def setOptions (words : List String) (s : Scope) : Scope :=
  let isOption (w : String) : Bool :=
    w.length > 1 && (w.toList.head? = some '-' || w.toList.head? = some '+') && w ≠ "--"
  let options := words.takeWhile isOption
  let rest := words.drop options.length
  let stops := options.foldl
    (fun stops o =>
      if o.toList.contains 'e' then o.toList.head? = some '-' else stops) s.stopsOnFailure
  let s := { s with stopsOnFailure := stops }
  match rest with
  | "--" :: arguments => { s with arguments }
  | [] => s
  | arguments => { s with arguments }

/-- Sets variables that other programs see; a word without a value only names one. -/
def exportWords (words : List String) (s : Scope) : Scope :=
  words.foldl
    (fun s word =>
      match splitAssignment? word with
      | some (name, value) => exportVariable name value s
      | none => { s with exported := s.exported ++ [word] })
    s

/-- Sets variables. -/
def assignWords (words : List String) (s : Scope) : Scope :=
  words.foldl
    (fun s word =>
      match splitAssignment? word with
      | some (name, value) => s.setVariable name value
      | none => s)
    s

/-- Runs a script in the scope in force. -/
def runText (script : String) (c : Child) : Child :=
  (c.conclude 0).push [.script (Script.tokens script)]

/-- Goes on with another program in place of the process in force. -/
def runExec (words : List String) (c : Child) : Child :=
  match words with
  | [] => c.conclude 0
  | name :: arguments =>
    let c := { c with
      program := .quit :: c.program.dropWhile fun i => !endsProcess i
      scope := { c.scope with traps := c.scope.traps.filter fun trap => trap.2 = "" } }
    c.beginNamed name arguments

/-- The code that a script ends with if a word is given; none if it is no number. -/
def exitCode? (word : String) : Option Int :=
  if word.isEmpty || !word.toList.all Char.isDigit then none
  else some (Json.Loose.digitsValue word.toList % 256 : Nat)

/-- Runs a command that every script knows; none if it is not one. -/
def runKnown? (name : String) (words : List String) (c : Child) : Option Child :=
  match name with
  | ":" | "true" | "wait" | "umask" | "ulimit" => some (c.conclude 0)
  | "false" => some (c.conclude 1)
  | "echo" => some (c.answer (Printed.echo .script words) 0)
  | "printf" =>
    let (bytes, status) := Printed.format .script words
    some (c.answer bytes status)
  | "pwd" => some (c.answer (Utf8.encodeString (c.scope.directory ++ "\n")) 0)
  | "test" | "[" => some (c.conclude (Tool.test c.files c.folder name words))
  | "cd" =>
    some (c.changeFolder ((words.head?).getD ((c.scope.value? "HOME").getD "")))
  | "exit" =>
    match words with
    | [] => some (c.exitProcess c.status)
    | word :: _ => some (c.exitProcess ((exitCode? word).getD misused))
  | "return" =>
    let status := (words.head?).elim c.status fun word => (exitCode? word).getD misused
    if c.program.any endsFunction then some (unwind endsFunction c.program (c.conclude status))
    else some (c.exitProcess status)
  | "break" | "continue" =>
    let count := ((words.head?).bind exitCode?).getD 1
    some (c.leaveLoops (name = "continue") count.toNat)
  | "shift" =>
    let count := (((words.head?).bind exitCode?).getD 1).toNat
    if c.scope.arguments.length < count then some (c.exitProcess misused)
    else some (c.changeScope fun s => { s with arguments := s.arguments.drop count })
  | "set" => some (c.changeScope (setOptions words))
  | "export" => some (c.changeScope (exportWords words))
  | "readonly" | "local" => some (c.changeScope (assignWords words))
  | "unset" =>
    some (c.changeScope fun s =>
      { s with
        bindings := s.bindings.filter fun m => !words.contains m.1
        functions := s.functions.filter fun f => !words.contains f.1 })
  | "read" =>
    let names := words.filter fun w => w.toList.head? ≠ some '-'
    let isRaw := words.contains "-r"
    some (c.push [.readLine (if names.isEmpty then ["REPLY"] else names) isRaw])
  | "kill" => some (c.runKill words)
  | "trap" => some (c.runTrap words)
  | "eval" => some (c.runText (" ".intercalate words))
  | "." =>
    match (words.head?).bind (Tool.bytesOf? c.files c.folder) with
    | some bytes => some (c.runText (Executable.textOf bytes))
    | none => some (c.exitProcess misused)
  | "exec" => some (c.runExec words)
  | _ => none

/-! ## Simple commands -/

/-- Runs the words of a simple command. -/
def runWords (words : List String) (c : Child) : Child :=
  match words with
  | [] => c.conclude 0
  | name :: arguments =>
    match findMember? name c.scope.functions with
    | some body =>
      let f := c.frame .function
      let c := c.changeScope fun s => { s with arguments }
      c.push [.command body false, .leave f]
    | none =>
      match if name = "command" then c.runKnown? (arguments.headD "") (arguments.drop 1)
        else c.runKnown? name arguments with
      | some c => c
      | none =>
        let (name, arguments) :=
          if name = "command" then (arguments.headD "", arguments.drop 1) else (name, arguments)
        (c.enter .apart []).beginNamed name arguments

/-- The variable that a word gives a value to, and the value. -/
def assignment? (word : ScriptWord) : Option (String × ScriptWord) :=
  match word with
  | .literal text :: rest =>
    (splitAssignment? text).map fun (name, value) => (name, .literal value :: rest)
  | _ => none

/-- The assignments that words begin with, and the other words. -/
def splitAssignments : List ScriptWord → List (String × ScriptWord) × List ScriptWord
  | [] => ([], [])
  | word :: rest =>
    match assignment? word with
    | some a =>
      let (assignments, words) := splitAssignments rest
      (a :: assignments, words)
    | none => ([], word :: rest)

/-- Gives variables their values, one after another. -/
def assign (assignments : List (String × ScriptWord)) (c : Child) : Child :=
  { c with
    scope := assignments.foldl
      (fun s (name, word) => s.setVariable name (s.expandWhole c.status word)) c.scope }

/-- Runs a simple command. Assignments in front of other words are in force for these alone. -/
def runSimple (words : List ScriptWord) (isFilled : Bool) (c : Child) : Child :=
  let c := if c.scope.stopsOnFailure then c.push [.verify] else c
  let (assignments, words) := splitAssignments words
  let texts := words.flatMap (c.scope.expand c.status)
  if texts.isEmpty then (c.assign assignments).conclude (if isFilled then c.status else 0)
  else if assignments.isEmpty then c.runWords texts
  else
    let names := assignments.map Prod.fst
    let f := c.frame (.bindings (names.map fun name => (name, c.scope.value? name)))
    let c := (c.assign assignments).push [.leave f]
    let c := c.changeScope fun s => { s with exported := s.exported ++ names }
    c.runWords texts

/-! ## Channels -/

/-- Leads a channel that is written to elsewhere; other channels than the two do not matter. -/
def sendTo (channel : Nat) (sink : Sink) (s : Scope) : Scope :=
  match channel with
  | 1 => { s with output := sink }
  | 2 => { s with errors := sink }
  | _ => s

/-- Leads a channel elsewhere; none if that cannot be done. What is written to a file is not
kept. -/
def redirect (r : Redirection) (c : Child) : Option Child :=
  let target := c.scope.expandWhole c.status r.target
  let path := (Path.ofString target).absolute c.folder
  let leading (sink : Sink) : Child := { c with scope := sendTo r.channel sink c.scope }
  match r.mark with
  | "<" =>
    let bytes := if target = "/dev/null" then some [] else (c.files.readFile path).toOption
    bytes.map fun bytes =>
      { c with scope := { c.scope with input := .given }, given := bytes :: c.given }
  | "<&" =>
    some (if target = "-" then { c with scope := { c.scope with input := .nowhere } } else c)
  | ">&" =>
    match target with
    | "1" => some (leading c.scope.output)
    | "2" => some (leading c.scope.errors)
    | _ => some (leading .nowhere)
  | _ =>
    if target = "/dev/stdout" then some (leading c.scope.output)
    else if (c.files.isFolder path).toOption.getD false then none
    else some (leading .nowhere)

/-- Runs a command whose channels lead elsewhere. -/
def runDirected (inner : ScriptCommand) (redirections : List Redirection) (c : Child) : Child :=
  let f := c.frame .channels
  match redirections.foldlM (fun c r => redirect r c) c with
  | none => c.conclude misused
  | some directed =>
    match inner with
    | .simple [] => { c with status := 0 }
    | .simple [[.literal "exec"]] => { directed with status := 0 }
    | inner => directed.push [.command inner false, .leave f]

/-! ## Output that is kept -/

/-- The first script whose output belongs into words. -/
def firstOutput? (words : List ScriptWord) : Option String :=
  words.flatten.findSome? fun
    | .output script _ => some script
    | _ => none

/-- A word with a text in place of the first output that belongs into it; the first component says
that there was one. -/
def fillWord (text : String) : ScriptWord → Bool × ScriptWord
  | [] => (false, [])
  | .output _ isQuoted :: rest => (true, (if isQuoted then .literal text else .loose text) :: rest)
  | piece :: rest =>
    let (isDone, rest) := fillWord text rest
    (isDone, piece :: rest)

/-- Words with a text in place of the first output that belongs into them. -/
def fillWords (text : String) : List ScriptWord → List ScriptWord
  | [] => []
  | word :: rest =>
    match fillWord text word with
    | (true, word) => word :: rest
    | (false, word) => word :: fillWords text rest

/-- The first script whose output belongs into a command. -/
def scriptInside? : ScriptCommand → Option String
  | .simple words | .each _ words _ => firstOutput? words
  | .selection subject _ => firstOutput? [subject]
  | _ => none

/-- A command with a text in place of the first output that belongs into it. -/
def fillCommand (text : String) : ScriptCommand → ScriptCommand
  | .simple words => .simple (fillWords text words)
  | .each name words body => .each name (fillWords text words) body
  | .selection subject branches => .selection (fillWord text subject).2 branches
  | other => other

/-- Bytes that were written, as they are filled in: without the ends of lines behind them. -/
def keptText (bytes : List UInt8) : String :=
  Executable.textOf (bytes.reverse.dropWhile (· = 10)).reverse

/-- Runs instructions as a process of its own whose output is kept. -/
def keepOutput (kind : FrameKind) (instructions : List Instruction) (c : Child) : Child :=
  let c := c.enter kind instructions
  { c with scope := { c.scope with output := .kept }, kept := [] :: c.kept }

/-- Runs commands of which each one reads what the one before it writes, from the second one on;
the bytes are what was written last. -/
def runNext (bytes : List UInt8) (parts : List ScriptCommand) (c : Child) : Child :=
  let reading (c : Child) : Child :=
    { c with scope := { c.scope with input := .given }, given := bytes :: c.given }
  match parts with
  | [] => c
  | [last] => reading (c.enter .apart [.command last false])
  | next :: rest => reading (c.keepOutput (.pipe rest) [.command next false])

/-- Goes on behind the end of something. -/
def leaveFrame (f : Frame) (c : Child) : Child :=
  let bytes := c.kept.headD []
  let c := c.restore f
  match f.kind with
  | .output command => c.push [.command (fillCommand (keptText bytes) command) true]
  | .pipe rest => c.runNext bytes rest
  | _ => c

/-! ## All commands -/

/-- A text fits a pattern, in which a star stands for any text and a question mark for any
character. -/
def fits : List Char → List Char → Bool
  | [], text => text.isEmpty
  | '*' :: pattern, [] => fits pattern []
  | '*' :: pattern, c :: text => fits pattern (c :: text) || fits ('*' :: pattern) text
  | '?' :: pattern, _ :: text => fits pattern text
  | p :: pattern, c :: text => p = c && fits pattern text
  | _ :: _, [] => false
termination_by pattern text => (pattern.length, text.length)

/-- The commands of the first branch with a pattern that a text fits. -/
def branchFor (text : String) (branches : Branches) (c : Child) : List ScriptCommand :=
  let isFit (pattern : ScriptWord) : Bool :=
    fits (c.scope.expandWhole c.status pattern).toList text.toList
  ((branches.find? fun b => b.1.any isFit).map Prod.snd).getD []

/-- Runs a command. -/
def run (command : ScriptCommand) (isFilled : Bool) (c : Child) : Child :=
  match scriptInside? command with
  | some script => c.keepOutput (.output command) [.script (Script.tokens script)]
  | none =>
    match command with
    | .simple words => c.runSimple words isFilled
    | .pipeline [] => c
    | .pipeline (first :: rest) => c.keepOutput (.pipe rest) [.command first false]
    | .chain first succeeded second =>
      c.push [.command first false, .follow succeeded second]
    | .negated inner => c.push [.command inner false, .negate]
    | .group body => c.pushCommands body
    | .apart body => c.enter .apart (body.map fun command => .command command false)
    | .choice condition yes no => (c.push [.choose yes no]).pushCommands condition
    | .loop succeeded condition body =>
      (c.conclude 0).push [.turn succeeded condition body]
    | .each name words body =>
      (c.conclude 0).push [.eachOf name (words.flatMap (c.scope.expand c.status)) body]
    | .selection subject branches =>
      let text := c.scope.expandWhole c.status subject
      (c.conclude 0).pushCommands (c.branchFor text branches)
    | .definition name body =>
      c.changeScope fun s => { s with functions := putMember name body s.functions }
    | .directed inner redirections => c.runDirected inner redirections

end LanguageHost.Child
