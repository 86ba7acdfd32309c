/-!
# Scripts

A script is read in two steps: its characters are split into words and operators, and these are
gathered into commands. Parts of a word that are known only when the command runs stay as they were
written: parameters, sums, and the output of other scripts.

Lines are read one after another, so that what is wrong with a line does not keep the lines before
it from running.
-/

namespace LanguageHost

/-- One part of a word. Quoted parts keep their blanks. -/
inductive Piece where
  | literal (text : String)
  /-- Text that falls apart at its blanks. -/
  | loose (text : String)
  | parameter (name : String) (isQuoted : Bool)
  /-- What a script writes. -/
  | output (script : String) (isQuoted : Bool)
  | sum (text : String)
  deriving DecidableEq, Repr

/-- A word of a script. -/
abbrev ScriptWord := List Piece

/-- Where one of the channels of a command leads: the input (0), the output (1) or the output for
errors (2). -/
structure Redirection where
  channel : Nat
  mark : String
  target : ScriptWord

/-- A command of a script. -/
inductive ScriptCommand where
  | simple (words : List ScriptWord)
  | pipeline (parts : List ScriptCommand)
  /-- The second command runs only if the first one succeeds, or only if it fails. -/
  | chain (first : ScriptCommand) (succeeded : Bool) (second : ScriptCommand)
  | negated (inner : ScriptCommand)
  | group (body : List ScriptCommand)
  /-- Commands that leave nothing behind but their output and their status. -/
  | apart (body : List ScriptCommand)
  | choice (condition yes no : List ScriptCommand)
  /-- The body runs as long as the condition succeeds, or as long as it fails. -/
  | loop (succeeded : Bool) (condition body : List ScriptCommand)
  | each (name : String) (words : List ScriptWord) (body : List ScriptCommand)
  | selection (subject : ScriptWord) (branches : List (List ScriptWord × List ScriptCommand))
  | definition (name : String) (body : ScriptCommand)
  | directed (inner : ScriptCommand) (redirections : List Redirection)

/-- The branches of a selection: the patterns of each, and its commands. -/
abbrev Branches := List (List ScriptWord × List ScriptCommand)

namespace Script

/-- A word or an operator of a script. -/
inductive Token where
  | word (pieces : ScriptWord)
  | operator (text : String)
  | redirection (channel : Nat) (mark : String)
  /-- A quote or bracket that is never closed. -/
  | broken
  deriving DecidableEq, Repr

/-! ## Characters to tokens -/

/-- The reader of a script: whether it stands between double quotes, the pieces of the word in hand
and the characters of the piece in hand, both with the last one first, and the tokens so far.
`inWord` says that a word is in hand at all. -/
structure Scan where
  isQuoted : Bool
  inWord : Bool
  pieces : List Piece
  piece : List Char
  tokens : List Token

namespace Scan

/-- The reader before the first character. -/
def start (isQuoted : Bool) : Scan :=
  ⟨isQuoted, false, [], [], []⟩

/-- Puts the characters in hand to the pieces of the word. -/
def closePiece (s : Scan) : Scan :=
  if s.piece.isEmpty then s
  else { s with pieces := .literal (String.ofList s.piece.reverse) :: s.pieces, piece := [] }

/-- Puts a piece to the word in hand. -/
def pushPiece (piece : Piece) (s : Scan) : Scan :=
  let s := s.closePiece
  { s with inWord := true, pieces := piece :: s.pieces }

/-- Puts a character to the word in hand. -/
def push (s : Scan) (c : Char) : Scan :=
  { s with inWord := true, piece := c :: s.piece }

/-- Puts the word in hand to the tokens. -/
def closeWord (s : Scan) : Scan :=
  if s.inWord then
    let s := s.closePiece
    { s with inWord := false, pieces := [], tokens := .word s.pieces.reverse :: s.tokens }
  else s

/-- Puts an operator behind the word in hand. -/
def operator (text : String) (s : Scan) : Scan :=
  let s := s.closeWord
  { s with tokens := .operator text :: s.tokens }

/-- Puts a redirection behind the word in hand, unless that is a digit that names the channel. -/
def redirect (mark : String) (s : Scan) : Scan :=
  let usual := if mark.toList.head? = some '<' then 0 else 1
  match s.pieces, s.piece with
  | [], [d] =>
    if d.isDigit then
      { s with
        inWord := false, piece := []
        tokens := .redirection (d.toNat - '0'.toNat) mark :: s.tokens }
    else
      let s := s.closeWord
      { s with tokens := .redirection usual mark :: s.tokens }
  | _, _ =>
    let s := s.closeWord
    { s with tokens := .redirection usual mark :: s.tokens }

/-- Something is never closed. -/
def spoil (s : Scan) : Scan :=
  { s with tokens := .broken :: s.closeWord.tokens, inWord := false, isQuoted := false }

end Scan

/-- The characters of a parameter's name. -/
def isNameChar (c : Char) : Bool :=
  c.isAlphanum || c = '_'

/-- What stands before the bracket that closes an open one, and what follows it. The first argument
is the quote that is open, the second one how many more brackets are. -/
def spanNested : Option Char → Nat → List Char → Option (List Char × List Char)
  | _, _, [] => none
  | quote, depth, c :: rest =>
    let go (quote : Option Char) (depth : Nat) :=
      (spanNested quote depth rest).map fun (inside, after) => (c :: inside, after)
    match quote with
    | some q => go (if c = q then none else quote) depth
    | none =>
      if c = '"' || c = '\x27' then go (some c) depth
      else if c = '(' then go none (depth + 1)
      else if c = ')' then if depth = 0 then some ([], rest) else go none (depth - 1)
      else go none depth

/-- What stands before a character, and what follows it. -/
def spanTo (c : Char) (s : List Char) : Option (List Char × List Char) :=
  let inside := s.takeWhile (· ≠ c)
  if inside.length < s.length then some (inside, s.drop (inside.length + 1)) else none

/-- The text of a sum in brackets of its own. -/
def sumInside? (inside : List Char) : Option String :=
  match inside with
  | '(' :: more =>
    if more.getLast? = some ')' then some (String.ofList (more.take (more.length - 1))) else none
  | _ => none

/-- The part of a word that follows a dollar sign, and what follows the part. The result is none if
the dollar sign stands for itself; a part that is never closed is none as well. -/
def afterDollar (isQuoted : Bool) (s : List Char) : Option (Option Piece × List Char) :=
  let parameter (name : List Char) : Option Piece := some (.parameter (String.ofList name) isQuoted)
  match s with
  | '(' :: rest =>
    match spanNested none 0 rest with
    | none => some (none, [])
    | some (inside, after) =>
      match sumInside? inside with
      | some text => some (some (.sum text), after)
      | none => some (some (.output (String.ofList inside) isQuoted), after)
  | '\x7b' :: rest =>
    match spanTo '\x7d' rest with
    | none => some (none, [])
    | some (inside, after) => some (parameter inside, after)
  | c :: rest =>
    if c.isDigit || ['$', '?', '#', '@', '*', '!'].contains c then some (parameter [c], rest)
    else
      let name := s.takeWhile isNameChar
      if name.isEmpty then none else some (parameter name, s.drop name.length)
  | [] => none

/-- A backslash keeps its meaning in front of these characters between double quotes. -/
def isEscapable (c : Char) : Bool :=
  c = '$' || c = '"' || c = '\\' || c = '\x60' || c = '\n'

/-- The operators and redirections that are made of one or two characters, longer ones first. -/
def marks : List (List Char) :=
  ["&&", "||", ";;", ">>", ">&", "<&", ">|", "<>", ";", "&", "|", "(", ")", "\n", ">", "<"].map
    String.toList

/-- The operator or redirection at the start of a text. -/
def markAt? (s : List Char) : Option String :=
  (marks.find? fun mark => mark.isPrefixOf s).map String.ofList

/-- The reader behind a mark. -/
def Scan.pushMark (mark : String) (s : Scan) : Scan :=
  if mark.toList.any fun c => c = '<' || c = '>' then s.redirect mark else s.operator mark

/-- Reads a part of a script that needs no quotes; the result is the rest. -/
def scanPlain (s : Scan) (c : Char) (rest : List Char) : Scan × List Char :=
  match c, rest with
  | '\\', d :: more => (if d = '\n' then s else s.pushPiece (.literal (String.singleton d)), more)
  | _, _ =>
    if c = '\x27' then
      match spanTo '\x27' rest with
      | some (inside, after) => (s.pushPiece (.literal (String.ofList inside)), after)
      | none => (s.spoil, [])
    else if c = ' ' || c = '\t' then (s.closeWord, rest)
    else if c = '#' && !s.inWord then (s, rest.dropWhile (· ≠ '\n'))
    else
      match markAt? (c :: rest) with
      | some mark => (s.pushMark mark, (c :: rest).drop mark.length)
      | none => (s.push c, rest)

/-- Reads a character between double quotes; the result is the rest. -/
def scanQuoted (s : Scan) (c : Char) (rest : List Char) : Scan × List Char :=
  match c, rest with
  | '\\', d :: more =>
    if d = '\n' then (s, more) else if isEscapable d then (s.push d, more) else (s.push c, rest)
  | _, _ => (s.push c, rest)

/-- Reads the part of a script that begins with a character; the result is the rest. -/
def scanPart (s : Scan) (c : Char) (rest : List Char) : Scan × List Char :=
  if c = '"' then ({ s.pushPiece (.literal "") with isQuoted := !s.isQuoted }, rest)
  else if c = '\x60' then
    match spanTo c rest with
    | some (inside, after) =>
      (s.pushPiece (.output (String.ofList inside) s.isQuoted), after)
    | none => (s.spoil, [])
  else
    match if c = '$' then afterDollar s.isQuoted rest else none with
    | some (some piece, after) => (s.pushPiece piece, after)
    | some (none, _) => (s.spoil, [])
    | none => if s.isQuoted then scanQuoted s c rest else scanPlain s c rest

/-- Reads a script to its end. -/
def scan : Nat → Scan → List Char → Scan
  | 0, s, _ => s
  | _ + 1, s, [] => s
  | fuel + 1, s, c :: rest =>
    let (s, rest) := scanPart s c rest
    scan fuel s rest

/-- The tokens of a script. -/
def tokens (script : String) : List Token :=
  let cs := script.toList
  let s := scan (cs.length + 1) (.start false) cs
  (if s.isQuoted then s.spoil else s.closeWord).tokens.reverse

/-- A text as it would stand between double quotes. -/
def quotedWord (text : String) : ScriptWord :=
  let cs := text.toList
  let s := scan (cs.length + 1) (.start true) cs
  s.closePiece.pieces.reverse

/-! ## Tokens to commands -/

/-- The word that tokens begin with, if it needs nothing to be filled in. -/
def plainWord? : List Token → Option String
  | .word [.literal text] :: _ => some text
  | _ => none

/-- The tokens behind the word that they have to begin with. -/
def expect (text : String) (ts : List Token) : Option (List Token) :=
  if plainWord? ts = some text then some (ts.drop 1) else none

/-- The tokens behind the ends of lines that they begin with. -/
def skipLines : List Token → List Token
  | .operator "\n" :: rest => skipLines rest
  | ts => ts

/-- The tokens begin with one of the words or operators that close what is read. -/
def isClosed (closers : List String) (ts : List Token) : Bool :=
  match ts with
  | .operator text :: _ => closers.contains text
  | ts => ((plainWord? ts).map closers.contains).getD false

/-- The words that stand before anything else. -/
def spanWords : List Token → List ScriptWord × List Token
  | .word w :: rest =>
    let (words, ts) := spanWords rest
    (w :: words, ts)
  | ts => ([], ts)

/-- The redirections at the start of tokens. -/
def spanRedirections : List Token → List Redirection × List Token
  | .redirection channel mark :: .word target :: rest =>
    let (more, ts) := spanRedirections rest
    (⟨channel, mark, target⟩ :: more, ts)
  | ts => ([], ts)

/-- The words and redirections of a simple command. -/
def spanSimple : List Token → List ScriptWord × List Redirection × List Token
  | .word w :: rest =>
    let (words, redirections, ts) := spanSimple rest
    (w :: words, redirections, ts)
  | .redirection channel mark :: .word target :: rest =>
    let (words, redirections, ts) := spanSimple rest
    (words, ⟨channel, mark, target⟩ :: redirections, ts)
  | ts => ([], [], ts)

/-- A command with redirections, if there are any. -/
def direct (inner : ScriptCommand) (redirections : List Redirection) : ScriptCommand :=
  if redirections.isEmpty then inner else .directed inner redirections

/-- A command that is more than one simple command, with the redirections behind it. -/
def closed (inner : ScriptCommand) (ts : List Token) : Option (ScriptCommand × List Token) :=
  let (redirections, ts) := spanRedirections ts
  some (direct inner redirections, ts)

/-- The simple command at the start of tokens. -/
def readSimple (ts : List Token) : Option (ScriptCommand × List Token) :=
  match spanSimple ts with
  | ([], [], _) => none
  | (words, redirections, ts) => some (direct (.simple words) redirections, ts)

/-- The words that close something, so that no command begins with them. -/
def closingWords : List String :=
  ["then", "elif", "else", "fi", "do", "done", "esac", "\x7d"]

/-- The words that a loop goes through, from behind its name on; without any they are the
arguments. -/
def readRange (ts : List Token) : List ScriptWord × List Token :=
  let (words, ts) :=
    match expect "in" (skipLines ts) with
    | some ts => spanWords ts
    | none => ([[.parameter "@" true]], ts)
  match ts with
  | .operator ";" :: rest => (words, skipLines rest)
  | ts => (words, skipLines ts)

/-- The patterns of a branch, and the tokens behind the bracket that closes them. -/
def readPatterns : List Token → Option (List ScriptWord × List Token)
  | .word w :: .operator ")" :: rest => some ([w], rest)
  | .word w :: .operator "|" :: rest =>
    (readPatterns rest).map fun (patterns, ts) => (w :: patterns, ts)
  | _ => none

mutual

/-- The commands up to what closes them. A line is closed by its end. -/
def readList (isLine : Bool) (closers : List String) : Nat → List Token →
    Option (List ScriptCommand × List Token)
  | 0, _ => none
  | fuel + 1, ts =>
    match ts with
    | [] => some ([], [])
    | .operator "\n" :: rest =>
      if isLine then some ([], rest) else readList isLine closers fuel rest
    | ts =>
      if isClosed closers ts then some ([], ts)
      else do
        let (first, ts) ← readChain fuel ts
        match ts with
        | [] => some ([first], [])
        | .operator ";" :: rest | .operator "&" :: rest =>
          let (more, ts) ← readList isLine closers fuel rest
          some (first :: more, ts)
        | .operator "\n" :: _ =>
          let (more, ts) ← readList isLine closers fuel ts
          some (first :: more, ts)
        | ts => if isClosed closers ts then some ([first], ts) else none

/-- A command, and those that depend on how it goes. -/
def readChain : Nat → List Token → Option (ScriptCommand × List Token)
  | 0, _ => none
  | fuel + 1, ts => do
    let (first, ts) ← readPipeline fuel ts
    readLinks fuel first ts

/-- The commands that depend on how the one in hand goes. -/
def readLinks : Nat → ScriptCommand → List Token → Option (ScriptCommand × List Token)
  | 0, _, _ => none
  | fuel + 1, first, ts =>
    match ts with
    | .operator "&&" :: rest => do
      let (second, ts) ← readPipeline fuel (skipLines rest)
      readLinks fuel (.chain first true second) ts
    | .operator "||" :: rest => do
      let (second, ts) ← readPipeline fuel (skipLines rest)
      readLinks fuel (.chain first false second) ts
    | ts => some (first, ts)

/-- Commands of which each one reads what the one before it writes. -/
def readPipeline : Nat → List Token → Option (ScriptCommand × List Token)
  | 0, _ => none
  | fuel + 1, ts =>
    match expect "!" ts with
    | some ts => (readPipeline fuel ts).map fun (inner, ts) => (.negated inner, ts)
    | none => do
      let (first, ts) ← readCommand fuel ts
      match ts with
      | .operator "|" :: rest =>
        let (second, ts) ← readPipeline fuel (skipLines rest)
        match second with
        | .pipeline parts => some (.pipeline (first :: parts), ts)
        | second => some (.pipeline [first, second], ts)
      | ts => some (first, ts)

/-- The branches of a choice, from behind its first word on. -/
def readChoice : Nat → List Token → Option (ScriptCommand × List Token)
  | 0, _ => none
  | fuel + 1, ts => do
    let (condition, ts) ← readList false ["then"] fuel ts
    let (yes, ts) ← readList false ["elif", "else", "fi"] fuel (← expect "then" ts)
    match plainWord? ts with
    | some "elif" =>
      let (no, ts) ← readChoice fuel (ts.drop 1)
      some (.choice condition yes [no], ts)
    | some "else" =>
      let (no, ts) ← readList false ["fi"] fuel (ts.drop 1)
      some (.choice condition yes no, ← expect "fi" ts)
    | _ => some (.choice condition yes [], ← expect "fi" ts)

/-- The branches of a selection. -/
def readBranches : Nat → List Token → Option (Branches × List Token)
  | 0, _ => none
  | fuel + 1, ts =>
    let ts := skipLines ts
    match expect "esac" ts with
    | some ts => some ([], ts)
    | none => do
      let opened := match ts with
        | .operator "(" :: rest => rest
        | ts => ts
      let (patterns, ts) ← readPatterns opened
      let (body, ts) ← readList false [";;", "esac"] fuel ts
      let ts := match ts with
        | .operator ";;" :: rest => rest
        | ts => ts
      let (more, ts) ← readBranches fuel ts
      some ((patterns, body) :: more, ts)

/-- The body of a loop. -/
def readBody : Nat → List Token → Option (List ScriptCommand × List Token)
  | 0, _ => none
  | fuel + 1, ts => do
    let (body, ts) ← readList false ["done"] fuel (← expect "do" ts)
    some (body, ← expect "done" ts)

/-- One command. -/
def readCommand : Nat → List Token → Option (ScriptCommand × List Token)
  | 0, _ => none
  | fuel + 1, ts =>
    match plainWord? ts, ts.drop 1 with
    | some "if", rest => do
      let (inner, ts) ← readChoice fuel rest
      closed inner ts
    | some "while", rest => do
      let (condition, ts) ← readList false ["do"] fuel rest
      let (body, ts) ← readBody fuel ts
      closed (.loop true condition body) ts
    | some "until", rest => do
      let (condition, ts) ← readList false ["do"] fuel rest
      let (body, ts) ← readBody fuel ts
      closed (.loop false condition body) ts
    | some "for", rest => do
      let name ← plainWord? rest
      let (words, ts) := readRange (rest.drop 1)
      let (body, ts) ← readBody fuel ts
      closed (.each name words body) ts
    | some "case", .word subject :: rest => do
      let (branches, ts) ← readBranches fuel (← expect "in" (skipLines rest))
      closed (.selection subject branches) ts
    | some "\x7b", rest => do
      let (body, ts) ← readList false ["\x7d"] fuel rest
      closed (.group body) (← expect "\x7d" ts)
    | some name, .operator "(" :: .operator ")" :: rest => do
      let (body, ts) ← readCommand fuel (skipLines rest)
      some (.definition name body, ts)
    | some name, _ => if closingWords.contains name then none else readSimple ts
    | none, rest =>
      match ts with
      | .operator "(" :: _ => do
        let (body, ts) ← readList false [")"] fuel rest
        match ts with
        | .operator ")" :: ts => closed (.apart body) ts
        | _ => none
      | ts => readSimple ts

end

/-- The commands of the first line of a script, and the tokens behind it. -/
def readLine (ts : List Token) : Option (List ScriptCommand × List Token) :=
  readList true [] (8 * ts.length + 8) ts

end Script

end LanguageHost
