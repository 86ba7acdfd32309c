import LanguageHost.Child.Script
import LanguageHost.Json.Loose
import LanguageHost.Members

/-!
# The scope of a script

What the commands of a script see of their surroundings and what they change there: arguments,
variables, functions, the working directory, what signals do, and where the channels lead. A word
is filled in from a scope; unquoted parts fall apart at their blanks.
-/

namespace LanguageHost

/-- Where a channel that is written to leads. -/
inductive Sink where
  | outward
  /-- The output is kept for another command. -/
  | kept
  | nowhere
  deriving DecidableEq, Repr, Inhabited

/-- Where a channel that is read from comes from. -/
inductive Source where
  | inward
  /-- The input was made by another command. -/
  | given
  | nowhere
  deriving DecidableEq, Repr, Inhabited

/-- What the commands of a script see. -/
structure Scope where
  /-- What the script was called. -/
  called : String
  arguments : List String
  bindings : List (String × String)
  /-- The names of the variables that other programs see. -/
  exported : List String
  functions : List (String × ScriptCommand)
  directory : String
  /-- What signals do, by their numbers; 0 stands for the end of the script. A text is a script to
  run, the empty one does nothing. -/
  traps : List (Nat × String)
  stopsOnFailure : Bool
  input : Source
  output : Sink
  errors : Sink
  deriving Inhabited

namespace Script

/-! ## Sums -/

/-- The operators of sums, the loosest ones first. -/
def sumOperators : List (List String) :=
  [["||"], ["&&"], ["|"], ["^"], ["&"], ["==", "!="], ["<=", ">=", "<", ">"], ["<<", ">>"],
    ["+", "-"], ["*", "/", "%"]]

/-- The operator at the start of a text, the longest one if there are several. -/
def sumOperatorAt? (s : List Char) : Option String :=
  let fitting := sumOperators.flatten.filter fun mark => mark.toList.isPrefixOf s
  (fitting.find? fun mark => mark.length = 2).or fitting.head?

/-- Truth as a number. -/
def truth (b : Bool) : Int :=
  if b then 1 else 0

/-- What an operator makes of two numbers, if it can be applied. -/
def applyOperator (mark : String) (a b : Int) : Option Int :=
  match mark with
  | "||" => some (truth (a ≠ 0 || b ≠ 0))
  | "&&" => some (truth (a ≠ 0 && b ≠ 0))
  | "|" => some (Nat.lor a.toNat b.toNat)
  | "^" => some (Nat.xor a.toNat b.toNat)
  | "&" => some (Nat.land a.toNat b.toNat)
  | "==" => some (truth (a = b))
  | "!=" => some (truth (a ≠ b))
  | "<=" => some (truth (a ≤ b))
  | ">=" => some (truth (b ≤ a))
  | "<" => some (truth (a < b))
  | ">" => some (truth (b < a))
  | "<<" => some (a * Nat.pow 2 (min b.toNat 63))
  | ">>" => some (a / Nat.pow 2 (min b.toNat 63))
  | "+" => some (a + b)
  | "-" => some (a - b)
  | "*" => some (a * b)
  | "/" => if b = 0 then none else some (Int.tdiv a b)
  | "%" => if b = 0 then none else some (Int.tmod a b)
  | _ => none

/-- A text without blanks in front. -/
def skipBlanks (s : List Char) : List Char :=
  s.dropWhile fun c => c = ' ' || c = '\t' || c = '\n'

/-- The number that a text is, if it is one. -/
def integer? (text : String) : Option Int :=
  let digits (cs : List Char) : Option Nat :=
    if cs.isEmpty || !cs.all Char.isDigit then none else some (Json.Loose.digitsValue cs)
  match text.toList with
  | '-' :: cs => (digits cs).map fun n => -(n : Int)
  | '+' :: cs => (digits cs).map fun n => (n : Int)
  | cs => (digits cs).map fun n => (n : Int)

mutual

/-- The sum at the start of a text, made of operators from a level on, and what follows it. -/
def sumFrom (value : String → Int) : Nat → Nat → List Char → Option (Int × List Char)
  | 0, _, _ => none
  | fuel + 1, level, s =>
    match sumOperators[level]? with
    | none => sumPart value fuel s
    | some marks => do
      let (first, s) ← sumFrom value fuel (level + 1) s
      sumRest value fuel level marks first s

/-- The rest of a sum whose first part is known. -/
def sumRest (value : String → Int) : Nat → Nat → List String → Int → List Char →
    Option (Int × List Char)
  | 0, _, _, _, _ => none
  | fuel + 1, level, marks, first, s =>
    let s := skipBlanks s
    match (sumOperatorAt? s).filter marks.contains with
    | none => some (first, s)
    | some mark => do
      let (second, s) ← sumFrom value fuel (level + 1) (s.drop mark.length)
      sumRest value fuel level marks (← applyOperator mark first second) s

/-- A number, a variable, or a sum in brackets, with signs in front. -/
def sumPart (value : String → Int) : Nat → List Char → Option (Int × List Char)
  | 0, _ => none
  | fuel + 1, s =>
    match skipBlanks s with
    | '-' :: rest => (sumPart value fuel rest).map fun (n, s) => (-n, s)
    | '+' :: rest => sumPart value fuel rest
    | '!' :: rest => (sumPart value fuel rest).map fun (n, s) => (truth (n = 0), s)
    | '(' :: rest => do
      let (n, s) ← sumFrom value fuel 0 rest
      match skipBlanks s with
      | ')' :: s => some (n, s)
      | _ => none
    | s =>
      let name := s.takeWhile isNameChar
      match name with
      | [] => none
      | c :: _ =>
        let number := if c.isDigit then integer? (String.ofList name)
          else some (value (String.ofList name))
        number.map fun n => (n, s.drop name.length)

end

/-- The value of a sum. -/
def sum? (value : String → Int) (text : String) : Option Int :=
  let cs := skipBlanks text.toList
  if cs.isEmpty then some 0
  else
    match sumFrom value (16 * cs.length + 16) 0 cs with
    | some (n, rest) => if (skipBlanks rest).isEmpty then some n else none
    | none => none

end Script

namespace Scope

/-! ## Words -/

/-- The value of a variable. -/
def value? (name : String) (s : Scope) : Option String :=
  if name = "PWD" then some s.directory else findMember? name s.bindings

/-- Gives a variable a value. -/
def setVariable (name value : String) (s : Scope) : Scope :=
  { s with bindings := putMember name value s.bindings }

/-- The value of a parameter, if it has one. A question mark stands for the last status, a hash
sign for the number of arguments. -/
def parameter? (status : Int) (name : String) (s : Scope) : Option String :=
  match name with
  | "?" => some (toString status)
  | "#" => some (toString s.arguments.length)
  | "$" | "!" => some "1000"
  | "@" | "*" => some (" ".intercalate s.arguments)
  | "0" => some s.called
  | name =>
    match Script.integer? name with
    | some n => s.arguments[n.toNat - 1]?
    | none => s.value? name

/-- The words of a text between blanks. -/
def splitBlanks : List Char → List Char → List String
  | word, [] => if word.isEmpty then [] else [String.ofList word.reverse]
  | word, c :: rest =>
    if c = ' ' || c = '\t' || c = '\n' then
      if word.isEmpty then splitBlanks [] rest
      else String.ofList word.reverse :: splitBlanks [] rest
    else splitBlanks (c :: word) rest

/-- Texts with a break between neighbours. -/
def withBreaks (texts : List String) : List (Option String) :=
  (texts.map some).intersperse none

/-- The parts of an unquoted text; blanks at its ends are breaks as well. -/
def splitParts (text : String) : List (Option String) :=
  let isBlank (c : Option Char) : Bool := c.any fun c => c = ' ' || c = '\t' || c = '\n'
  let cs := text.toList
  (if isBlank cs.head? then [none] else []) ++ withBreaks (splitBlanks [] cs) ++
    (if isBlank cs.getLast? then [none] else [])

/-- The words that parts make up; the first argument is the word in hand, if there is one. -/
def joinParts : Option String → List (Option String) → List String
  | inHand, [] => inHand.toList
  | inHand, none :: rest => inHand.toList ++ joinParts none rest
  | inHand, some text :: rest => joinParts (some (inHand.getD "" ++ text)) rest

/-- A parameter as it is written in braces: its name, what stands between the name and a text, and
the text that may take its place. -/
def splitParameter (text : String) : String × String × String :=
  let cs := text.toList
  let name := match cs with
    | c :: _ => if Script.isNameChar c then cs.takeWhile Script.isNameChar else [c]
    | [] => []
  let rest := cs.drop name.length
  let mark := rest.takeWhile fun c => c = ':' || c = '-' || c = '+' || c = '='
  let mark := mark.take (if mark.head? = some ':' then 2 else 1)
  (String.ofList name, String.ofList mark, String.ofList (rest.drop mark.length))

mutual

/-- The value of a parameter as it is written. -/
def valueOf (status : Int) (s : Scope) : Nat → String → String
  | 0, _ => ""
  | fuel + 1, text =>
    if text.length > 1 && text.toList.head? = some '#' then
      toString ((s.parameter? status (String.ofList (text.toList.drop 1))).getD "").length
    else
      let (name, mark, other) := splitParameter text
      let value := s.parameter? status name
      let isMissing := if mark.length = 2 then (value.getD "").isEmpty else value.isNone
      match mark with
      | ":-" | "-" | ":=" | "=" => if isMissing then fillIn status s fuel other else value.getD ""
      | ":+" | "+" => if isMissing then "" else fillIn status s fuel other
      | _ => value.getD ""

/-- A text with its parameters filled in. -/
def fillIn (status : Int) (s : Scope) : Nat → String → String
  | 0, _ => ""
  | fuel + 1, text =>
    String.join <| (Script.quotedWord text).map fun
      | .literal t | .loose t => t
      | .parameter name _ => valueOf status s fuel name
      | .output _ _ => ""
      | .sum t => t

end

/-- How deep parameters inside one another are filled in. -/
def maxDepth : Nat := 16

/-- The value of a sum in a text; none if there is none. -/
def sum? (status : Int) (text : String) (s : Scope) : Option Int :=
  let value (name : String) : Int := (((s.value? name).bind Script.integer?)).getD 0
  Script.sum? value (s.fillIn status maxDepth text)

/-- The texts that a piece of a word stands for, with breaks where a new word begins. -/
def parts (status : Int) (s : Scope) : Piece → List (Option String)
  | .literal t => [some t]
  | .loose t => splitParts t
  | .parameter "@" true => withBreaks s.arguments
  | .parameter name true => [some (s.valueOf status maxDepth name)]
  | .parameter name false => splitParts (s.valueOf status maxDepth name)
  | .output _ _ => []
  | .sum text => [some ((s.sum? status text).elim "" toString)]

/-- The words that a word stands for. -/
def expand (status : Int) (s : Scope) (word : ScriptWord) : List String :=
  let parts := word.flatMap (s.parts status)
  let isArguments := word.any fun p => p == .parameter "@" true
  if isArguments && s.arguments.isEmpty then
    (joinParts none parts).filter fun text => !text.isEmpty
  else joinParts none parts

/-- The one text that a word stands for where it does not fall apart. -/
def expandWhole (status : Int) (s : Scope) (word : ScriptWord) : String :=
  let quoted := word.map fun
    | .parameter name _ => Piece.parameter (if name = "@" then "*" else name) true
    | .loose t => .literal t
    | piece => piece
  String.join ((quoted.flatMap (s.parts status)).filterMap id)

end Scope

end LanguageHost
