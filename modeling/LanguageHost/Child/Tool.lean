import LanguageHost.Child.Format
import LanguageHost.FileSystem.Basic

/-!
# Programs of the machine

The small programs that every machine has, as far as they matter to a child: they write what their
arguments say, copy their input, change it, or let time pass. What a program does is a list of
deeds, taken in order; its exit code is the status of the last one.
-/

namespace LanguageHost

/-- Something that a program does. -/
inductive Deed where
  /-- Writes bytes, and leaves a status. -/
  | write (bytes : List UInt8) (status : Int)
  /-- Copies the input to the output until it ends. -/
  | copy
  | sleep (microseconds : Nat)
  /-- Takes the input, and writes what it becomes. Nothing comes of input that may still grow and
  is not enough. -/
  | change (result : List UInt8 → Bool → Option (List UInt8 × Int))

namespace Tool

/-- The bytes of a file that is named in a folder. -/
def bytesOf? (files : FileSystem) (folder : Path) (name : String) : Option (List UInt8) :=
  (files.readFile ((Path.ofString name).absolute folder)).toOption

/-! ## Lines -/

/-- The lines of bytes, each with its end if it has one. -/
def splitLines : List UInt8 → List UInt8 → List (List UInt8)
  | line, [] => if line.isEmpty then [] else [line.reverse]
  | line, b :: rest =>
    if b = 10 then (b :: line).reverse :: splitLines [] rest else splitLines (b :: line) rest

/-- A line without its end. -/
def withoutEnd (line : List UInt8) : List UInt8 :=
  if line.getLast? = some 10 then line.take (line.length - 1) else line

/-- The lines of bytes without their ends. -/
def linesOf (bytes : List UInt8) : List (List UInt8) :=
  (splitLines [] bytes).map withoutEnd

/-- Lines with their ends. -/
def withEnds (lines : List (List UInt8)) : List UInt8 :=
  lines.flatMap fun line => line ++ [10]

/-! ## Arguments -/

/-- How much of the input is meant. -/
structure Amount where
  isBytes : Bool
  count : Nat

/-- The amount that arguments ask for, and the other arguments. The result is none for an amount
that is no number. -/
def amount? (inHand : Amount) : List String → Option (Amount × List String)
  | [] => some (inHand, [])
  | argument :: rest =>
    let digits (s : String) : Option Nat := (Script.integer? s).map Int.natAbs
    match argument.toList with
    | ['-', 'n'] | ['-', 'c'] =>
      match rest with
      | value :: rest =>
        (digits value).bind fun n => amount? ⟨argument = "-c", n⟩ rest
      | [] => none
    | ['-', '-'] => some (inHand, rest)
    | '-' :: c :: value =>
      let number := if c = 'n' || c = 'c' then value else c :: value
      (digits (String.ofList number)).bind fun n => amount? ⟨c = 'c', n⟩ rest
    | _ => (amount? inHand rest).map fun (amount, names) => (amount, argument :: names)

/-- The letters of the options among arguments, and the other arguments. -/
def splitOptions (arguments : List String) : List Char × List String :=
  let isOption (a : String) : Bool := a.length > 1 && a.toList.head? = some '-'
  (((arguments.takeWhile (· ≠ "--")).filter isOption).flatMap fun a => a.toList.drop 1,
    arguments.filter fun a => !isOption a)

/-- A change of what files hold, or of the input if none is named. -/
def changeOf (bytesOf? : String → Option (List UInt8)) (names : List String)
    (change : List UInt8 → Bool → Option (List UInt8 × Int)) : Deed :=
  if names.isEmpty || names = ["-"] then .change change
  else
    match names.mapM bytesOf? with
    | none => .write [] 1
    | some files =>
      let (bytes, status) := (change files.flatten true).getD ([], 1)
      .write bytes status

/-- A change of input that has to be whole. -/
def whenWhole (change : List UInt8 → List UInt8) (bytes : List UInt8) (isWhole : Bool) :
    Option (List UInt8 × Int) :=
  if isWhole then some (change bytes, 0) else none

/-! ## The programs -/

/-- Copies files one after another, and the input in place of a dash. -/
def cat (bytesOf? : String → Option (List UInt8)) (arguments : List String) : List Deed :=
  let names := arguments.filter fun a => a ≠ "--" && a ≠ "-u"
  let names := if names.isEmpty then ["-"] else names
  let deed (name : String) : Deed :=
    if name = "-" then .copy else .write ((bytesOf? name).getD []) 0
  let isThere (name : String) : Bool := name = "-" || (bytesOf? name).isSome
  names.map deed ++ [.write [] (if names.all isThere then 0 else 1)]

/-- The first part of bytes. -/
def head (amount : Amount) (bytes : List UInt8) (isWhole : Bool) : Option (List UInt8 × Int) :=
  let units := if amount.isBytes then bytes.map fun b => [b] else splitLines [] bytes
  let complete := units.length - (if amount.isBytes || bytes.getLast? = some 10 then 0 else 1)
  if isWhole || amount.count ≤ complete then some ((units.take amount.count).flatten, 0)
  else none

/-- The last part of bytes. -/
def tail (amount : Amount) (bytes : List UInt8) : List UInt8 :=
  let units := if amount.isBytes then bytes.map fun b => [b] else splitLines [] bytes
  (units.drop (units.length - amount.count)).flatten

/-- The number of words in bytes. -/
def countWords : Bool → List UInt8 → Nat
  | _, [] => 0
  | inWord, b :: rest =>
    let isBlank := b = 32 || (9 ≤ b && b ≤ 13)
    (if !inWord && !isBlank then 1 else 0) + countWords (!isBlank) rest

/-- The lines, words and bytes of the input, counted. -/
def count (letters : List Char) (bytes : List UInt8) : List UInt8 :=
  let isAsked (c : Char) : Bool := letters.isEmpty || letters.contains c
  let numbers :=
    (if isAsked 'l' then [bytes.count 10] else []) ++
    (if isAsked 'w' then [countWords false bytes] else []) ++
    (if isAsked 'c' then [bytes.length] else [])
  let texts := numbers.map toString
  let texts := if texts.length = 1 then texts
    else texts.map fun t => String.ofList (List.replicate (7 - t.length) ' ') ++ t
  Utf8.encodeString (" ".intercalate texts ++ "\n")

/-- The bytes that a set of them is written as; a dash stands for those in between. -/
def byteSet : List UInt8 → List UInt8
  | a :: 45 :: b :: rest =>
    (List.range (b.toNat + 1 - a.toNat)).map (fun i => UInt8.ofNat (a.toNat + i)) ++ byteSet rest
  | a :: rest => a :: byteSet rest
  | [] => []

/-- A set of bytes as it is given in an argument. -/
def setOf (argument : String) : List UInt8 :=
  match argument with
  | "[:lower:]" => byteSet (Utf8.encodeString "a-z")
  | "[:upper:]" => byteSet (Utf8.encodeString "A-Z")
  | "[:digit:]" => byteSet (Utf8.encodeString "0-9")
  | "[:space:]" => [9, 10, 11, 12, 13, 32]
  | argument => byteSet (Printed.unescape .program false (argument.length + 1) argument.toList).1

/-- Replaces the bytes of a set by those of another one, the last of which stands for all that are
missing. -/
def exchange (old new bytes : List UInt8) : List UInt8 :=
  bytes.map fun b =>
    match old.idxOf? b with
    | none => b
    | some i => (new[i]?).getD (new.getLast?.getD b)

/-- Exchanges or drops bytes of the input. -/
def exchangeOrDrop (arguments : List String) : Deed :=
  match splitOptions arguments with
  | (['d'], [dropped]) =>
    .change (whenWhole fun bytes => bytes.filter fun b => !(setOf dropped).contains b)
  | ([], [old, new]) => .change (whenWhole (exchange (setOf old) (setOf new)))
  | _ => .write [] 1

/-- The number that a line begins with. -/
def lineNumber (line : List UInt8) : Int :=
  (Printed.number (String.ofList ((line.map fun b => Char.ofNat b.toNat).takeWhile fun c =>
    c = '-' || c.isDigit))).1

/-- The first line does not come behind the second one. -/
def comesFirst : List UInt8 → List UInt8 → Bool
  | [], _ => true
  | _ :: _, [] => false
  | a :: as, b :: bs => a < b || (a = b && comesFirst as bs)

/-- The lines of the input in order. -/
def sort (letters : List Char) (bytes : List UInt8) : List UInt8 :=
  let before (a b : List UInt8) : Bool :=
    if letters.contains 'n' && lineNumber a ≠ lineNumber b then lineNumber a < lineNumber b
    else comesFirst a b
  let lines := (linesOf bytes).mergeSort before
  let lines := if letters.contains 'u' then lines.eraseReps else lines
  withEnds (if letters.contains 'r' then lines.reverse else lines)

/-- Whole numbers from one to another, one in each line. -/
def sequence (first step last : Int) : List UInt8 :=
  let count := if step = 0 then 0 else (Int.fdiv (last - first) step + 1).toNat
  Utf8.encodeString <| String.join <|
    (List.range count).map fun i => toString (first + step * Int.ofNat i) ++ "\n"

/-- The microseconds that a word asks for, if it is a time; a letter gives its unit. -/
def microseconds? (word : String) : Option Nat :=
  let cs := word.toList
  let whole := cs.takeWhile Char.isDigit
  let (fraction, rest) := match cs.drop whole.length with
    | '.' :: rest =>
      let digits := rest.takeWhile Char.isDigit
      (digits, rest.drop digits.length)
    | rest => ([], rest)
  let unit? : Option Nat := match rest with
    | [] | ['s'] => some 1
    | ['m'] => some 60
    | ['h'] => some 3600
    | _ => none
  if whole.isEmpty && fraction.isEmpty then none
  else unit?.map fun unit =>
    let padded := (fraction ++ List.replicate 6 '0').take 6
    unit * (Json.Loose.digitsValue whole * 1000000 + Json.Loose.digitsValue padded)

/-- Lets the times of words pass, one after another. -/
def sleep (words : List String) : List Deed :=
  match words.mapM microseconds? with
  | none | some [] => [.write [] 1]
  | some times => times.map Deed.sleep

/-! ## Questions -/

/-- The answer to a question about a file. -/
def asks (files : FileSystem) (folder : Path) (letter name : String) : Option Bool :=
  let path := (Path.ofString name).absolute folder
  match letter with
  | "-e" => some (!name.isEmpty && (files.stat path).isOk)
  | "-f" => some (!name.isEmpty && (files.isFile path).toOption.getD false)
  | "-d" => some (!name.isEmpty && (files.isFolder path).toOption.getD false)
  | "-r" | "-w" => some (!name.isEmpty && (files.stat path).isOk)
  | "-x" => some (!name.isEmpty &&
      (files.isRunnable path || (files.isFolder path).toOption.getD false))
  | "-s" => some ((files.readFile path).toOption.any fun bytes => !bytes.isEmpty)
  | "-z" => some name.isEmpty
  | "-n" => some (!name.isEmpty)
  | "-t" => some false
  | _ => none

/-- The answer to a question about two texts. -/
def compares (a mark b : String) : Option Bool :=
  let numbers (relation : Int → Int → Bool) : Option Bool := do
    some (relation (← Script.integer? a) (← Script.integer? b))
  match mark with
  | "=" | "==" => some (a = b)
  | "!=" => some (a ≠ b)
  | "-eq" => numbers fun a b => a = b
  | "-ne" => numbers fun a b => a ≠ b
  | "-lt" => numbers fun a b => a < b
  | "-le" => numbers fun a b => a ≤ b
  | "-gt" => numbers fun a b => b < a
  | "-ge" => numbers fun a b => b ≤ a
  | _ => none

/-- The answer to a question; none if it is not one. -/
def answer? (files : FileSystem) (folder : Path) : List String → Option Bool
  | [] => some false
  | [word] => some (!word.isEmpty)
  | ["!", word] => some word.isEmpty
  | [letter, name] => asks files folder letter name
  | "!" :: rest => (answer? files folder rest).map not
  | [a, mark, b] => compares a mark b
  | [a, b, "-a", c, d] => do some ((← asks files folder a b) && (← asks files folder c d))
  | [a, b, "-o", c, d] => do some ((← asks files folder a b) || (← asks files folder c d))
  | [a, m, b, "-a", c, n, d] => do some ((← compares a m b) && (← compares c n d))
  | [a, m, b, "-o", c, n, d] => do some ((← compares a m b) || (← compares c n d))
  | _ => none

/-- The status of a question: 0 for yes, 1 for no, and 2 if it is not one. -/
def test (files : FileSystem) (folder : Path) (name : String) (words : List String) : Int :=
  let isBracket := name = "["
  if isBracket && words.getLast? ≠ some "]" then 2
  else
    match answer? files folder (if isBracket then words.take (words.length - 1) else words) with
    | some true => 0
    | some false => 1
    | none => 2

/-- The programs that a machine has. -/
def names : List String :=
  ["[", "bash", "cat", "dash", "echo", "env", "false", "head", "printf", "pwd", "seq", "sh",
    "sleep", "sort", "tac", "tail", "tee", "test", "tr", "true", "uniq", "wc"]

/-- What a program does with its arguments, in a folder. -/
def deeds (files : FileSystem) (folder : Path) (name : String) (arguments : List String) :
    List Deed :=
  let bytesOf? := bytesOf? files folder
  let whole (change : List UInt8 → List UInt8) : List Deed :=
    [changeOf bytesOf? (splitOptions arguments).2 (whenWhole change)]
  let letters := (splitOptions arguments).1
  match name with
  | "echo" => [.write (Printed.echo .program arguments) 0]
  | "printf" =>
    let (bytes, status) := Printed.format .program arguments
    [.write bytes status]
  | "pwd" => [.write (Utf8.encodeString (folder.text ++ "\n")) 0]
  | "true" => [.write [] 0]
  | "cat" => cat bytesOf? arguments
  | "tee" => [.copy]
  | "head" =>
    match amount? ⟨false, 10⟩ arguments with
    | some (amount, names) => [changeOf bytesOf? names (head amount)]
    | none => [.write [] 1]
  | "tail" =>
    match amount? ⟨false, 10⟩ arguments with
    | some (amount, names) => [changeOf bytesOf? names (whenWhole (tail amount))]
    | none => [.write [] 1]
  | "wc" => whole (count letters)
  | "tr" => [exchangeOrDrop arguments]
  | "sort" => whole (sort letters)
  | "uniq" => whole fun bytes => withEnds (linesOf bytes).eraseReps
  | "tac" => whole fun bytes => (splitLines [] bytes).reverse.flatten
  | "seq" =>
    match arguments.mapM Script.integer? with
    | some [last] => [.write (sequence 1 1 last) 0]
    | some [first, last] => [.write (sequence first 1 last) 0]
    | some [first, step, last] => [.write (sequence first step last) 0]
    | _ => [.write [] 1]
  | "sleep" => sleep arguments
  | "test" | "[" => [.write [] (test files folder name arguments)]
  | _ => [.write [] 1]

end Tool

end LanguageHost
