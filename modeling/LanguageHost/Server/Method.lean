import LanguageHost.Text.Basic

/-!
# Method names

Servers spell the methods they call in various ways. A method is compared by its folded name: the
slash becomes a double underscore, dollar signs go away, an underscore is put in front of each
capitalised word, and everything is in lower case. Words are found in two sweeps from left to
right, first capitals that small letters follow, then capitals behind a small letter or a digit.
-/

namespace LanguageHost.Method

/-- A small letter of the ASCII range. -/
def isSmall (c : Char) : Bool :=
  'a' ≤ c && c ≤ 'z'

/-- A capital of the ASCII range. -/
def isCapital (c : Char) : Bool :=
  'A' ≤ c && c ≤ 'Z'

/-- Puts underscores in front of capitals that small letters follow; a match takes all of them. -/
def splitWords : Nat → List Char → List Char
  | 0, s => s
  | fuel + 1, s =>
    match s with
    | c :: capital :: small :: rest =>
      if c ≠ '\n' && isCapital capital && isSmall small then
        let word := (small :: rest).takeWhile isSmall
        c :: '_' :: capital :: word ++
          splitWords fuel ((small :: rest).dropWhile isSmall)
      else c :: splitWords fuel (capital :: small :: rest)
    | other => other

/-- Puts underscores between a small letter or digit and a capital. -/
def splitCapitals : List Char → List Char
  | c :: capital :: rest =>
    if (isSmall c || c.isDigit) && isCapital capital then
      c :: '_' :: capital :: splitCapitals rest
    else c :: splitCapitals (capital :: rest)
  | other => other

/-- The slashes and dollar signs of a method name replaced. -/
def flatten (s : List Char) : List Char :=
  s.flatMap fun c => if c = '/' then ['_', '_'] else if c = '$' then [] else [c]

/-- The folded name of a method. -/
def fold (name : List Char) : List Char :=
  let flat := flatten name
  (splitCapitals (splitWords (flat.length + 1) flat)).map Char.toLower

/-- The methods that a server may call. -/
inductive Handler where
  | logMessage
  | showMessage
  | publishDiagnostics
  | registerCapability
  deriving DecidableEq, Repr

/-- The folded name of a handler's method. -/
def Handler.name : Handler → String
  | logMessage => "window__log_message"
  | showMessage => "window__show_message"
  | publishDiagnostics => "text_document__publish_diagnostics"
  | registerCapability => "client__register_capability"

/-- The handler of a method. -/
def handler? (name : Text) : Option Handler :=
  match name.toChars? with
  | none => none
  | some cs =>
    let folded := String.ofList (fold cs)
    [.logMessage, .showMessage, .publishDiagnostics, .registerCapability].find? fun h =>
      h.name = folded

end LanguageHost.Method
