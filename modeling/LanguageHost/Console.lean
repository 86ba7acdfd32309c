import LanguageHost.Console.Layout
import LanguageHost.Console.Markup

/-!
# Console output

What is printed goes out line by line without the blanks at the ends of lines. A message may hold
style tags, which are not shown, and is broken into lines that fit. A text that is shown as code has
its tabs widened first, every kind of line end starts a new line, and a line that is too long is cut
off.
-/

namespace LanguageHost.Console

/-- The lines of a text. -/
def splitLines : List Char → List Char → List (List Char)
  | word, [] => [word.reverse]
  | word, c :: rest =>
    if c = '\n' then word.reverse :: splitLines [] rest else splitLines (c :: word) rest

/-- A line without the blanks at its end. -/
def trimLine (line : List Char) : String :=
  String.ofList (trimEnd line)

/-- The distance of tab stops in messages. -/
def messageStop : Nat := 8

/-- A message with style tags as it is printed. -/
def message (s : String) : Except Fault (List String) := do
  let lines := splitLines [] (← Markup.render s)
  return lines.flatMap fun line => (wrap width (widenTabs messageStop 0 line)).map trimLine

/-! ## Code -/

/-- The distance of tab stops in code. -/
def codeStop : Nat := 4

/-- Widens the tabs of code, where every character counts as one column. -/
def widenCodeTabs : Nat → List Char → List Char
  | _, [] => []
  | column, c :: rest =>
    if c = '\t' then
      let blanks := blanksToStop codeStop column
      blanks ++ widenCodeTabs (column + blanks.length) rest
    else if c = '\n' || c = '\r' then c :: widenCodeTabs 0 rest
    else c :: widenCodeTabs (column + 1) rest

/-- Every kind of line end becomes a line feed, and other control characters of printers go. The
last line is ended too, so that a carriage return at its end adds no further line. -/
def cleanLines : List Char → List Char
  | [] | ['\r'] => []
  | '\r' :: '\n' :: rest => '\n' :: cleanLines rest
  | '\r' :: rest => '\n' :: cleanLines rest
  | c :: rest => if Markup.isPrinterControl c then cleanLines rest else c :: cleanLines rest

/-- The text without a byte order mark at its start. -/
def dropMark : List Char → List Char
  | '\ufeff' :: rest => rest
  | other => other

/-- A text as it is printed as code. -/
def code (s : List Char) : List String :=
  (splitLines [] (cleanLines (dropMark (widenCodeTabs 0 s)))).map fun line =>
    trimLine (crop width line)

end LanguageHost.Console
