import LanguageHost.Text.Printable

/-!
# Quoted literals

Names and paths inside messages are written as quoted literals. The quote is a single one unless
the text holds a single quote and no double one; the quote in use, the backslash, tab, line feed
and carriage return are escaped by name, and every hidden code point by its number, in two, four
or eight hexadecimal digits.
-/

namespace LanguageHost

namespace Text

/-- The quote around a text: double only if the text holds a single quote and no double quote. -/
def literalQuote (t : Text) : Char :=
  if t.contains (CodePoint.ofChar '\x27') && !t.contains (CodePoint.ofChar '"') then '"'
  else '\x27'

/-- One code point between quotes. -/
def literalPoint (quote : Char) (c : CodePoint) : List Char :=
  match c.toChar? with
  | none => '\\' :: 'u' :: hexDigits 4 c.val
  | some ch =>
    if ch = quote || ch = '\\' then ['\\', ch]
    else if ch = '\n' then ['\\', 'n']
    else if ch = '\r' then ['\\', 'r']
    else if ch = '\t' then ['\\', 't']
    else if c.isPrintable then [ch]
    else if c.val < 0x100 then '\\' :: 'x' :: hexDigits 2 c.val
    else if c.val < 0x10000 then '\\' :: 'u' :: hexDigits 4 c.val
    else '\\' :: 'U' :: hexDigits 8 c.val

/-- The text as a quoted literal. -/
def literal (t : Text) : String :=
  let quote := t.literalQuote
  String.ofList (quote :: t.flatMap (literalPoint quote) ++ [quote])

end Text

/-- A string as a quoted literal. -/
def quoted (s : String) : String :=
  (Text.ofString s).literal

end LanguageHost
