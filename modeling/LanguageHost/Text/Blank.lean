import LanguageHost.Text.Basic

/-!
# Blank text

A text is blank when nothing is left of it once white space is taken from both ends. White space
here is the set of code points with the bidirectional classes of a separator or the general
category of a space, 29 code points in all.
-/

namespace LanguageHost

/-- White space: the separators `U+0009` to `U+000D` and `U+001C` to `U+001F`, and every space. -/
def CodePoint.isBlank (c : CodePoint) : Bool :=
  let n := c.val
  (0x09 ≤ n && n ≤ 0x0D) || (0x1C ≤ n && n ≤ 0x20) || n == 0x85 || n == 0xA0 || n == 0x1680 ||
    (0x2000 ≤ n && n ≤ 0x200A) || n == 0x2028 || n == 0x2029 || n == 0x202F || n == 0x205F ||
    n == 0x3000

namespace Text

/-- The text without the white space at its end. -/
def trimEnd (t : Text) : Text :=
  (t.reverse.dropWhile CodePoint.isBlank).reverse

/-- The text without the white space at its two ends. -/
def trim (t : Text) : Text :=
  trimEnd (t.dropWhile CodePoint.isBlank)

/-- Nothing but white space. -/
def isBlank (t : Text) : Bool :=
  t.all CodePoint.isBlank

end Text

/-- A string without the white space at its two ends. -/
def trimBlank (s : String) : String :=
  (Text.ofString s).trim.display

/-- The words of a text between white space; the first argument is the word in hand, its last
character first. -/
def splitBlanksFrom : List Char → List Char → List String
  | inHand, [] => if inHand.isEmpty then [] else [String.ofList inHand.reverse]
  | inHand, c :: rest =>
    if (CodePoint.ofChar c).isBlank then
      if inHand.isEmpty then splitBlanksFrom [] rest
      else String.ofList inHand.reverse :: splitBlanksFrom [] rest
    else splitBlanksFrom (c :: inHand) rest

/-- The words of a string between white space. -/
def splitBlanks (s : String) : List String :=
  splitBlanksFrom [] s.toList

end LanguageHost
