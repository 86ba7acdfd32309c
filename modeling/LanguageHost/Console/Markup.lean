import LanguageHost.Console.Emoji
import LanguageHost.Console.Style
import LanguageHost.Fault

/-!
# Console markup

A message may hold style tags in square brackets. A tag begins with a small letter, a hash sign, a
slash or an at sign and has no opening bracket inside. A tag that begins with a slash ends the style
that it names, or the one begun last if it names none; every other tag begins a style. Styles need
not be ended, but what is ended must have begun.

Of backslashes in front of a tag every two are one, and one that is left over makes the tag a text.
The plain texts between the tags are shown with emoji in place of their names and without control
characters.
-/

namespace LanguageHost.Console.Markup

/-- A part of a message: a plain text, or a tag with what stands between its brackets. -/
inductive Part where
  | plain (text : List Char)
  | tag (position : Nat) (body : List Char)

/-- A tag begins with this character. -/
def opensTag (c : Char) : Bool :=
  ('a' ≤ c && c ≤ 'z') || c = '#' || c = '/' || c = '@'

/-- What stands between the brackets of a tag, from behind the opening one on, and what follows the
closing one; none if no tag stands there. -/
def spanTag (s : List Char) : Option (List Char × List Char) :=
  match s with
  | [] => none
  | c :: _ =>
    if !opensTag c then none
    else
      let body := s.takeWhile fun c => c ≠ ']' && c ≠ '['
      match s.drop body.length with
      | ']' :: rest => some (body, rest)
      | _ => none

/-- A text between tags in which a backslash in front of a bracket goes away. -/
def unescape : List Char → List Char
  | '\\' :: '[' :: rest => '[' :: unescape rest
  | c :: rest => c :: unescape rest
  | [] => []

/-- The plain text in hand as a part; it is held the last character first. -/
def closeText (inHand : List Char) : List Part :=
  if inHand.isEmpty then [] else [.plain (unescape inHand.reverse)]

/-- The parts that a tag with backslashes in front of it makes. -/
def tagParts (position backslashes : Nat) (body : List Char) : List Part :=
  let shown := List.replicate (backslashes / 2) '\\'
  let literal := if shown.isEmpty then [] else [Part.plain shown]
  let isShown := backslashes % 2 = 1
  literal ++
    [if isShown then .plain ('[' :: body ++ [']']) else .tag (position + backslashes) body]

/-- The parts of a text from a position on, behind a plain text in hand. The first argument bounds
the steps. -/
def partsFrom : Nat → Nat → List Char → List Char → List Part
  | 0, _, inHand, _ => closeText inHand
  | _ + 1, _, inHand, [] => closeText inHand
  | fuel + 1, position, inHand, c :: rest =>
    let slashes := (c :: rest).takeWhile (· = '\\')
    let count := slashes.length
    match (c :: rest).drop count with
    | '[' :: inside =>
      match spanTag inside with
      | some (body, more) =>
        closeText inHand ++ tagParts position count body ++
          partsFrom fuel (position + count + body.length + 2) [] more
      | none => partsFrom fuel (position + count + 1) ('[' :: slashes ++ inHand) inside
    | behind =>
      if count = 0 then partsFrom fuel (position + 1) (c :: inHand) rest
      else partsFrom fuel (position + count) (slashes ++ inHand) behind

/-- The parts of a message. -/
def parts (message : String) : List Part :=
  partsFrom (message.length + 1) 0 [] message.toList

/-- The styles that are open behind a tag, the last one first. -/
def nest (position : Nat) (body : List Char) (opened : List String) :
    Except Fault (List String) :=
  let name := String.ofList (body.takeWhile (· ≠ '='))
  match name.toList with
  | '/' :: rest =>
    let ended := trimBlank (String.ofList rest)
    if ended.isEmpty then
      match opened with
      | _ :: below => .ok below
      | [] =>
        .error (.markup ("closing tag '[/]' at position " ++ toString position ++
          " has nothing to close"))
    else
      let style := Style.normalize ended
      if opened.contains style then .ok (opened.erase style)
      else
        .error (.markup ("closing tag '[" ++ String.ofList body ++ "]' at position " ++
          toString position ++ " doesn't match any open tag"))
  | _ => .ok (Style.normalize name :: opened)

/-- A control character that moves a printer and is not shown. -/
def isPrinterControl (c : Char) : Bool :=
  c = '\x07' || c = '\x08' || c = '\x0b' || c = '\x0c' || c = '\r'

/-- The text of parts while styles are open. -/
def renderParts (opened : List String) : List Part → Except Fault (List Char)
  | [] => .ok []
  | .plain text :: rest => do
    return (Emoji.replace text).filter (!isPrinterControl ·) ++ (← renderParts opened rest)
  | .tag position body :: rest => do
    renderParts (← nest position body opened) rest

/-- The text that a message shows. -/
def render (message : String) : Except Fault (List Char) :=
  renderParts [] (parts message)

end LanguageHost.Console.Markup
