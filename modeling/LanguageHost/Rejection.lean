import LanguageHost.Json.Basic
import LanguageHost.Text.Utf8

/-!
# Rejections

A value that must have a certain form is checked as a whole, and everything that is wrong with it
is a complaint: where it lies, in words and by a code, and the value that was found there. A
`Rejection` is all complaints about one value. Its text shows found values as they are shown in
messages; one that is long is cut in the middle, never inside a character.
-/

namespace LanguageHost

/-- One thing that is wrong with a value. -/
structure Complaint where
  /-- The keys and indices that lead to the place. -/
  location : List Json
  code : String
  message : String
  /-- The value at the place. -/
  found : Json

/-- Everything that is wrong with a value of which a certain form was expected. -/
structure Rejection where
  /-- The name of the form. -/
  expected : String
  complaints : List Complaint

/-- The number of bytes of a text. -/
def Text.byteCount : Text → Nat
  | [] => 0
  | c :: rest => (Utf8.encodePoint c).length + byteCount rest

/-- As much of the start of a text as a number of bytes holds. -/
def Text.takeBytes : Nat → Text → Text
  | _, [] => []
  | room, c :: rest =>
    let width := (Utf8.encodePoint c).length
    if width ≤ room then c :: takeBytes (room - width) rest else []

namespace Complaint

/-- The most bytes of a found value that are shown. -/
def shownBytes : Nat := 50

/-- A text with its middle left out if it is long. -/
def shorten (t : Text) : Text :=
  if t.byteCount ≤ shownBytes then t
  else
    let start := t.takeBytes (shownBytes / 2)
    let finish := (Text.takeBytes (shownBytes / 2 - 1) t.reverse).reverse
    start ++ Text.ofString "..." ++ finish

/-- The address of further information about complaints with a code. -/
def address (code : String) : String :=
  "https://errors.pydantic.dev/2.14/v/" ++ code

/-- A key or index on the way to a place; a key with a point in it is set off. -/
def step : Json → Text
  | .str t =>
    if t.contains (CodePoint.ofChar '.') then
      Text.ofString "\x60" ++ t ++ Text.ofString "\x60"
    else t
  | other => other.shown

/-- The line that says where a complaint lies; none for the value as a whole. -/
def placeLine (c : Complaint) : Text :=
  if c.location.isEmpty then []
  else Text.join "." (c.location.map step) ++ Text.ofString "\n"

/-- The text of a complaint. -/
def text (c : Complaint) : Text :=
  c.placeLine ++ Text.ofString ("  " ++ c.message ++ " [type=" ++ c.code ++ ", input_value=") ++
    shorten c.found.inner ++
    Text.ofString (", input_type=" ++ c.found.kindWord ++ "]\n    For further information visit " ++
      address c.code)

/-- A string was expected. -/
def noString (location : List Json) (found : Json) : Complaint :=
  ⟨location, "string_type", "Input should be a valid string", found⟩

end Complaint

namespace Rejection

/-- The first line of a rejection: how much is wrong with what. -/
def heading (r : Rejection) : String :=
  let count := r.complaints.length
  toString count ++ " validation error" ++ (if count = 1 then "" else "s") ++ " for " ++ r.expected

/-- The text of a rejection. -/
def message (r : Rejection) : Text :=
  Text.join "\n" (Text.ofString r.heading :: r.complaints.map Complaint.text)

end Rejection

end LanguageHost
