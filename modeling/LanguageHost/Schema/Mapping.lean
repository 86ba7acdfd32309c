import LanguageHost.Json.Strict
import LanguageHost.Rejection

/-!
# Schema mappings

A schema mapping sends the address of a schema to one file pattern or to a list of them. It is
written as a JSON object. `Schema.check` says everything that is wrong with such a text: each
member is looked at by itself, also one whose key is repeated further on.
-/

namespace LanguageHost

/-- The files that a schema applies to. -/
inductive Glob where
  | one (pattern : Text)
  | many (patterns : List Text)
  deriving DecidableEq, Repr

/-- Schema addresses with their files, in order and without repeated addresses. -/
abbrev SchemaMapping := List (Text × Glob)

namespace Schema

/-- The text holds a surrogate without its partner. -/
def notUnicode (t : Text) : Complaint where
  location := []
  code := "string_unicode"
  message := "Input should be a valid string, unable to parse raw data as a unicode string"
  found := .str t

/-- The text is no JSON. -/
def malformed (t : Text) (description : String) : Complaint :=
  ⟨[], "json_invalid", "Invalid JSON: " ++ description, .str t⟩

/-- The text is JSON of another kind than an object. -/
def notObject (found : Json) : Complaint :=
  ⟨[], "dict_type", "Input should be an object", found⟩

/-- Where the value under a key lies when it is tried as a single pattern. -/
def asPattern (key : Text) : List Json :=
  [.str key, .ofString "str"]

/-- Where the value under a key lies when it is tried as a list of patterns. -/
def asPatterns (key : Text) : List Json :=
  [.str key, .ofString "list[str]"]

/-- The value under a key is no array. -/
def notList (key : Text) (found : Json) : Complaint :=
  ⟨asPatterns key, "list_type", "Input should be a valid array", found⟩

/-- Complaints about the elements that are no strings, counted from an index on. -/
def elementComplaints (key : Text) : Nat → List Json → List Complaint
  | _, [] => []
  | i, .str _ :: rest => elementComplaints key (i + 1) rest
  | i, x :: rest => .noString (asPatterns key ++ [.int i]) x :: elementComplaints key (i + 1) rest

/-- The complaints about one member's value; none for a string and for an array of strings. -/
def valueComplaints (key : Text) : Json → List Complaint
  | .str _ => []
  | .arr xs =>
    match elementComplaints key 0 xs with
    | [] => []
    | complaints => .noString (asPattern key) (.arr xs) :: complaints
  | other => [.noString (asPattern key) other, notList key other]

/-- The files that a member's value names. -/
def globOf : Json → Glob
  | .str t => .one t
  | .arr xs => .many (xs.filterMap Json.text?)
  | _ => .many []

/-- The name of the form that a schema text must have. -/
def title : String := "SchemaMapping"

/-- The mapping that the members of an object make, or everything that is wrong with them. -/
def mappingOf (members : List (Text × Json)) : Except (List Complaint) SchemaMapping :=
  match members.flatMap fun m => valueComplaints m.1 m.2.merged with
  | [] => .ok (mergeMembers (members.map fun m => (m.1, globOf m.2)))
  | complaints => .error complaints

/-- The mapping that a sequence of characters writes, or all that is wrong with it. -/
def readMapping (s : List Char) : Except (List Complaint) SchemaMapping :=
  match Json.Strict.read s with
  | .error stop => .error [malformed (Text.ofChars s) (stop.message s)]
  | .ok (.obj members) => mappingOf members
  | .ok other => .error [notObject other.merged]

/-- The mapping that a text writes, or all that is wrong with it. -/
def check (t : Text) : Except Rejection SchemaMapping :=
  match t.toChars? with
  | none => .error ⟨title, [notUnicode t]⟩
  | some s => (readMapping s).mapError (⟨title, ·⟩)

end Schema

namespace Glob

/-- The patterns as JSON: a string, or an array of strings. -/
def toJson : Glob → Json
  | one pattern => .str pattern
  | many patterns => .arr (patterns.map .str)

end Glob

namespace SchemaMapping

/-- The mapping as a JSON object. -/
def toJson (m : SchemaMapping) : Json :=
  .obj (m.map fun entry => (entry.1, entry.2.toJson))

end SchemaMapping

end LanguageHost
