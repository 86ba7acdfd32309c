import LanguageHost.Members
import LanguageHost.Number.Shortest
import LanguageHost.Text.Literal

/-!
# JSON values

A value keeps the members of an object in order. Whether a key may be repeated is not part of the
type: a reader that keeps repetitions and one that merges them share it, and `mergeMembers` leads
from the one to the other.
-/

namespace LanguageHost

/-- A JSON value whose strings are sequences of code points and whose objects are ordered. -/
inductive Json where
  | null
  | bool (value : Bool)
  | int (value : Int)
  | float (value : Binary64)
  | str (value : Text)
  | arr (elements : List Json)
  | obj (members : List (Text × Json))
  deriving Repr, Inhabited

namespace Json

/-- The value of a string. -/
def ofString (s : String) : Json :=
  .str (Text.ofString s)

instance : Coe String Json := ⟨ofString⟩

/-- A string, or null for none. -/
def ofString? : Option String → Json
  | some s => ofString s
  | none => .null

/-- An array of strings. -/
def ofStrings (ss : List String) : Json :=
  .arr (ss.map ofString)

/-- An object with the given members. -/
def object (members : List (String × Json)) : Json :=
  .obj (members.map fun m => (Text.ofString m.1, m.2))

/-- The member of an object; none for a value of another kind. -/
def member? (key : String) : Json → Option Json
  | .obj members => findMember? (Text.ofString key) members
  | _ => none

/-- The word for the kind of a value. -/
def kindWord : Json → String
  | .null => "NoneType"
  | .bool _ => "bool"
  | .int _ => "int"
  | .float _ => "float"
  | .str _ => "str"
  | .arr _ => "list"
  | .obj _ => "dict"

/-- The number that a value counts as; true and false count as one and zero. -/
def number? : Json → Option Binary64
  | .bool b => some (Binary64.ofRatio false (if b then 1 else 0) 1)
  | .int n => some (Binary64.ofRatio (n < 0) n.natAbs 1)
  | .float x => some x
  | _ => none

/-- A value that things can be kept under; arrays and objects are none. -/
def isKey : Json → Bool
  | .arr _ | .obj _ => false
  | _ => true

/-- The value is this integer, in whatever way it is written. -/
def isInt (n : Int) : Json → Bool
  | .bool b => (if b then 1 else 0) = n
  | .int m => m = n
  | .float (.finite negative significand exponent) =>
    let (num, den) := Binary64.toRatio significand exponent
    (if negative then -(num : Int) else num) = n * den
  | _ => false

/-- Two values that things can be kept under are the same key. -/
def sameKey : Json → Json → Bool
  | .null, .null => true
  | .str s, .str t => s = t
  | .float x, .float y => x = y && x ≠ .nan
  | .int n, other => other.isInt n
  | .bool b, other => other.isInt (if b then 1 else 0)
  | other, .int n => other.isInt n
  | other, .bool b => other.isInt (if b then 1 else 0)
  | _, _ => false

/-- The string that a value is. -/
def text? : Json → Option Text
  | .str t => some t
  | _ => none

/-- The value counts as nothing: null, false, zero, or empty. -/
def isEmpty : Json → Bool
  | .null => true
  | .bool b => !b
  | .int n => n == 0
  | .float (.finite _ significand _) => significand == 0
  | .float _ => false
  | .str t => t.isEmpty
  | .arr xs => xs.isEmpty
  | .obj ms => ms.isEmpty

mutual

/-- The value with the repeated members of all its objects merged. -/
def merged : Json → Json
  | .arr xs => .arr (mergedElements xs)
  | .obj ms => .obj (mergeMembers (mergedMembers ms))
  | other => other

/-- The elements of an array with their repeated members merged. -/
def mergedElements : List Json → List Json
  | [] => []
  | x :: xs => merged x :: mergedElements xs

/-- The members of an object, each with its own repeated members merged. -/
def mergedMembers : List (Text × Json) → List (Text × Json)
  | [] => []
  | (k, x) :: ms => (k, merged x) :: mergedMembers ms

end

mutual

/-- The text of a value inside a container: strings are quoted literals. -/
def inner : Json → Text
  | .null => "None"
  | .bool true => "True"
  | .bool false => "False"
  | .int n => toString n
  | .float x => Binary64.text "nan" "inf" x
  | .str t => t.literal
  | .arr xs => Text.ofString "[" ++ Text.join ", " (innerElements xs) ++ Text.ofString "]"
  | .obj ms =>
    Text.ofString "\x7b" ++ Text.join ", " (innerMembers ms) ++ Text.ofString "\x7d"

/-- The texts of the elements of an array. -/
def innerElements : List Json → List Text
  | [] => []
  | x :: xs => inner x :: innerElements xs

/-- The texts of the members of an object. -/
def innerMembers : List (Text × Json) → List Text
  | [] => []
  | (k, x) :: ms => (Text.ofString k.literal ++ Text.ofString ": " ++ inner x) :: innerMembers ms

end

/-- The value as it is shown in a log line or message: a string is shown as it is. -/
def shown : Json → Text
  | .str t => t
  | other => inner other

end Json

end LanguageHost
