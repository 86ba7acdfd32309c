import LanguageHost.Fault

/-!
# Reports

How faults are reported: by class and message, a foreseen problem with its data as well, and a
fault that says nothing beyond its class by the class alone.
-/

namespace LanguageHost

namespace Fault

/-- The members of a report. -/
def report (f : Fault) : List (String × Json) :=
  match f with
  | problem p => [("error", p.kind.name), ("message", p.words), ("data", p.data)]
  | other =>
    if other.isWordless then [("error", other.className)]
    else [("error", other.className), ("message", .str other.message)]

end Fault

namespace Problem

/-- A problem with words and data of its own. Without words it is told by the name of its kind;
words and data that count as nothing are none. -/
def make (kind : ProblemKind) (data words : Json) : Problem :=
  .given kind (if data.isEmpty then Json.object [] else data)
    (if words.isEmpty then .ofString kind.name else words)

/-- A problem and the words of what caused it. -/
def toJson (p : Problem) (cause : Option Text) : Json :=
  Json.object
    [("name", p.kind.name), ("message", p.words), ("data", p.data),
      ("cause", (cause.map Json.str).getD .null)]

/-- The kinds that a problem belongs to, the widest first. -/
def kinds (p : Problem) : List ProblemKind :=
  ProblemKind.all.filter fun wide => p.kind.isA wide

end Problem

end LanguageHost
