import LanguageHost.Fault
import LanguageHost.Workspace.Resource

/-!
# Change deltas

A change to the workspace is announced as a tree of deltas: each names a resource, what kind of
change happened to it and further flags, and holds the deltas below it. A delta may be broken:
visiting it fails.

`Delta.changedProjects` collects the projects that a tree adds and removes, in the order of a visit
from the top down.
-/

namespace LanguageHost

/-- The kind of a resource that was added. -/
def addedKind : Int := 0x1

/-- The kind of a resource that was removed. -/
def removedKind : Int := 0x2

/-- The kind of a resource that changed in another way. -/
def changedKind : Int := 0x4

/-- The flag of a project that was opened or closed. -/
def openFlag : Int := 0x4000

/-- The flag of a change of annotations. -/
def markersFlag : Int := 0x20000

/-- The type of events that are published after a change. -/
def postChange : Nat := 1

/-- One node of a change tree. -/
inductive Delta where
  | node (resource : Resource) (kind flags : Int) (broken : Option Fault) (children : List Delta)

namespace Delta

/-- The resource of a delta. -/
def resource : Delta → Resource
  | node r _ _ _ _ => r

/-- The kind of a delta. -/
def kind : Delta → Int
  | node _ k _ _ _ => k

/-- The flags of a delta. -/
def flags : Delta → Int
  | node _ _ f _ _ => f

/-- A delta without further deltas below it. -/
def leaf (r : Resource) (kind flags : Int) : Delta :=
  node r kind flags none []

/-- The delta of the workspace root with one delta below it. -/
def ofRoot (flags : Int) (below : Delta) : Delta :=
  node .root changedKind flags none [below]

end Delta

/-- Projects that were added and projects that were removed. -/
structure ProjectChanges where
  added : List Resource
  removed : List Resource
  deriving Inhabited

namespace ProjectChanges

/-- Notes the change that one delta says. -/
def note (changes : ProjectChanges) (r : Resource) (kind : Int) : ProjectChanges :=
  if r.type ≠ .project then changes
  else if kind = addedKind then { changes with added := changes.added ++ [r] }
  else if kind = removedKind then { changes with removed := changes.removed ++ [r] }
  else changes

end ProjectChanges

namespace Delta

mutual

/-- The projects that a tree adds and removes, put behind those found before. -/
def collect (changes : ProjectChanges) : Delta → Except Fault ProjectChanges
  | node r kind _ broken children =>
    match broken with
    | some fault => .error fault
    | none => collectAll (changes.note r kind) children

/-- The projects that several trees add and remove. -/
def collectAll (changes : ProjectChanges) : List Delta → Except Fault ProjectChanges
  | [] => .ok changes
  | delta :: rest =>
    match collect changes delta with
    | .error fault => .error fault
    | .ok changes => collectAll changes rest

end

/-- The projects that a tree adds and removes. -/
def changedProjects (delta : Delta) : Except Fault ProjectChanges :=
  collect ⟨[], []⟩ delta

end Delta

end LanguageHost
