import LanguageHost.Bus.Basic
import LanguageHost.Workspace.Delta
import LanguageHost.Workspace.Walk

/-!
# Projects

The workspace is a table of projects by name, each mapped onto a directory, and the listeners to
its changes. Every change of the table has a delta; an operation that changes nothing or fails has
none.
-/

namespace LanguageHost

/-- A project: its directory, and whether it is hidden and open. -/
structure Project where
  location : Path
  hidden : Bool
  isOpen : Bool
  deriving DecidableEq, Repr, Inhabited

/-- The projects by name, and the listeners by number. -/
structure Workspace where
  projects : List (String × Project)
  bus : Bus Nat
  deriving Inhabited

/-- The project as a resource. -/
def Project.resource (name : String) (project : Project) : Resource where
  name
  type := .project
  location := some project.location
  parent := some ""
  hidden := project.hidden
  accessible := project.isOpen

/-- The topic of the events of a type. -/
def resourceTopic (type : Nat) : String :=
  "resource." ++ toString type

namespace Workspace

/-- The workspace without projects. -/
def empty : Workspace :=
  ⟨[], Bus.empty⟩

/-- The project with a name. -/
def find? (name : String) (w : Workspace) : Option Project :=
  findMember? name w.projects

/-- The project with a name, or the problem that there is none. -/
def require (name : String) (w : Workspace) : Except Problem Project :=
  match w.find? name with
  | some project => .ok project
  | none => .error (.projectUnknown name)

/-- The projects in the order of their names. -/
def sortedProjects (w : Workspace) : List (String × Project) :=
  sortByName w.projects

/-- The projects as resources, in the order of their names. -/
def members (w : Workspace) : List Resource :=
  w.sortedProjects.map fun entry => entry.2.resource entry.1

/-- Adds a project. -/
def create (name : String) (project : Project) (w : Workspace) :
    Except Problem (Delta × Workspace) :=
  match w.find? name with
  | some _ => .error (.projectExists name)
  | none =>
    .ok (.leaf (project.resource name) addedKind 0,
      { w with projects := w.projects ++ [(name, project)] })

/-- Removes a project. -/
def delete (name : String) (w : Workspace) : Except Problem (Delta × Workspace) :=
  match w.require name with
  | .error problem => .error problem
  | .ok project =>
    .ok (.leaf (project.resource name) removedKind 0,
      { w with projects := dropMember name w.projects })

/-- Opens or closes a project; there is no delta if it is in that state already. -/
def setOpen (name : String) (isOpen : Bool) (w : Workspace) :
    Except Problem (Option (Delta × Workspace)) :=
  match w.require name with
  | .error problem => .error problem
  | .ok project =>
    if project.isOpen = isOpen then .ok none
    else
      let changed := { project with isOpen }
      .ok (some (.leaf (changed.resource name) changedKind openFlag,
        { w with projects := putMember name changed w.projects }))

/-- The powers of two in a mask from a bit on, the lowest first. The bit is doubled until it is
beyond the mask. -/
@[semireducible] def maskBitsFrom (mask : Int) (bit : Nat) (hbit : 0 < bit) : List Nat :=
  if bit ≤ mask then
    let higher := maskBitsFrom mask (2 * bit) (Nat.mul_pos Nat.two_pos hbit)
    if mask.toNat &&& bit = 0 then higher else bit :: higher
  else []
termination_by (mask + 1 - bit).toNat
decreasing_by omega

/-- The powers of two in a mask, the lowest first; none if the mask is not positive. -/
def maskBits (mask : Int) : List Nat :=
  maskBitsFrom mask 1 Nat.one_pos

/-- The subscriptions of a listener to the event types in a mask. -/
def maskSubscriptions (mask : Int) (listener : Nat) : List (Subscription Nat) :=
  (maskBits mask).map fun bit => ⟨resourceTopic bit, listener⟩

/-- Subscribes a listener to every event type in a mask. -/
def subscribe (mask : Int) (listener : Nat) (w : Workspace) : Workspace :=
  { w with
    bus := (maskSubscriptions mask listener).foldl
      (fun bus s => bus.subscribe s.topic s.handler) w.bus }

/-- The walk over the whole workspace from its root. -/
def walk (fs : FileSystem) (visitor : Resource → Bool) (includeHidden : Bool) (w : Workspace) :
    Walk :=
  if !visitor .root then ⟨[.root], none⟩
  else
    Walk.andThen ⟨[.root], none⟩
      (Walk.joined (w.members.map (Resource.walkAt fs visitor includeHidden)))

end Workspace

end LanguageHost
