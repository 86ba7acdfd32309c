import LanguageHost.Fault
import LanguageHost.Workspace.Resource

/-!
# Walking a resource tree

A walk visits a resource and then, while the visitor says yes, what it holds, by name. Hidden
resources are left out unless asked for. Files, closed projects and places without a folder hold
nothing; symbolic links count as files and are not entered. A folder that cannot be listed ends
the walk with a problem, after everything before it was visited. A path that the operating system
does not look at, because it is too long, ends it in the same place with an error.

The walk of every member is determined by the tree alone, so the walks of the members are put in
order by name and joined up to the first problem.
-/

namespace LanguageHost

/-- The resources visited, in order, and the fault that ended the walk, if one did. -/
structure Walk where
  visited : List Resource
  fault : Option Fault

namespace Walk

/-- One walk after another; nothing follows a fault. -/
def andThen (first second : Walk) : Walk :=
  match first.fault with
  | some _ => first
  | none => ⟨first.visited ++ second.visited, second.fault⟩

/-- Walks one after another. -/
def joined (walks : List Walk) : Walk :=
  walks.foldr andThen ⟨[], none⟩

end Walk

/-- Puts named things in the order of their names. -/
def sortByName {α : Type} (xs : List (String × α)) : List (String × α) :=
  xs.mergeSort fun a b => !(b.1 < a.1)

namespace Resource

/-- The problem of a folder whose listing is refused. -/
def listingProblem (r : Resource) (errno : Errno) : Fault :=
  let place := (r.location.map Path.text).getD ""
  .problem (.listingFailed r.name place (OsFault.message ⟨errno, place⟩))

/-- What keeps a folder that stands inside another one from being listed: its path is too long to
ask the operating system about it, or its listing is refused. -/
def refusal? (denied : List String) (r : Resource) : Option Fault :=
  let place := (r.location.map Path.text).getD ""
  if FileSystem.maxPathBytes < place.utf8ByteSize then some (.os ⟨.nameTooLong, place⟩)
  else if denied.contains place then some (r.listingProblem .accessDenied)
  else none

mutual

/-- The walk over a resource and what the node at its location holds. -/
def walkNode (denied : List String) (visitor : Resource → Bool) (r : Resource) : Node → Walk
  | .folder _ es =>
    if !(visitor r && r.accessible) then ⟨[r], none⟩
    else
      match r.refusal? denied with
      | some fault => ⟨[r], some fault⟩
      | none =>
        let members := sortByName (walkEntries denied visitor r es)
        Walk.andThen ⟨[r], none⟩ (Walk.joined (members.map (·.2)))
  | _ => ⟨[r], none⟩

/-- The walks over the entries of a folder, each under its name. -/
def walkEntries (denied : List String) (visitor : Resource → Bool) (holder : Resource) :
    List (String × Node) → List (String × Walk)
  | [] => []
  | (name, node) :: rest =>
    (name, walkNode denied visitor (holder.member name node.isFolder) node) ::
      walkEntries denied visitor holder rest

end

/-- The walk over a resource that is not the root. -/
def walkAt (fs : FileSystem) (visitor : Resource → Bool) (includeHidden : Bool) (r : Resource) :
    Walk :=
  if r.hidden && !includeHidden then ⟨[], none⟩
  else
    match r.type, r.location with
    | .file, _ | _, none => ⟨[r], none⟩
    | _, some place =>
      if !(visitor r && r.accessible) then ⟨[r], none⟩
      else
        match fs.isFolder place with
        | .error errno => ⟨[r], some (.os ⟨errno, place.text⟩)⟩
        | .ok false => ⟨[r], none⟩
        | .ok true =>
          match fs.stat place with
          | .ok node => walkNode fs.denied visitor r node
          | .error errno => ⟨[r], some (r.listingProblem errno)⟩

/-- What a resource that is not the root holds, by name. -/
def membersAt (fs : FileSystem) (r : Resource) : Except Fault (List Resource) :=
  match r.type, r.location with
  | .file, _ | _, none => .ok []
  | _, some place =>
    if !r.accessible then .ok []
    else
      match fs.isFolder place with
      | .error errno => .error (.os ⟨errno, place.text⟩)
      | .ok false => .ok []
      | .ok true =>
        match fs.list place with
        | .ok es => .ok ((sortByName es).map fun e => r.member e.1 e.2.isFolder)
        | .error errno => .error (r.listingProblem errno)

end Resource

end LanguageHost
