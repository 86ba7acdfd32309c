import LanguageHost.Json.Basic
import LanguageHost.Workspace.Projects

/-!
# Workspace folders

The server knows the workspace as a list of folder addresses. At first it is told about every
visible, open project whose name does not start with a dot. The trees of the projects are walked
for that; a project whose tree cannot be walked to its end is noted and what was found in it is
kept.
-/

namespace LanguageHost.Folders

/-- An address that a folder is announced by; it has to be a string. -/
def address (uri : Json) : Except Fault String :=
  match uri with
  | .str t => .ok t.display
  | other => .error (.rejected ⟨"WorkspaceFolder", [.noString ["uri"] other]⟩)

/-- The addresses of resources, unless one of them lies nowhere. -/
def addresses (resources : List Resource) : Except Fault (List String) :=
  resources.mapM fun r => address (Json.ofString? r.uri?)

/-- Addresses as the folders of a message. -/
def toJson (uris : List String) : Json :=
  .arr (uris.map fun uri => Json.object [("uri", .ofString uri)])

/-- The announcement of folders that were added and removed. -/
def changeParams (added removed : List String) : Json :=
  Json.object [("event", Json.object [("added", toJson added), ("removed", toJson removed)])]

/-- Notes the problem that ended the walk over a project. -/
def noteProblem (project : String) (problem : Problem) (p : Platform) : Platform :=
  p.log "yaml.folders" .error problem.message [("project", project)]

/-- Collects the folders of projects one after another. A problem is noted; another fault ends
the collection. -/
def collect (found : List Resource) : List Resource → Task (List Resource)
  | [] => pure found
  | project :: rest => do
    let walk := project.walkAt (← get).files (fun _ => true) false
    let found := found ++ walk.visited.filter Resource.isWorkspaceFolder
    match walk.fault with
    | none => collect found rest
    | some (.problem problem) =>
      modify (noteProblem project.name problem)
      collect found rest
    | some fault => throw fault

/-- The addresses that the server is told at first. -/
def initial (w : Workspace) : Task (List String) := do
  Task.ofExcept (addresses (← collect [] w.members))

end LanguageHost.Folders
