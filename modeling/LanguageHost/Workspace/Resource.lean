import LanguageHost.Path.Basic
import LanguageHost.Text.Literal

/-!
# Resources

A resource is a file, a folder, a project or the root of the workspace. It lies at a canonical
path, or nowhere, as the root does. A resource is accessible unless it belongs to a closed project.
-/

namespace LanguageHost

/-- What a resource is. -/
inductive ResourceType where
  | file
  | folder
  | project
  | root
  deriving DecidableEq, Repr, Inhabited

/-- The name of a type. -/
def ResourceType.name : ResourceType → String
  | .file => "FILE"
  | .folder => "FOLDER"
  | .project => "PROJECT"
  | .root => "ROOT"

/-- A resource as it is seen at one moment. -/
structure Resource where
  name : String
  type : ResourceType
  location : Option Path
  /-- The name of the resource that holds it. -/
  parent : Option String
  hidden : Bool
  accessible : Bool
  deriving DecidableEq, Repr, Inhabited

namespace Resource

/-- A resource that nothing holds, at the canonical form of a path. -/
def standalone (cwd : Path) (name : String) (type : ResourceType) (location : Option Path)
    (hidden : Bool) : Resource :=
  ⟨name, type, location.map fun p => p.canonical cwd, none, hidden, true⟩

/-- The root of the workspace. -/
def root : Resource :=
  ⟨"", .root, none, none, false, true⟩

/-- The address of a resource, if it lies somewhere. -/
def uri? (r : Resource) : Option String :=
  r.location.map Path.uri

/-- A file or folder directly inside a resource. -/
def member (holder : Resource) (name : String) (isFolder : Bool) : Resource where
  name
  type := if isFolder then .folder else .file
  location := holder.location.map fun p => { p with names := p.names ++ [name] }
  parent := some holder.name
  hidden := false
  accessible := holder.accessible

/-- The server is told about a resource: it is a visible, open project whose name does not start
with a dot. -/
def isWorkspaceFolder (r : Resource) : Bool :=
  r.accessible && !r.hidden && r.type = .project && r.name.toList.head? ≠ some '.'

/-- A resource in a message, under the word for its sort. -/
def describe (word : String) (r : Resource) : String :=
  word ++ "(" ++ quoted r.name ++ ", " ++ r.type.name ++ ")"

end Resource

end LanguageHost
