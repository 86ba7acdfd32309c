import LanguageHost.Fault

/-!
# Server definitions

A definition names a kind of server and says where its providers come from. Definitions are told
apart by their number, never by what they say: sessions are matched against the very definition
that was registered. A registry keeps the first definition of each id.
-/

namespace LanguageHost

/-- Where the providers of a definition come from. -/
inductive ProviderSource where
  /-- Providers of the YAML server over the store and workspace with these numbers. -/
  | yaml (store workspace : Nat)
  /-- Providers that are known by a name only. -/
  | labelled (name : String)
  deriving DecidableEq, Repr, Inhabited

/-- A kind of server. -/
structure Definition where
  id : String
  label : String
  languages : List String
  source : ProviderSource
  deriving DecidableEq, Repr, Inhabited

namespace Definition

/-- A definition in a message. -/
def describe (d : Definition) : String :=
  "ServerDefinition(" ++ quoted d.id ++ ")"

/-- The id of the YAML server. -/
def yamlId : String := "yamlls_bridge.yaml"

/-- The definition of the YAML server over a store and a workspace. -/
def yaml (store workspace : Nat) : Definition :=
  ⟨yamlId, "YAML Language Server", ["yaml"], .yaml store workspace⟩

end Definition

/-- The numbers of registered definitions by id, in the order of registration. -/
abbrev Registry := List (String × Nat)

namespace Registry

/-- Registers a definition; the number is that of the definition now under its id. -/
def register (id : String) (n : Nat) (registry : Registry) : Nat × Registry :=
  match findMember? id registry with
  | some first => (first, registry)
  | none => (n, registry ++ [(id, n)])

end Registry

/-- Definitions by number, and one registry over them. -/
structure Catalogue where
  definitions : List Definition
  registry : Registry
  deriving Inhabited

namespace Catalogue

/-- The catalogue without definitions. -/
def empty : Catalogue := ⟨[], []⟩

/-- Makes a definition and registers it. Its providers are known by its number. -/
def register (id label : String) (languages : List String) (c : Catalogue) : Nat × Catalogue :=
  let n := c.definitions.length
  let definition : Definition := ⟨id, label, languages, .labelled ("provider " ++ toString n)⟩
  let (found, registry) := Registry.register id n c.registry
  (found, ⟨c.definitions ++ [definition], registry⟩)

/-- The definition with a number. -/
def get (n : Nat) (c : Catalogue) : Except Fault Definition :=
  match c.definitions[n]? with
  | some d => .ok d
  | none => .error .indexOutOfRange

/-- Registers a definition that was made before. -/
def again (n : Nat) (c : Catalogue) : Except Fault (Nat × Catalogue) := do
  let d ← c.get n
  let (found, registry) := Registry.register d.id n c.registry
  return (found, { c with registry })

/-- The number of the definition under an id. -/
def find? (id : String) (c : Catalogue) : Option Nat :=
  findMember? id c.registry

/-- The numbers of all registered definitions, in the order of registration. -/
def registered (c : Catalogue) : List Nat :=
  c.registry.map (·.2)

end Catalogue

end LanguageHost
