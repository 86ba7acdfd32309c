import LanguageHost.Bus.Basic

/-!
# Preferences

A store keeps strings under keys, and defaults beside them. What a key shows is its stored value,
else its default, else the empty text. Setting a key to its default erases the stored value, and
only a change of what the key shows is announced.
-/

namespace LanguageHost

/-- The topic under which changes are announced. -/
def preferenceTopic : String := "preference.changed"

/-- The key of the schema preference. -/
def schemaKey : Text := "yaml.schema"

/-- The announcement of a change: the key, and what it showed before and shows now. -/
structure PreferenceChange where
  key : Text
  old : Option Text
  new : Option Text
  deriving DecidableEq, Repr

/-- Stored values and defaults in order, where the values are saved, and who is told of changes.
Listeners are known by number. -/
structure PreferenceStore where
  path : Path
  values : List (Text × Text)
  defaults : List (Text × Text)
  bus : Bus Nat
  deriving Inhabited

namespace PreferenceStore

/-- The store that holds nothing. -/
def empty (path : Path) : PreferenceStore :=
  ⟨path, [], [], Bus.empty⟩

/-- Sets the default of a key; no one is told. -/
def setDefault (key value : Text) (store : PreferenceStore) : PreferenceStore :=
  { store with defaults := putMember key value store.defaults }

/-- The default of a key, empty if there is none. -/
def getDefault (key : Text) (store : PreferenceStore) : Text :=
  (findMember? key store.defaults).getD []

/-- The key has a value or a default. -/
def contains (key : Text) (store : PreferenceStore) : Bool :=
  (findMember? key store.values).isSome || (findMember? key store.defaults).isSome

/-- What a key shows. -/
def get (key : Text) (store : PreferenceStore) : Text :=
  (findMember? key store.values).getD (store.getDefault key)

/-- Writes a value without telling anyone. -/
def write (key value : Text) (store : PreferenceStore) : PreferenceStore :=
  if value = store.getDefault key then { store with values := dropMember key store.values }
  else { store with values := putMember key value store.values }

@[simp] theorem getDefault_write (key other value : Text) (store : PreferenceStore) :
    (store.write key value).getDefault other = store.getDefault other := by
  unfold write
  split <;> rfl

/-- A written value is what its key shows, and other keys show what they did. -/
theorem get_write (key other value : Text) (store : PreferenceStore) :
    (store.write key value).get other = if key = other then value else store.get other := by
  unfold write
  split
  · rename_i isDefault
    simp only [get, getDefault, findMember?_dropMember]
    split
    · rename_i same
      rw [isDefault, same]
      rfl
    · rfl
  · simp only [get, getDefault, findMember?_putMember]
    split <;> rfl

/-- The change that setting a key to a value has to announce, if it is one. -/
def changeOf (key value : Text) (store : PreferenceStore) : Option PreferenceChange :=
  let old := store.get key
  if old = value then none else some ⟨key, some old, some value⟩

/-- The defaults that the YAML support reads. -/
def withYamlDefaults (store : PreferenceStore) : PreferenceStore :=
  store.setDefault schemaKey []

end PreferenceStore

end LanguageHost
