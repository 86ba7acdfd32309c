import LanguageHost.Preferences.Store
import LanguageHost.Schema.Mapping
import LanguageHost.Text.Blank

/-!
# Settings

The server is told its settings as one JSON object with a `yaml` block. The block is empty while
the schema preference is blank; otherwise it holds the schemas that the preference writes and turns
validation, completion and hover on. A preference that writes no schema mapping is a problem to
whoever asks for the block; the server is sent an empty block then, and the problem is noted.
-/

namespace LanguageHost

namespace Settings

/-- The block for a schema mapping. -/
def blockOf (schemas : SchemaMapping) : Json :=
  Json.object
    [("schemas", schemas.toJson), ("validate", .bool true), ("completion", .bool true),
      ("hover", .bool true)]

/-- The first complaint's wording. -/
def firstMessage (r : Rejection) : String :=
  (r.complaints.head?.map Complaint.message).getD ""

/-- The schemas that a preference text asks for; none if it is blank. -/
def schemasOf (preference : Text) : Except Problem (Option SchemaMapping) :=
  if preference.isBlank then .ok none
  else
    match Schema.check preference with
    | .ok schemas => .ok (some schemas)
    | .error r => .error (.schemaInvalid schemaKey.display (firstMessage r))

/-- The block that a preference text asks for. -/
def blockFor (preference : Text) : Except Problem Json :=
  match schemasOf preference with
  | .ok none => .ok (Json.object [])
  | .ok (some schemas) => .ok (blockOf schemas)
  | .error problem => .error problem

/-- The settings with a block. -/
def wrap (block : Json) : Json :=
  Json.object [("yaml", block)]

/-- Settings that come from outside; they have to be an object. -/
def checked (settings : Json) : Except Fault Json :=
  match settings with
  | .obj _ => .ok settings
  | other =>
    .error <| .rejected
      ⟨"DidChangeConfigurationParams",
        [⟨["settings"], "dict_type", "Input should be a valid dictionary", other⟩]⟩

/-- The settings of a store, and the problem that made its block empty, if one did. -/
def build (store : PreferenceStore) : Json × Option Problem :=
  match blockFor (store.get schemaKey) with
  | .ok block => (wrap block, none)
  | .error problem => (wrap (Json.object []), some problem)

/-- The settings of a store; a problem is noted in the journal. -/
def buildNoted (store : PreferenceStore) (p : Platform) : Json × Platform :=
  match build store with
  | (settings, none) => (settings, p)
  | (settings, some problem) =>
    (settings, p.log "yaml.settings" .error problem.message [("preference", .str schemaKey)])

@[simp] theorem cwd_buildNoted (store : PreferenceStore) (p : Platform) :
    (buildNoted store p).2.cwd = p.cwd := by
  unfold buildNoted
  rcases build store with ⟨settings, _ | problem⟩
  · rfl
  · exact Platform.cwd_log _ _ _ _ p

end Settings

end LanguageHost
