import LanguageHost.Json.Printer
import LanguageHost.Json.Loose
import LanguageHost.Preferences.Store

/-!
# Preference files

A preference file is a JSON object. Its strings are taken as they are; any other value is kept as
its own JSON text, so that nothing is lost. A file is read completely before the store changes.

What is wrong with the JSON itself is reported as unreadable preferences, and so are errors of the
operating system. A file that is no UTF-8, holds a longer integer than is converted or nests too
deeply stops the operation by itself.
-/

namespace LanguageHost.Preferences

/-- Every kind of line end becomes a line feed. -/
def unifyLineEnds : List Char → List Char
  | [] => []
  | '\r' :: '\n' :: rest => '\n' :: unifyLineEnds rest
  | '\r' :: rest => '\n' :: unifyLineEnds rest
  | c :: rest => c :: unifyLineEnds rest

/-- The preference that a JSON value is kept as. -/
def valueText : Json → Text
  | .str t => t
  | other => Text.ofChars (Json.write other)

/-- The preferences that the members of an object are kept as. -/
def valuesOf (members : List (Text × Json)) : List (Text × Text) :=
  members.map fun m => (m.1, valueText m.2)

/-- The JSON value in the bytes of a file. -/
def parse (path : Path) (bytes : List UInt8) : Except Fault Json :=
  match Utf8.decode bytes with
  | .error fault => .error (.undecodable fault)
  | .ok characters =>
    let document := unifyLineEnds characters
    match Json.Loose.read document with
    | .ok value => .ok value
    | .error (.malformed fault rest) =>
      .error (.problem (.preferencesUnreadable path.text
        (Json.Loose.faultMessage document fault rest)))
    | .error (.longInteger digits) => .error (.longInteger digits)
    | .error .tooDeep => .error .tooDeep

/-- The text that preferences are saved as. -/
def render (values : List (Text × Text)) : List Char :=
  Json.writeIndented 0 (.obj (values.map fun v => (v.1, .str v.2)))

/-- The problem of preferences that cannot be read, noted in the journal. -/
def failUnreadable {α : Type} (path : Path) (reason : String) : Task α := do
  Task.log "preferences" .error "Failed to load preferences"
    [("path", path.text), ("error", reason)]
  throw (.problem (.preferencesUnreadable path.text reason))

/-- The values in the file at a path; none if there is no file. -/
def load (path : Path) : Task (Option (List (Text × Text))) := do
  let p ← get
  if !(← Task.ofErrno path (p.files.pathExists path)) then return none
  match p.files.readFile path with
  | .error errno => failUnreadable path (OsFault.message ⟨errno, path.text⟩)
  | .ok bytes =>
    match parse path bytes with
    | .error (.problem (.preferencesUnreadable _ reason)) => failUnreadable path reason
    | .error fault => throw fault
    | .ok (.obj members) => return some (valuesOf members)
    | .ok _ => throw (.problem (.preferencesNoObject path.text))

/-- The problem of preferences that cannot be written, noted in the journal. -/
def failUnwritable {α : Type} (path : Path) (fault : OsFault) : Task α := do
  Task.log "preferences" .error "Failed to save preferences" [("error", fault.message)]
  throw (.problem (.preferencesUnwritable path.text fault.message))

/-- Writes values to the file at a path, making the folders above it. -/
def save (path : Path) (values : List (Text × Text)) : Task Unit := do
  let p ← get
  if FileSystem.hasNul path.parent then throw .nulByte
  match p.files.ensureFolders path.parent with
  | .error fault =>
    Task.setFiles (p.files.foldersLeft path.parent)
    failUnwritable path fault
  | .ok files =>
    Task.setFiles files
    if FileSystem.hasNul path then throw .nulByte
    match files.writeFile path (Utf8.encode (Text.ofChars (render values))) with
    | .error errno => failUnwritable path ⟨errno, path.text⟩
    | .ok files =>
      Task.setFiles files
      Task.log "preferences" .info "Preferences saved" [("path", path.text)]

end LanguageHost.Preferences
