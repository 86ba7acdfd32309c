import LanguageHost.Fault

/-!
# Messages

Messages are JSON objects with a version. A request has a method and an id, a notification a method
only, a response an id only. A server may send values of any other shape too, so every look into
a message says what goes wrong when the value cannot be looked into in this way.
-/

namespace LanguageHost

namespace Json

/-- A key of an object, an element of an array or a part of a string is asked for. -/
def holds (name : String) : Json → Except Fault Bool
  | .obj ms => .ok (findMember? (Text.ofString name) ms).isSome
  | .arr xs => .ok (xs.any fun x => x.text? = some (Text.ofString name))
  | .str t => .ok (Text.hasPart (Text.ofString name) t)
  | other => .error (.misuse (.noContainer other.kindWord))

/-- The value under a name that has to be there. -/
def require (name : String) : Json → Except Fault Json
  | .obj ms =>
    match findMember? (Text.ofString name) ms with
    | some x => .ok x
    | none => .error (.missingKey name)
  | other => .error (.misuse (.noNames other.kindWord))

/-- The value under a name, null if it is not there. -/
def lookUp (name : String) : Json → Except Fault Json
  | .obj ms => .ok ((findMember? (Text.ofString name) ms).getD .null)
  | other => .error (.noMember other.kindWord "get")

end Json

namespace Message

/-- The version that every message names. -/
def version : String := "2.0"

/-- The mark that stands for the number of the process that a session runs in. -/
def processMark : String := "$PID"

/-- A notification. -/
def notification (method : String) (params : Json) : Json :=
  Json.object [("jsonrpc", version), ("method", method), ("params", params)]

/-- A request; without parameters if they are null. -/
def request (id method : String) (params : Json) : Json :=
  match params with
  | .null => Json.object [("jsonrpc", version), ("id", id), ("method", method)]
  | params => Json.object [("jsonrpc", version), ("id", id), ("method", method), ("params", params)]

/-- A response with a result. -/
def response (id result : Json) : Json :=
  Json.object [("jsonrpc", version), ("id", id), ("result", result)]

/-- A response with an error. -/
def errorResponse (id : Json) (code : Int) (text : Text) : Json :=
  Json.object [("jsonrpc", version), ("id", id),
    ("error", Json.object [("code", .int code), ("message", .str text)])]

/-- The object holds an object of capabilities. -/
def hasCapabilities (result : Json) : Bool :=
  match result.member? "capabilities" with
  | some (.obj _) => true
  | _ => false

/-- The message answers the first request of a session with the server's capabilities. -/
def isStartResult (message : Json) : Except Fault Bool := do
  if !(← message.holds "id") then return false
  if ← message.holds "method" then return false
  return hasCapabilities (← message.lookUp "result")

end Message

/-- What a session tells its server unasked. -/
inductive Notice where
  | started
  | configuration (settings : Json)
  | folders (params : Json)
  | exiting

namespace Notice

/-- The message of a notice. -/
def message : Notice → Json
  | started => Message.notification "initialized" (Json.object [])
  | configuration settings =>
    Message.notification "workspace/didChangeConfiguration"
      (Json.object [("settings", settings)])
  | folders params => Message.notification "workspace/didChangeWorkspaceFolders" params
  | exiting =>
    Json.object [("jsonrpc", Message.version), ("method", "exit")]

/-- The word for a notice where only its kind matters. -/
def word : Notice → String
  | started => "started"
  | configuration _ => "config"
  | folders _ => "folders"
  | exiting => "exit"

/-- The method of a notice. -/
def method : Notice → String
  | started => "initialized"
  | configuration _ => "workspace/didChangeConfiguration"
  | folders _ => "workspace/didChangeWorkspaceFolders"
  | exiting => "exit"

end Notice

end LanguageHost
