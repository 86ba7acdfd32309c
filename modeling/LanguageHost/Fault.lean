import LanguageHost.FileSystem.Basic
import LanguageHost.Rejection

/-!
# Faults

A `Problem` is a failure that this library foresees: it has a kind, a message and structured data,
and is reported to the user as it is. The kinds form a small hierarchy, so that a caller can ask
for every problem of the configuration at once.

A `Fault` is whatever stops an operation: a problem, an error of the operating system, a text that
cannot be decoded, or a value of the wrong shape.
-/

namespace LanguageHost

/-- The kinds of problems. -/
inductive ProblemKind where
  | named
  | config
  | schemaPreference
  | lsp
  | launch
  | workspace
  deriving DecidableEq, Repr

namespace ProblemKind

/-- The next wider kind. -/
def parent? : ProblemKind → Option ProblemKind
  | named => none
  | config | lsp | workspace => some named
  | schemaPreference => some config
  | launch => some lsp

/-- A kind is the other or a narrower one. -/
def isA (k wide : ProblemKind) : Bool :=
  k = wide || k.parent? = some wide || (k.parent?.bind parent?) = some wide

/-- The name of a kind, which is also the message of a problem that comes without one. -/
def name : ProblemKind → String
  | named => "NamedError"
  | config => "ConfigError"
  | schemaPreference => "SchemaPreferenceError"
  | lsp => "LSPError"
  | launch => "LaunchError"
  | workspace => "WorkspaceError"

/-- Every kind, the widest first. -/
def all : List ProblemKind :=
  [named, config, schemaPreference, lsp, launch, workspace]

end ProblemKind

/-- The environment variable that names the script runner. -/
def nodeVariable : String := "YAMLLS_NODE"

/-- The environment variable that names the server script. -/
def entryVariable : String := "YAMLLS_SERVER_JS"

/-- A foreseen failure, by its cause. -/
inductive Problem where
  | preferencesUnreadable (path reason : String)
  | preferencesNoObject (path : String)
  | preferencesUnwritable (path reason : String)
  | schemaInvalid (key reason : String)
  | sessionNotRunning (method : String)
  | startUnanswered (server seconds : String)
  | noCommand (provider : String)
  | launchFailed (command : List String) (reason : String)
  | processNotStarted
  | nodeNoFile (path : String)
  | nodeMissing
  | entryNoFile (path : String)
  | projectExists (name : String)
  | projectUnknown (name : String)
  | listingFailed (resource path reason : String)
  /-- A problem that comes with its own data and words, which may be values of any kind. -/
  | given (kind : ProblemKind) (data words : Json)

namespace Problem

/-- The kind of a problem. -/
def kind : Problem → ProblemKind
  | preferencesUnreadable _ _ | preferencesNoObject _ | preferencesUnwritable _ _ => .config
  | schemaInvalid _ _ => .schemaPreference
  | sessionNotRunning _ | startUnanswered _ _ | noCommand _ | launchFailed _ _
  | processNotStarted => .lsp
  | nodeNoFile _ | nodeMissing | entryNoFile _ => .launch
  | projectExists _ | projectUnknown _ | listingFailed _ _ _ => .workspace
  | given kind _ _ => kind

/-- The structured data of a problem, an object unless it came with data of its own. -/
def data : Problem → Json
  | preferencesUnreadable path _ | preferencesNoObject path | preferencesUnwritable path _ =>
    Json.object [("path", path)]
  | schemaInvalid key _ => Json.object [("preference", key)]
  | sessionNotRunning method => Json.object [("method", method)]
  | startUnanswered server _ => Json.object [("server", server)]
  | noCommand provider => Json.object [("provider", provider)]
  | launchFailed command _ => Json.object [("command", Json.ofStrings command)]
  | processNotStarted | nodeMissing => Json.object []
  | nodeNoFile path => Json.object [("env", nodeVariable), ("path", path)]
  | entryNoFile path => Json.object [("path", path)]
  | projectExists name | projectUnknown name => Json.object [("project", name)]
  | listingFailed resource _ _ => Json.object [("resource", resource)]
  | given _ data _ => data

/-- The words of a problem, a string unless it came with words of its own. -/
def words : Problem → Json
  | preferencesUnreadable _ reason => "Cannot read preferences: " ++ reason
  | preferencesNoObject _ => "Preferences file must hold a JSON object"
  | preferencesUnwritable _ reason => "Cannot write preferences: " ++ reason
  | schemaInvalid _ reason => "Invalid schema preference: " ++ reason
  | sessionNotRunning _ => "Session is not running"
  | startUnanswered _ seconds => "No initialize response within " ++ seconds ++ "s"
  | noCommand _ => "No command to launch"
  | launchFailed command reason =>
    "Failed to launch " ++ command.headD "" ++ ": " ++ reason
  | processNotStarted => "Process not started"
  | nodeNoFile path => nodeVariable ++ " does not point to a file: " ++ path
  | nodeMissing => "Cannot find node on PATH; set " ++ nodeVariable
  | entryNoFile path =>
    "Cannot find yaml-language-server entry " ++ path ++ "; install it with npm or set " ++
      entryVariable
  | projectExists name => "Project " ++ name ++ " already exists"
  | projectUnknown name => "No project named " ++ name
  | listingFailed _ path reason => "Cannot list " ++ path ++ ": " ++ reason
  | given _ _ words => words

/-- The wording of a problem. -/
def message (p : Problem) : Text :=
  p.words.shown

end Problem

/-- What a value of the wrong shape was asked to be. -/
inductive Misuse where
  /-- A value of this kind holds no elements to look among. -/
  | noContainer (kind : String)
  /-- A value of this kind has no elements to go through. -/
  | noElements (kind : String)
  /-- A value of this kind has no element under a name. -/
  | noNames (kind : String)
  /-- A value of this kind has no fixed identity to be looked up by. -/
  | noIdentity (kind : String)
  /-- A value of this kind is no set of named fields. -/
  | noFields (function kind : String)
  /-- The function has no parameter of this name. -/
  | unknownField (function field : String)
  /-- A value of this kind has no members to be gone through. -/
  | noMembers (kind : String)
  /-- The function got two values for this parameter. -/
  | repeatedField (function field : String)
  /-- The function needs a parameter of this name. -/
  | absentField (function field : String)
  /-- A value of this kind has no length. -/
  | noLength (kind : String)
  /-- Values of these kinds have no order. -/
  | noOrder (sign left right : String)
  /-- Values of these kinds cannot be added. -/
  | noSum (left right : String)

/-- The wording of a misuse. -/
def Misuse.message : Misuse → String
  | noContainer kind => "argument of type '" ++ kind ++ "' is not iterable"
  | noElements kind => "'" ++ kind ++ "' object is not iterable"
  | noNames "list" => "list indices must be integers or slices, not str"
  | noNames "str" => "string indices must be integers, not 'str'"
  | noNames kind => "'" ++ kind ++ "' object is not subscriptable"
  | noIdentity kind => "unhashable type: '" ++ kind ++ "'"
  | noMembers kind => "'" ++ kind ++ "' object is not a mapping"
  | noFields function kind => function ++ " argument after ** must be a mapping, not " ++ kind
  | unknownField function field =>
    function ++ "() got an unexpected keyword argument '" ++ field ++ "'"
  | repeatedField function field =>
    function ++ "() got multiple values for argument '" ++ field ++ "'"
  | absentField function field =>
    function ++ "() missing 1 required positional argument: '" ++ field ++ "'"
  | noLength kind => "object of type '" ++ kind ++ "' has no len()"
  | noOrder sign left right =>
    "'" ++ sign ++ "' not supported between instances of '" ++ left ++ "' and '" ++ right ++ "'"
  | noSum left right =>
    "unsupported operand type(s) for +: '" ++ left ++ "' and '" ++ right ++ "'"

/-- The kinds of failed requests. -/
inductive RpcKind where
  | other
  | parse
  | invalidRequest
  | methodNotFound
  | invalidParams
  | cancelled
  | server
  deriving DecidableEq, Repr

/-- How a time is too long for the clock. -/
inductive ClockReach where
  /-- A whole number of seconds that the clock cannot count. -/
  | whole
  /-- A broken number of seconds that the clock cannot count. -/
  | broken
  /-- A time that the clock can count and a lock cannot wait for. -/
  | lock
  deriving DecidableEq, Repr

/-- The wording of a time that is too long. -/
def ClockReach.message : ClockReach → String
  | whole => "timestamp too large to convert to C _PyTime_t"
  | broken => "timestamp out of range for platform time_t"
  | lock => "timeout value is too large"

/-- Whatever stops an operation. -/
inductive Fault where
  | problem (p : Problem)
  | os (f : OsFault)
  /-- A symbolic link to a target cannot be made at a path. -/
  | linkRefused (errno : Errno) (target path : String)
  /-- The other end of a pipe is gone. -/
  | brokenPipe
  | undecodable (f : Utf8.Fault)
  | longInteger (digits : Nat)
  /-- An integer that a machine word cannot hold. -/
  | notWordSized
  /-- A time that the clock cannot reach. -/
  | beyondClock (r : ClockReach)
  /-- A date so many days away that the calendar does not have it. -/
  | beyondCalendar (days : Int)
  | tooDeep
  /-- A NUL in a text that is handed to the operating system. -/
  | nulByte
  | unknownLevel (name : String)
  /-- Nothing is kept under this key. -/
  | missingKey (key : String)
  /-- No handler for the requested method. -/
  | unknownMethod
  | indexOutOfRange
  /-- A listener or action failed with these words. -/
  | raised (message : String)
  | misuse (m : Misuse)
  /-- A value of this kind has no such member. -/
  | noMember (owner member : String)
  /-- A class has no such member. -/
  | noClassMember (owner member : String)
  /-- A variable that was never given a value. -/
  | unbound (name : String)
  /-- A value does not have the form that was expected of it. -/
  | rejected (r : Rejection)
  /-- The name of a program would lead out of the folder that it is put into. -/
  | outsideBase (app : String)
  /-- The style tags of a console message do not fit together. -/
  | markup (reason : String)
  /-- A stream was written to after it had been closed. -/
  | closedStream
  /-- A process did not end in time. -/
  | stillRunning (command seconds : Json)
  | rpc (kind : RpcKind) (message : Text)
  /-- No answer in time. -/
  | timedOut

/-- The members of an object; a value of another kind has none. -/
def Json.mapping : Json → Except Fault (List (Text × Json))
  | .obj members => .ok members
  | other => .error (.misuse (.noMembers other.kindWord))

/-- The members of a problem's data. -/
def Problem.members (p : Problem) : Except Fault (List (Text × Json)) :=
  p.data.mapping

namespace Fault

/-- The wording of a fault. -/
def message : Fault → Text
  | problem p => p.message
  | os f => f.message
  | linkRefused errno target path =>
    (OsFault.mk errno target).message ++ " -> " ++ quoted path
  | brokenPipe => "[Errno 32] Broken pipe"
  | undecodable f => f.message
  | longInteger digits =>
    "Exceeds the limit (4300 digits) for integer string conversion: value has " ++
      toString digits ++ " digits; use sys.set_int_max_str_digits() to increase the limit"
  | notWordSized => "cannot fit 'int' into an index-sized integer"
  | beyondClock reach => reach.message
  | beyondCalendar days =>
    if days.natAbs ≤ 999999999 then "date value out of range"
    else "days=" ++ toString days ++ "; must have magnitude <= 999999999"
  | tooDeep => "maximum recursion depth exceeded"
  | nulByte => "embedded null byte"
  | unknownLevel name => quoted name ++ " is not a valid LogLevel"
  | missingKey key => quoted key
  | unknownMethod => ""
  | indexOutOfRange => "list index out of range"
  | raised message => message
  | misuse m => m.message
  | noMember owner member => "'" ++ owner ++ "' object has no attribute '" ++ member ++ "'"
  | noClassMember owner member =>
    "type object '" ++ owner ++ "' has no attribute '" ++ member ++ "'"
  | unbound name =>
    "cannot access local variable '" ++ name ++ "' where it is not associated with a value"
  | rejected r => r.message
  | outsideBase app => "appname must stay inside the base directory, got " ++ quoted app
  | markup reason => reason
  | closedStream => "write to closed file"
  | stillRunning command seconds =>
    "Command '" ++ command.shown.display ++ "' timed out after " ++ seconds.shown.display ++
      " seconds"
  | rpc _ message => message
  | timedOut => ""

/-- The wording of a fault as a string. -/
def shown (f : Fault) : String :=
  f.message.display

/-- The class of an error of the operating system. -/
def osClassName : Errno → String
  | .noEntry => "FileNotFoundError"
  | .accessDenied => "PermissionError"
  | .alreadyThere => "FileExistsError"
  | .notFolder => "NotADirectoryError"
  | .isFolder => "IsADirectoryError"
  | .badFormat | .nameTooLong | .tooManyLinks => "OSError"

/-- The class of a failed request. -/
def rpcClassName : RpcKind → String
  | .other => "JsonRpcException"
  | .parse => "JsonRpcParseError"
  | .invalidRequest => "JsonRpcInvalidRequest"
  | .methodNotFound => "JsonRpcMethodNotFound"
  | .invalidParams => "JsonRpcInvalidParams"
  | .cancelled => "JsonRpcRequestCancelled"
  | .server => "JsonRpcServerError"

/-- The class of a fault, which is what a server is told about a request that failed. -/
def className : Fault → String
  | problem p => p.kind.name
  | os f => osClassName f.errno
  | linkRefused errno _ _ => osClassName errno
  | brokenPipe => "BrokenPipeError"
  | undecodable _ => "UnicodeDecodeError"
  | longInteger _ | nulByte | unknownLevel _ | outsideBase _ | closedStream => "ValueError"
  | notWordSized | beyondClock _ | beyondCalendar _ => "OverflowError"
  | tooDeep => "RecursionError"
  | missingKey _ | unknownMethod => "KeyError"
  | indexOutOfRange => "IndexError"
  | raised _ => "RuntimeError"
  | misuse _ => "TypeError"
  | noMember _ _ | noClassMember _ _ => "AttributeError"
  | unbound _ => "UnboundLocalError"
  | rejected _ => "ValidationError"
  | markup _ => "MarkupError"
  | stillRunning _ _ => "TimeoutExpired"
  | rpc kind _ => rpcClassName kind
  | timedOut => "TimeoutError"

/-- A fault of these classes is told by its class alone. -/
def isWordless : Fault → Bool
  | tooDeep | misuse _ | noMember _ _ | noClassMember _ _ | unbound _ => true
  | _ => false

/-- The fault is a foreseen failure. -/
def isProblem : Fault → Bool
  | problem _ => true
  | _ => false

end Fault

end LanguageHost
