import LanguageHost.Host.State
import LanguageHost.Server.Failure
import LanguageHost.Server.Method

/-!
# The wire between a session and its server

Every message of a server goes three ways: an answer to the first request makes the session say
that it has started and registers it, the provider's hook is called, and the endpoint takes the
message for what it is: a notification, a response or a request.

What a session sends may bring further messages at once, and these are taken in while the sending
goes on. The functions here therefore get the wire to send over as an argument; `Wire.opened` is
the wire that takes in what comes back.
-/

namespace LanguageHost

/-- Sends a message for the session with a number. -/
abbrev Wire (γ : Type) := Nat → Json → Act γ Unit

namespace Session

/-- The service that a session logs under. -/
def service {γ : Type} (s : Session) (h : Host γ) : String :=
  "lsp.session." ++ h.definitionId s

/-- The address of a session's root. -/
def rootUri (cwd : Path) (s : Session) : Option String :=
  match s.root with
  | some root => if root.isEmpty then none else some ((Path.ofString root).absolute cwd).uri
  | none => none

end Session

namespace Wire

variable {γ : Type}

/-- Writes a log line of a session. -/
def logFor (n : Nat) (level : Level) (message : Text) (extra : Tags) : Act γ Unit := do
  let h ← get
  Act.log ((h.session n).service h) level message extra

/-- Tells a session's server something; a stand-in keeps it. -/
def notify (wire : Wire γ) (n : Nat) (notice : Notice) : Act γ Unit := do
  let s := (← get).session n
  match s.peer with
  | .standIn failing _ =>
    if failing.contains notice.word then throw (.raised "broken pipe")
    modify (Host.noteSent n (.notice notice))
  | _ =>
    match s.endpoint with
    | none => throw (.problem (.sessionNotRunning notice.method))
    | some _ => wire n notice.message

/-- The settings of a store; a problem of its schema preference is noted. -/
def buildSettings (store : Nat) : Act γ Json := do
  let h ← get
  let (settings, platform) := Settings.buildNoted (h.store store) h.platform
  set { h with platform }
  return settings

/-- Sends a server the settings of a store; what goes wrong is noted. -/
def sendSettings (wire : Wire γ) (store n : Nat) : Act γ Unit :=
  Act.guarded
    (do notify wire n (.configuration (← buildSettings store)))
    (fun fault => Act.log "yaml.server" .error "Failed to send initial configuration"
      [("error", .str fault.message)])

/-- The addresses of the folders of a workspace. -/
def findFolders (workspace : Nat) : Act γ (List String) := do
  Act.onPlatform (Folders.initial ((← get).workspace workspace))

/-- Sends a server the folders of a workspace; what goes wrong is noted. -/
def sendFolders (wire : Wire γ) (workspace n : Nat) : Act γ Unit :=
  Act.guarded
    (do notify wire n (.folders (Folders.changeParams (← findFolders workspace) [])))
    (fun fault => Act.log "yaml.server" .error "Failed to send initial workspace folders"
      [("error", .str fault.message)])

/-- Seeds a server that has just answered the first request: its settings, then its folders. If
the one cannot be sent, the other still is. -/
def seed (wire : Wire γ) (store workspace n : Nat) (message : Json) : Act γ Unit := do
  if ← Act.ofExcept (Message.isStartResult message) then
    sendSettings wire store n
    sendFolders wire workspace n

/-- Calls the hook of a session's provider with a message. -/
def callHook (wire : Wire γ) (n : Nat) (message : Json) : Act γ Unit := do
  let h ← get
  let s := h.session n
  set { h with hooked := h.hooked ++ [s.rootUri h.platform.cwd] }
  match s.hook with
  | .none => pure ()
  | .fail words => throw (.raised words)
  | .seed store workspace => seed wire store workspace n message

/-! ## What a server may call -/

/-- The named parameters of a call. -/
def parameters (params : Json) : Except Fault (List (Text × Json)) :=
  if params.isEmpty then .ok []
  else
    match params with
    | .obj members =>
      if (findMember? (Text.ofString "self") members).isSome then
        .error (.misuse (.repeatedField "handler" "self"))
      else .ok members
    | other => .error (.misuse (.noFields "handler" other.kindWord))

/-- The level of a message type: 1 to 3 are errors, warnings and information, all else details. -/
def levelOf (type : Json) : Except Fault Level :=
  if !type.isKey then .error (.misuse (.noIdentity type.kindWord))
  else if type.isInt 1 then .ok .error
  else if type.isInt 2 then .ok .warn
  else if type.isInt 3 then .ok .info
  else .ok .debug

/-- The number of things in a value. -/
def lengthOf : Json → Except Fault Nat
  | .str t => .ok t.length
  | .arr xs => .ok xs.length
  | .obj ms => .ok ms.length
  | other => .error (.misuse (.noLength other.kindWord))

/-- The things in a value, one after another. -/
def elementsOf : Json → Except Fault (List Json)
  | .str t => .ok (t.map fun c => .str [c])
  | .arr xs => .ok xs
  | .obj ms => .ok (ms.map fun m => .str m.1)
  | other => .error (.misuse (.noElements other.kindWord))

/-- Puts diagnostics under a document. -/
def putDiagnostics (uri diagnostics : Json) : List (Json × Json) → List (Json × Json)
  | [] => [(uri, diagnostics)]
  | d :: rest =>
    if d.1.sameKey uri then (d.1, diagnostics) :: rest
    else d :: putDiagnostics uri diagnostics rest

/-- Writes a server's message to the journal. -/
def logMessage (n : Nat) (type message : Json) : Act γ Unit := do
  let level ← Act.ofExcept (levelOf type)
  logFor n level message.shown [("source", "server")]

/-- Notes that a server registered capabilities. -/
def noteCapabilities (n : Nat) : List Json → Act γ Unit
  | [] => pure ()
  | registration :: rest => do
    let method ← Act.ofExcept (registration.lookUp "method")
    logFor n .debug "Capability registered" [("method", method)]
    noteCapabilities n rest

/-- Does what a server calls for. -/
def handle (n : Nat) (handler : Method.Handler) (params : Json) : Act γ Unit := do
  let named ← Act.ofExcept (parameters params)
  let get (name : String) (absent : Json) : Json :=
    (findMember? (Text.ofString name) named).getD absent
  match handler with
  | .logMessage => logMessage n (get "type" (.int 4)) (get "message" (.str []))
  | .showMessage => logMessage n (get "type" (.int 3)) (get "message" (.str []))
  | .publishDiagnostics =>
    let uri := get "uri" (.str [])
    let given := get "diagnostics" .null
    let diagnostics := if given.isEmpty then .arr [] else given
    if !uri.isKey then throw (.misuse (.noIdentity uri.kindWord))
    Act.modifySession n fun s =>
      { s with diagnostics := putDiagnostics uri diagnostics s.diagnostics }
    let count ← Act.ofExcept (lengthOf diagnostics)
    logFor n .debug "Received diagnostics" [("uri", uri), ("count", .int count)]
  | .registerCapability =>
    let given := get "registrations" .null
    let registrations ← Act.ofExcept (if given.isEmpty then .ok [] else elementsOf given)
    noteCapabilities n registrations

/-- The handler of a method; none for an unknown one. -/
def handlerOf (method : Json) : Except Fault (Option Method.Handler) :=
  match method with
  | .str name => .ok (Method.handler? name)
  | other => .error (.noMember other.kindWord "replace")

/-- Calls a handler by the name of its method. -/
def call (n : Nat) (method params : Json) : Act γ Unit := do
  match ← Act.ofExcept (handlerOf method) with
  | some handler => handle n handler params
  | none => throw .unknownMethod

/-! ## The endpoint -/

/-- Takes a notification. Unknown methods and failures of handlers are passed over. -/
def takeNotification (n : Nat) (method params : Json) : Act γ Unit := do
  if method.text? = some (Text.ofString "$/cancelRequest") then
    let _ ← Act.ofExcept (params.require "id")
  else
    match ← Act.ofExcept (handlerOf method) with
    | none => pure ()
    | some handler => Act.guarded (handle n handler params) fun _ => pure ()

/-- The request of an endpoint that an id is the id of. An id is looked for only if there is
something to look among. -/
def answered (endpoint : Endpoint) (id : Json) : Except Fault (Option String) :=
  if endpoint.pending.isEmpty then .ok none
  else if !id.isKey then .error (.misuse (.noIdentity id.kindWord))
  else .ok (endpoint.pending.find? fun name => id.text? = some (Text.ofString name))

/-- Takes a response: the request it answers gets its result or fails. -/
def takeResponse (n : Nat) (id result error : Json) : Act γ Unit := do
  if let some endpoint := ((← get).session n).endpoint then
    if let some name ← Act.ofExcept (answered endpoint id) then
      let settle (answer : List (String × Except Fault Json)) : Act γ Unit :=
        Act.modifySession n fun s =>
          { s with
            endpoint := some
              { endpoint with
                pending := endpoint.pending.erase name
                answers := endpoint.answers ++ answer } }
      settle []
      match error with
      | .null => settle [(name, .ok result)]
      | error => settle [(name, .error (← Act.ofExcept (Failure.ofError error)))]

/-- Takes a request, and answers it. -/
def takeRequest (wire : Wire γ) (n : Nat) (id method params : Json) : Act γ Unit := do
  let outcome ← tryCatch
    (do
      match ← Act.ofExcept (handlerOf method) with
      | none => return some ((-32601 : Int), ("Method Not Found: " : Text) ++ method.shown)
      | some handler =>
        handle n handler params
        return none)
    (fun fault => return some ((-32602 : Int), (fault.className : Text)))
  match outcome with
  | none => wire n (Message.response id .null)
  | some (code, text) => wire n (Message.errorResponse id code text)

/-- Takes a message for what it is; one without the version is passed over. -/
def take (wire : Wire γ) (n : Nat) (message : Json) : Act γ Unit := do
  if !(← Act.ofExcept (message.holds "jsonrpc")) then return
  let version ← Act.ofExcept (message.require "jsonrpc")
  if version.text? ≠ some (Text.ofString Message.version) then return
  let params := (message.member? "params").getD .null
  match message.member? "id", message.member? "method" with
  | none, _ => takeNotification n (← Act.ofExcept (message.require "method")) params
  | some id, none =>
    takeResponse n id ((message.member? "result").getD .null)
      ((message.member? "error").getD .null)
  | some id, some method => takeRequest wire n id method params

/-- Tells the server that the session has started and registers it, if the message answers the
first request. -/
def welcome (wire : Wire γ) (n : Nat) (message : Json) : Act γ Unit := do
  if ((← get).session n).endpoint.isSome then
    if ← Act.ofExcept (Message.isStartResult message) then
      wire n Notice.started.message
      modify (Host.register n)

/-- Hands a message to the provider's hook and then to the endpoint. -/
def attend (wire : Wire γ) (n : Nat) (message : Json) : Act γ Unit := do
  Act.guarded (callHook wire n message) fun fault =>
    logFor n .error "Message hook failed" [("error", .str fault.message)]
  if ((← get).session n).endpoint.isSome then take wire n message

/-- Takes in a message of a session's server. -/
def consume (wire : Wire γ) (n : Nat) (message : Json) : Act γ Unit := do
  welcome wire n message
  attend wire n message

/-! ## Reading from a child -/

/-- Hands a message to the child of a session. It makes no difference here whether the child is
there to take it. -/
def writeToChild (n : Nat) (message : Json) : Act γ Unit := do
  modify (Host.noteSent n (.message message))
  let h ← get
  if let some child := (h.session n).provider.child? then
    let (_, child) := child.offer (Framing.frame message)
    set { h with received := h.received ++ child.received }
    Act.modifySession n fun s =>
      { s with provider := s.provider.setChild { child with received := [] } }

/-- What the reader takes from the output of a child. -/
inductive Taken where
  | body (bytes : List UInt8)
  /-- The body read last is delivered once more, if there was one. -/
  | again
  /-- The reading comes to its end. -/
  | broken
  | nothing

/-- Takes the next frame from the output of a session's child. -/
def takeFrame (n : Nat) : Act γ Taken := do
  let s := (← get).session n
  match s.provider.child? with
  | none => return .nothing
  | some child =>
    match Framing.next (.pipe child.code.isSome) child.output with
    | .wait | .done => return .nothing
    | .body bytes rest =>
      Act.modifySession n fun s =>
        { s with
          provider := s.provider.setChild { child with output := rest }
          reader := { s.reader with last := some bytes } }
      return .body bytes
    | .badLength rest =>
      Act.modifySession n fun s =>
        { s with provider := s.provider.setChild { child with output := rest } }
      return .again
    | .tooLong => return .broken

/-- Takes in the message of a body, if it holds one. -/
def consumeBody (wire : Wire γ) (n : Nat) (bytes : List UInt8) : Act γ Unit := do
  match Framing.parse? bytes with
  | none => pure ()
  | some message => consume wire n message

/-- Ends the reading from a session's child for good. -/
def endReading (n : Nat) : Act γ Unit :=
  Act.modifySession n fun s => { s with reader := { s.reader with reading := false } }

/-- Takes in the message of a body. A fault ends the reading. -/
def readBody (n : Nat) (bytes : List UInt8) : Act γ Unit :=
  Act.guarded (consumeBody writeToChild n bytes) fun _ => endReading n

/-- Reads from a session's child as long as there is something to read. -/
def drain (n : Nat) : Nat → Act γ Unit
  | 0 => pure ()
  | fuel + 1 => do
    if ((← get).session n).reader.reading then
      match ← takeFrame n with
      | .nothing => pure ()
      | .broken => endReading n
      | .body bytes =>
        readBody n bytes
        drain n fuel
      | .again =>
        match ((← get).session n).reader.last with
        | some bytes =>
          readBody n bytes
          drain n fuel
        | none => endReading n

/-- The most frames that are read in a row. -/
def maxFrames : Nat := 10000

/-! ## The open wire -/

/-- Takes in messages one after another. -/
def consumeAll (wire : Wire γ) (n : Nat) : List Json → Act γ Unit
  | [] => pure ()
  | message :: rest => do
    consume wire n message
    consumeAll wire n rest

/-- A message as a scripted peer takes it. In the first request of a session, which has to come with
parameters, a mark stands for the number of the process that the session runs in. -/
def asScripted (message : Json) : Except Fault Json :=
  if (message.member? "method").bind Json.text? ≠ some "initialize" then .ok message
  else
    match message, message.member? "params" with
    | .obj members, some (.obj params) =>
      let marked := putMember (Text.ofString "processId") (.ofString Message.processMark) params
      .ok (.obj (putMember (Text.ofString "params") (.obj marked) members))
    | _, some other => .error (.misuse (.noNames other.kindWord))
    | _, none => .error (.missingKey "params")

/-- What a scripted peer sends back about a message. -/
def repliesTo (conversation : List (Text × List Json)) (message : Json) : List Json :=
  match message.member? "method" with
  | some (.str method) =>
    let id := (message.member? "id").getD .null
    ((findMember? method conversation).getD []).map (Reaction.fillId id)
  | _ => []

/-- Sends a message and takes in what comes back; replies to replies are followed so deep. -/
def openWithin : Nat → Wire γ
  | 0 => fun _ _ => throw .tooDeep
  | depth + 1 => fun n message => do
    match ((← get).session n).peer with
    | .standIn _ _ => modify (Host.noteSent n (.message message))
    | .script conversation =>
      let message ← Act.ofExcept (asScripted message)
      modify (Host.noteSent n (.message message))
      consumeAll (openWithin depth) n (repliesTo conversation message)
    | .child =>
      writeToChild n message
      drain n maxFrames

/-- How deep replies to replies are followed. -/
def maxDepth : Nat := 100

/-- The wire that takes in what comes back. -/
def opened : Wire γ :=
  openWithin maxDepth

/-- Takes in frames that are given as bytes, up to their end. The second argument is the body that
was read last. -/
def consumeFrames (n : Nat) : Nat → Option (List UInt8) → List UInt8 → Act γ Unit
  | 0, _, _ => pure ()
  | fuel + 1, last, bytes => do
    match Framing.next .hand bytes with
    | .wait | .done => pure ()
    | .body body rest =>
      consumeBody opened n body
      consumeFrames n fuel (some body) rest
    | .tooLong => throw .notWordSized
    | .badLength rest =>
      match last with
      | none => throw (.unbound "request_str")
      | some body =>
        consumeBody opened n body
        consumeFrames n fuel last rest

end Wire

end LanguageHost
