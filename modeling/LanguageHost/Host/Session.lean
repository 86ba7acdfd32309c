import LanguageHost.Host.Wire

/-!
# Sessions

Starting a session launches its server and asks it to start; the session is registered once the
server has answered. When the answer is missing or wrong the session is taken down again. Stopping
takes the session from the registered ones first, then asks the server to shut down, and releases
the process in any case.

The server may send messages all the while. `Line` says over which wire a session writes while it
is started or stopped, and what goes on at each moment at which its reader may take something in.
Over `Line.direct` whatever comes back is taken in while it is written, and nothing in between.
-/

namespace LanguageHost.Session

variable {γ : Type}

/-- The moments at which a session that is started or stopped leaves time for its reader. -/
inductive Moment where
  /-- The endpoint is open and nothing was asked yet. -/
  | connected
  /-- A request was sent and its answer is waited for. -/
  | asked
  /-- The first request is answered and the session not yet registered for it. -/
  | answered
  /-- The session was taken from the registered ones and its endpoint is still open. -/
  | leaving
  /-- The server was told to go and the endpoint is still open. -/
  | dismissed
  /-- The endpoint is gone and the process not yet released. -/
  | closed
  deriving DecidableEq, Repr

/-- How a session reaches its server while it is started or stopped, and what goes on meanwhile. -/
structure Line (γ : Type) where
  wire : Wire γ
  meanwhile : Moment → Act γ Unit

/-- The line over which everything that comes back is taken in at once. -/
def Line.direct : Line γ :=
  ⟨Wire.opened, fun _ => pure ()⟩

/-- What a session says about itself in its first request. -/
def startParams (rootUri : Option String) : Json :=
  Json.object
    [("processId", .ofString Message.processMark), ("rootUri", Json.ofString? rootUri),
      ("capabilities", Json.object
        [("workspace", Json.object
          [("workspaceFolders", .bool true),
            ("didChangeConfiguration", Json.object [("dynamicRegistration", .bool true)])]),
          ("textDocument", Json.object
            [("publishDiagnostics", Json.object [("relatedInformation", .bool true)])])]),
      ("workspaceFolders", .null)]

/-- The time a server is given to answer the first request, in seconds. -/
def startTimeout : Json := .float (Binary64.ofDecimal false 300 (-1))

/-- Sends a request; the result is its id. -/
def request (wire : Wire γ) (n : Nat) (method : String) (params : Json) : Act γ String := do
  let s := (← get).session n
  match s.endpoint with
  | none => throw (.noMember "NoneType" "request")
  | some endpoint =>
    let id := toString (s.asked + 1)
    Act.modifySession n fun s =>
      { s with
        asked := s.asked + 1
        endpoint := some { endpoint with pending := endpoint.pending ++ [id] } }
    wire n (Message.request id method params)
    return id

/-- The answer to a request, if it has come. -/
def answer? (n : Nat) (id : String) : Act γ (Option Json) := do
  match ((← get).session n).endpoint with
  | none => return none
  | some endpoint =>
    match findMember? id endpoint.answers with
    | none => return none
    | some (.ok result) => return some result
    | some (.error fault) => throw fault

/-- The capabilities in the answer to the first request. -/
def capabilitiesOf (result : Json) : Except Fault Json :=
  if result.isEmpty then .ok (Json.object [])
  else
    match result with
    | .obj members => .ok ((findMember? (Text.ofString "capabilities") members).getD
        (Json.object []))
    | other => .error (.noMember other.kindWord "get")

/-- Asks the server to start, and keeps its capabilities. -/
def greet (line : Line γ) (n : Nat) (timeout : Json) : Act γ Unit := do
  let h ← get
  let s := h.session n
  let id ← request line.wire n "initialize" (startParams (s.rootUri h.platform.cwd))
  line.meanwhile .asked
  match ← answer? n id with
  | none =>
    if let some fault := Waiting.fault? timeout then throw fault
    throw (.problem (.startUnanswered (h.definitionId s) timeout.shown.display))
  | some result =>
    let capabilities ← Act.ofExcept (capabilitiesOf result)
    Act.modifySession n fun s => { s with capabilities }

/-- Opens a new endpoint. -/
def connect (n : Nat) : Act γ Unit :=
  Act.modifySession n fun s => { s with endpoint := some ⟨[], []⟩ }

/-- Closes the input of the session's child. It fails when bytes were left unsent. -/
def closeInput (n : Nat) : Act γ Unit := do
  if let some child := ((← get).session n).provider.child? then
    let (fault, child) := child.closeInput
    Act.modifySession n fun s => { s with provider := s.provider.setChild child }
    if let some fault := fault then throw fault

/-- Closes the stream that the session writes to, if it holds one. -/
def releaseWriter (n : Nat) : Act γ Unit := do
  if ((← get).session n).held.writer then
    closeInput n
    Act.modifySession n fun s => { s with held := { s.held with writer := false } }

/-- Releases the endpoint and the writer, stops the process, and releases thread and reader. What
fails on the way keeps what comes behind it from being released. -/
def release (line : Line γ) (n : Nat) : Act γ Unit := do
  Act.modifySession n fun s => { s with endpoint := none }
  line.meanwhile .closed
  releaseWriter n
  let s := (← get).session n
  let provider ← Act.onPlatform (s.provider.stop Connection.grace)
  Act.modifySession n fun s =>
    { s with
      provider
      reader := { s.reader with reading := false }
      held := { s.held with reader := false, thread := false } }

/-- Launches the server of a session, and opens an endpoint to it. -/
def launch (n : Nat) : Act γ Unit := do
  let s := (← get).session n
  let provider ← Act.onPlatform s.provider.start
  Act.modifySession n fun s => { s with provider, reader := ⟨none, true⟩, held := .all }
  connect n

/-- Takes a session down whose server gave no proper answer. -/
def abandon (line : Line γ) (n : Nat) (fault : Fault) : Act γ Unit := do
  modify (Host.unregister n)
  line.meanwhile .leaving
  release line n
  throw fault

/-- Starts a session. -/
def start (line : Line γ) (n : Nat) (timeout : Json) : Act γ Unit := do
  launch n
  line.meanwhile .connected
  tryCatch (greet line n timeout) (abandon line n)
  line.meanwhile .answered
  modify (Host.register n)
  let h ← get
  Wire.logFor n .info "Language server started"
    [("root", Json.ofString? ((h.session n).rootUri h.platform.cwd))]

/-- Asks the server to shut down, and tells it to exit once it has agreed. -/
def dismiss (line : Line γ) (n : Nat) : Act γ Unit := do
  let id ← request line.wire n "shutdown" .null
  line.meanwhile .asked
  match ← answer? n id with
  | none => throw .timedOut
  | some _ => line.wire n Notice.exiting.message

/-- Dismisses the server if an endpoint is open; what goes wrong is noted. -/
def farewell (line : Line γ) (n : Nat) : Act γ Unit := do
  if ((← get).session n).endpoint.isSome then
    Act.guarded (dismiss line n) fun fault =>
      Wire.logFor n .warn "Shutdown request failed" [("error", .str fault.message)]

/-- Takes a session down that talks to a server. -/
def close (line : Line γ) (n : Nat) : Act γ Unit := do
  modify (Host.unregister n)
  line.meanwhile .leaving
  farewell line n
  line.meanwhile .dismissed
  release line n
  Wire.logFor n .info "Language server session closed" []

/-- Stops a session. -/
def stop (line : Line γ) (n : Nat) : Act γ Unit := do
  match ((← get).session n).peer with
  | .standIn _ fault =>
    modify (Host.noteSent n .stopped)
    if let some words := fault then throw (.raised words)
    modify (Host.unregister n)
  | _ => close line n

/-- Stops sessions one after another. -/
def stopEach : List Nat → Act γ Unit
  | [] => pure ()
  | n :: rest => do
    stop .direct n
    stopEach rest

/-- Stops every registered session. -/
def shutdownAll : Act γ Unit := do
  stopEach (← get).active
  modify fun h => { h with active := [] }

end LanguageHost.Session
