import LanguageHost.Proofs.Taking
import LanguageHost.Proofs.Turn

/-!
# Answering a server

A server may ask for anything, by methods that no handler exists for and with parameters that a
handler cannot be called with. What a handler makes of its parameters does not depend on the state
of the host (`Wire.fixed_handle`), so what a message is answered with can be said from the message
alone (`Wire.Replies`): a request gets one reply, and nothing else gets any.

`Host.Answers` follows a session from host to host along the replies that it sends. What else it
says, to start its server or to seed it, is no reply.
-/

namespace LanguageHost

open Act Host Message

variable {γ : Type}

/-! ## Requests and replies -/

namespace Message

/-- The message asks for something. -/
def isRequest (message : Json) : Bool :=
  (message.member? "id").isSome && (message.member? "method").isSome

/-- The message is what a request is answered with. -/
def isReply (message : Json) : Bool :=
  (message.member? "id").isSome && (message.member? "method").isNone

/-- A request can be taken in at any time. -/
lemma digestible_request {message : Json} (hasks : isRequest message = true)
    (pending : List String) : Digestible pending message := by
  obtain ⟨hid, hmethod⟩ := Bool.and_eq_true_iff.1 hasks
  cases message with
  | obj members =>
    refine fun _ => ⟨fun hnone => ?_, fun _ _ hnone => ?_⟩
    · rw [hnone] at hid
      cases hid
    · rw [hnone] at hmethod
      cases hmethod
  | _ => cases hid

lemma isReply_notice (notice : Notice) : isReply notice.message = false := by
  cases notice <;>
    simp [isReply, Notice.message, notification, Json.member?, Json.object, findMember?]

lemma isReply_response (id result : Json) : isReply (response id result) = true := by
  simp [isReply, response, Json.member?, Json.object, findMember?]

lemma isReply_errorResponse (id : Json) (code : Int) (text : Text) :
    isReply (errorResponse id code text) = true := by
  simp [isReply, errorResponse, Json.member?, Json.object, findMember?]

end Message

/-- The reply in something that was sent. -/
def Sent.reply? : Sent → Option Json
  | notice _ => none
  | message m => if isReply m then some m else none
  | stopped => none

/-! ## What becomes of a call -/

namespace Act

variable {α β : Type}

/-- The result of the action does not depend on the host. -/
def Fixed (a : Act γ α) : Prop :=
  ∃ result, ∀ h, (a h).1 = result

namespace Fixed

lemma pure (x : α) : Fixed (Pure.pure x : Act γ α) :=
  ⟨.ok x, fun _ => rfl⟩

lemma throw (fault : Fault) : Fixed (MonadExcept.throw fault : Act γ α) :=
  ⟨.error fault, fun _ => rfl⟩

lemma ofExcept (result : Except Fault α) : Fixed (Act.ofExcept result : Act γ α) := by
  cases result with
  | error fault => exact throw fault
  | ok x => exact pure x

lemma bind {a : Act γ α} {f : α → Act γ β} (ha : Fixed a) (hf : ∀ x, Fixed (f x)) :
    Fixed (a >>= f) := by
  obtain ⟨result, hresult⟩ := ha
  cases result with
  | error fault =>
    exact ⟨.error fault, fun h => congrArg Prod.fst (bind_error (Prod.ext (hresult h) rfl))⟩
  | ok x =>
    obtain ⟨next, hnext⟩ := hf x
    exact ⟨next, fun h => (congrArg Prod.fst (bind_of_fst (hresult h))).trans (hnext _)⟩

end Fixed

end Act

namespace Wire

variable {n : Nat}

lemma fixed_logFor (level : Level) (message : Text) (extra : Tags) :
    Fixed (logFor n level message extra : Act γ Unit) :=
  ⟨.ok (), fun _ => rfl⟩

lemma fixed_logMessage (type message : Json) : Fixed (logMessage n type message : Act γ Unit) :=
  .bind (.ofExcept _) fun _ => fixed_logFor _ _ _

lemma fixed_noteCapabilities (registrations : List Json) :
    Fixed (noteCapabilities n registrations : Act γ Unit) := by
  induction registrations with
  | nil => exact .pure ()
  | cons registration rest ih =>
    exact .bind (.ofExcept _) fun _ => .bind (fixed_logFor _ _ _) fun _ => ih

/-- Whether a handler fails, and with which fault, is up to its parameters. -/
theorem fixed_handle (handler : Method.Handler) (params : Json) :
    Fixed (handle n handler params : Act γ Unit) := by
  refine .bind (.ofExcept _) fun named => ?_
  cases handler with
  | logMessage => exact fixed_logMessage _ _
  | showMessage => exact fixed_logMessage _ _
  | publishDiagnostics =>
    have htail : ∀ uri diagnostics : Json, Fixed (do
        Act.modifySession n fun s =>
          { s with diagnostics := putDiagnostics uri diagnostics s.diagnostics }
        let count ← Act.ofExcept (lengthOf diagnostics)
        logFor n .debug "Received diagnostics" [("uri", uri), ("count", .int count)]
          : Act γ Unit) := by
      intro uri diagnostics
      exact .bind ⟨.ok (), fun _ => rfl⟩ fun _ => .bind (.ofExcept _) fun _ => fixed_logFor _ _ _
    dsimp only
    split
    · exact .bind (.throw _) fun _ => htail _ _
    · exact htail _ _
  | registerCapability => exact .bind (.ofExcept _) fun _ => fixed_noteCapabilities _

/-! ## What a message is answered with -/

/-- What a message of a session's server is answered with. The handler of a request is called with
its parameters, on whatever host. -/
inductive Replies (γ : Type) (n : Nat) (message : Json) : List Json → Prop
  | unasked (hasked : isRequest message = false) : Replies γ n message []
  | served {id method : Json} {handler : Method.Handler}
      (hid : message.member? "id" = some id) (hmethod : message.member? "method" = some method)
      (hhandler : handlerOf method = .ok (some handler))
      (hdone : ∀ h : Host γ, (handle n handler (part message "params") h).1 = .ok ()) :
      Replies γ n message [response id .null]
  | unknown {id method : Json}
      (hid : message.member? "id" = some id) (hmethod : message.member? "method" = some method)
      (hhandler : handlerOf method = .ok none) :
      Replies γ n message
        [errorResponse id (-32601) (("Method Not Found: " : Text) ++ method.shown)]
  | unnamed {id method : Json} {fault : Fault}
      (hid : message.member? "id" = some id) (hmethod : message.member? "method" = some method)
      (hhandler : handlerOf method = .error fault) :
      Replies γ n message [errorResponse id (-32602) (fault.className : Text)]
  | failed {id method : Json} {handler : Method.Handler} {fault : Fault}
      (hid : message.member? "id" = some id) (hmethod : message.member? "method" = some method)
      (hhandler : handlerOf method = .ok (some handler))
      (hfails : ∀ h : Host γ, (handle n handler (part message "params") h).1 = .error fault) :
      Replies γ n message [errorResponse id (-32602) (fault.className : Text)]

/-- A handler exists for the method of a request, and does not fail on the parameters. -/
def Served (γ : Type) (n : Nat) (request : Json) : Prop :=
  ∃ method handler, request.member? "method" = some method ∧
    handlerOf method = .ok (some handler) ∧
    ∀ h : Host γ, (handle n handler (part request "params") h).1 = .ok ()

/-- A reply to a request: with its id, and either a null result or an error, the latter exactly if
the request is not served. -/
structure Answer (γ : Type) (n : Nat) (request reply : Json) : Prop where
  id : reply.member? "id" = request.member? "id"
  result : reply.member? "result" = if (reply.member? "error").isSome then none else some .null
  error : (reply.member? "error").isSome = true ↔ ¬ Served γ n request

lemma answer_response {request id : Json} (hid : request.member? "id" = some id)
    (hserved : Served γ n request) : Answer γ n request (response id .null) := by
  refine ⟨hid ▸ ?_, ?_, ?_⟩ <;>
    simp [hserved, response, Json.member?, Json.object, findMember?]

lemma answer_errorResponse {request id : Json} {code : Int} {text : Text}
    (hid : request.member? "id" = some id) (hunserved : ¬ Served γ n request) :
    Answer γ n request (errorResponse id code text) := by
  refine ⟨hid ▸ ?_, ?_, ?_⟩ <;>
    simp [hunserved, errorResponse, Json.member?, Json.object, findMember?]

/-- A request is not served if no handler exists for it or the handler fails. -/
lemma not_served {request method : Json} (hmethod : request.member? "method" = some method)
    (hnone : ∀ handler, handlerOf method = .ok (some handler) → ∃ h : Host γ,
      (handle n handler (part request "params") h).1 ≠ .ok ()) : ¬ Served γ n request := by
  rintro ⟨method', handler, hmethod', hhandler, hdone⟩
  cases Option.some.inj (hmethod.symm.trans hmethod')
  obtain ⟨h, hfails⟩ := hnone handler hhandler
  exact hfails (hdone h)

namespace Replies

variable {message reply : Json} {replies : List Json}

/-- What is no request is not answered, and a request is answered once. -/
lemma cases_isRequest (a : Replies γ n message replies) (h : Host γ) :
    (isRequest message = false ∧ replies = []) ∨
      (isRequest message = true ∧ ∃ reply, replies = [reply] ∧ Answer γ n message reply) := by
  have hasks : ∀ {id method : Json}, message.member? "id" = some id →
      message.member? "method" = some method → isRequest message = true := by
    intro id method hid hmethod
    rw [isRequest, hid, hmethod]
    rfl
  cases a with
  | unasked hasked => exact Or.inl ⟨hasked, rfl⟩
  | served hid hmethod hhandler hdone =>
    exact Or.inr ⟨hasks hid hmethod, _, rfl,
      answer_response hid ⟨_, _, hmethod, hhandler, hdone⟩⟩
  | unknown hid hmethod hhandler =>
    have hunserved : ¬ Served γ n message := not_served hmethod fun handler hhandler' => by
      cases hhandler.symm.trans hhandler'
    exact Or.inr ⟨hasks hid hmethod, _, rfl, answer_errorResponse hid hunserved⟩
  | unnamed hid hmethod hhandler =>
    have hunserved : ¬ Served γ n message := not_served hmethod fun handler hhandler' => by
      cases hhandler.symm.trans hhandler'
    exact Or.inr ⟨hasks hid hmethod, _, rfl, answer_errorResponse hid hunserved⟩
  | failed hid hmethod hhandler hfails =>
    have hunserved : ¬ Served γ n message := not_served hmethod fun handler hhandler' => by
      cases hhandler.symm.trans hhandler'
      exact ⟨h, by rw [hfails h]; simp⟩
    exact Or.inr ⟨hasks hid hmethod, _, rfl, answer_errorResponse hid hunserved⟩

end Replies

end Wire

/-! ## What a session replies -/

/-- From one host to another the session sent these replies, in this order, and what else it sent is
no reply. Its endpoint is as open as before. -/
structure Host.Answers (n : Nat) (replies : List Json) (h h' : Host γ) : Prop where
  endpoint : (h'.session n).endpoint.isSome = (h.session n).endpoint.isSome
  sent : ∃ l : List Sent, h'.sent = h.sent ++ l.map (Prod.mk n) ∧
    l.filterMap Sent.reply? = replies

namespace Host.Answers

variable {n : Nat} {replies replies' : List Json} {h h' h'' : Host γ}

lemma of_sent (hendpoint : (h'.session n).endpoint.isSome = (h.session n).endpoint.isSome)
    (hsent : h'.sent = h.sent) : Answers n [] h h' :=
  ⟨hendpoint, [], by simp [hsent], rfl⟩

lemma trans (a : Answers n replies h h') (b : Answers n replies' h' h'') :
    Answers n (replies ++ replies') h h'' := by
  obtain ⟨l, hsent, rfl⟩ := a.sent
  obtain ⟨l', hsent', rfl⟩ := b.sent
  refine ⟨b.endpoint.trans a.endpoint, l ++ l', ?_, List.filterMap_append⟩
  rw [hsent', hsent, List.map_append, List.append_assoc]

instance (n : Nat) : Std.Refl (Answers (γ := γ) n []) where
  refl _ := of_sent rfl rfl

instance (n : Nat) : IsTrans (Host γ) (Answers n []) where
  trans _ _ _ := trans

/-- Something else is sent before the replies. -/
lemma before (a : Answers n [] h h') (b : Answers n replies h' h'') : Answers n replies h h'' :=
  a.trans b

lemma of_silent (a : Silent false n h h') : Answers n [] h h' :=
  ⟨a.self.endpoint, [], a.sent, rfl⟩

end Host.Answers

namespace Wire

variable {n : Nat} {h : Host γ}

lemma answers_writeToChild (message : Json) (h : Host γ) :
    Answers n ((Sent.message message).reply?.toList) h (writeToChild n message h).2 := by
  have hnoted : Answers n ((Sent.message message).reply?.toList) h
      (h.noteSent n (.message message)) := by
    refine ⟨rfl, [.message message], rfl, ?_⟩
    cases hreply : (Sent.message message).reply? <;> simp [hreply]
  have hall := hnoted.trans (.of_silent (writeToChild_run n message h).2)
  rwa [List.append_nil] at hall

lemma answers_reply {reply : Json} (hreply : isReply reply = true) (h : Host γ) :
    Answers n [reply] h (writeToChild n reply h).2 := by
  have a := answers_writeToChild (n := n) reply h
  rwa [Sent.reply?, if_pos hreply] at a

/-! ### Requests -/

section Request

variable {wire : Wire γ} {id method params : Json} {handler : Method.Handler} {fault : Fault}
  {h' : Host γ}

lemma takeRequest_unnamed (hhandler : handlerOf method = .error fault) :
    takeRequest wire n id method params h =
      wire n (errorResponse id (-32602) (fault.className : Text)) h := by
  unfold takeRequest
  rw [hhandler]
  rfl

lemma takeRequest_unknown (hhandler : handlerOf method = .ok none) :
    takeRequest wire n id method params h =
      wire n (errorResponse id (-32601) (("Method Not Found: " : Text) ++ method.shown)) h := by
  unfold takeRequest
  rw [hhandler]
  rfl

lemma takeRequest_failed (hhandler : handlerOf method = .ok (some handler))
    (hfails : handle n handler params h = (.error fault, h')) :
    takeRequest wire n id method params h =
      wire n (errorResponse id (-32602) (fault.className : Text)) h' := by
  have hattempt : (handle n handler params >>= fun _ =>
      (pure none : Act γ (Option (Int × Text)))) h = (.error fault, h') := bind_error hfails
  unfold takeRequest
  rw [hhandler]
  exact (bind_ok (tryCatch_error hattempt)).trans rfl

lemma takeRequest_served (hhandler : handlerOf method = .ok (some handler))
    (hdone : handle n handler params h = (.ok (), h')) :
    takeRequest wire n id method params h = wire n (response id .null) h' := by
  have hattempt : (handle n handler params >>= fun _ =>
      (pure none : Act γ (Option (Int × Text)))) h = (.ok none, h') := bind_ok hdone
  unfold takeRequest
  rw [hhandler]
  exact (bind_ok (tryCatch_ok hattempt)).trans rfl

end Request

/-- A request is answered, whatever its method and its parameters are. -/
lemma answers_request {message id method : Json} (hid : message.member? "id" = some id)
    (hmethod : message.member? "method" = some method) (h : Host γ) :
    ∃ replies, Replies γ n message replies ∧
      Answers n replies h (takeRequest writeToChild n id method (part message "params") h).2 := by
  cases hhandler : handlerOf method with
  | error fault =>
    refine ⟨_, .unnamed hid hmethod hhandler, ?_⟩
    rw [takeRequest_unnamed hhandler]
    exact answers_reply (isReply_errorResponse _ _ _) h
  | ok found =>
    cases found with
    | none =>
      refine ⟨_, .unknown hid hmethod hhandler, ?_⟩
      rw [takeRequest_unknown hhandler]
      exact answers_reply (isReply_errorResponse _ _ _) h
    | some handler =>
      -- the call comes to an end here and now, but how it ends is the same on every host
      set params := part message "params" with hparams
      obtain ⟨result, hresult⟩ := fixed_handle (γ := γ) (n := n) handler params
      have hsilent : Answers n [] h (handle n handler params h).2 :=
        .of_silent (silent_handle handler params h)
      have hcalled : handle n handler params h = (result, (handle n handler params h).2) :=
        Prod.ext (hresult h) rfl
      cases result with
      | error fault =>
        refine ⟨_, .failed hid hmethod hhandler hresult, hsilent.before ?_⟩
        rw [takeRequest_failed hhandler hcalled]
        exact answers_reply (isReply_errorResponse _ _ _) _
      | ok done =>
        refine ⟨_, .served hid hmethod hhandler hresult, hsilent.before ?_⟩
        rw [takeRequest_served hhandler hcalled]
        exact answers_reply (isReply_response _ _) _

/-! ### One message -/

/-- A message with the version is answered by the endpoint if it is a request, and only then. -/
lemma answers_take {members : List (Text × Json)} (hversioned : IsVersioned (.obj members))
    (h : Host γ) : ∃ replies, Replies γ n (.obj members) replies ∧
      Answers n replies h (take writeToChild n (.obj members) h).2 := by
  rw [take_versioned writeToChild hversioned]
  cases hid : Json.member? "id" (.obj members) with
  | none =>
    refine ⟨[], .unasked (by simp [isRequest, hid]), .of_silent ?_⟩
    exact Lasts.bind (R := Silent false n) (.ofExcept _)
      (fun method => silent_takeNotification method _) h
  | some id =>
    cases hmethod : Json.member? "method" (.obj members) with
    | none =>
      exact ⟨[], .unasked (by simp [isRequest, hmethod]), .of_silent (silent_takeResponse id _ _ h)⟩
    | some method => exact answers_request hid hmethod h

/-- A notice is no reply. -/
lemma answers_notify (notice : Notice) :
    Lasts (Answers (γ := γ) n []) (notify writeToChild n notice) := by
  intro h
  have hreply : (Sent.message notice.message).reply? = none := by
    rw [Sent.reply?, isReply_notice, if_neg (by simp)]
  cases htakes : (h.session n).takes notice.word with
  | false =>
    obtain ⟨fault, hrun⟩ := notify_refused writeToChild htakes
    rw [hrun]
    exact refl_of (Answers n []) h
  | true =>
    rw [notify_takes htakes]
    split
    · have a := answers_writeToChild (n := n) notice.message h
      rwa [hreply] at a
    · exact ⟨rfl, [.notice notice], rfl, rfl⟩

/-- Welcoming the server is no reply. -/
lemma welcome_answers (members : List (Text × Json))
    (hopen : (h.session n).endpoint.isSome = true) :
    ∃ h', Answers n [] h h' ∧ welcome writeToChild n (.obj members) h = (.ok (), h') := by
  obtain ⟨isStart, hstart⟩ := isStartResult_obj members
  rw [welcome_eq, if_pos hopen, ofExcept_bind_ok hstart]
  cases isStart with
  | false => exact ⟨h, refl_of (Answers n []) h, rfl⟩
  | true =>
    have hsent := answers_writeToChild (n := n) Notice.started.message h
    set h₁ := (writeToChild n Notice.started.message h).2
    have hregistered : Answers n [] h₁ (h₁.register n) := by
      refine .of_sent (by rw [session_register]) ?_
      unfold Host.register
      split <;> rfl
    rw [if_pos rfl, bind_of_fst (writeToChild_run n _ h).1]
    exact ⟨h₁.register n, hsent.trans hregistered, rfl⟩

/-- **One message.** Over an open endpoint a request is replied to once, and nothing else is. -/
theorem answers_consume {message : Json} (hversioned : IsVersioned message)
    (hopen : (h.session n).endpoint.isSome = true) :
    ∃ replies, Replies γ n message replies ∧
      Answers n replies h (consume writeToChild n message h).2 := by
  obtain ⟨members, rfl⟩ : ∃ members, message = .obj members := by
    cases message with
    | obj members => exact ⟨members, rfl⟩
    | _ => cases hversioned
  -- neither the welcome nor the hook replies to anything, and the endpoint stays open behind them
  obtain ⟨h₁, hwelcome, hrun⟩ := welcome_answers members hopen
  have hhook := leads_behindHook (R := Answers n []) (fun _ _ => .of_sent rfl rfl) answers_notify
    (.obj members) h₁
  set h₂ := behindHook writeToChild n (.obj members) h₁
  have hnoted : ∀ hooked, Answers n [] h₁ { h₁ with hooked } := fun _ => .of_sent rfl rfl
  have hcalled : Answers n [] h h₂ := hwelcome.before ((hnoted _).before hhook)
  have hconsume : consume writeToChild n (.obj members) h =
      take writeToChild n (.obj members) h₂ := by
    have hwelcomed : consume writeToChild n (.obj members) h =
        attend writeToChild n (.obj members) h₁ := bind_ok hrun
    rw [hwelcomed, attend_eq, if_pos (hcalled.endpoint.trans hopen)]
  obtain ⟨replies, hreplies, htaken⟩ := answers_take (n := n) hversioned h₂
  exact ⟨replies, hreplies, hconsume ▸ hcalled.before htaken⟩

/-! ### Messages in a row -/

/-- Each message is replied to in its turn. -/
lemma consumeAll_turns (messages : List Json)
    (hversioned : ∀ message ∈ messages, IsVersioned message)
    (hopen : (h.session n).endpoint.isSome = true)
    (hok : (consumeAll writeToChild n messages h).1 = .ok ()) :
    ∃ turns : List (List Sent),
      (consumeAll writeToChild n messages h).2.said n = h.said n ++ turns.flatten ∧
      List.Forall₂ (fun message turn => Replies γ n message (turn.filterMap Sent.reply?))
        messages turns := by
  induction messages generalizing h with
  | nil => exact ⟨[], (List.append_nil _).symm, .nil⟩
  | cons message rest ih =>
    obtain ⟨hfirst, hrest⟩ := List.forall_mem_cons.1 hversioned
    obtain ⟨replies, hreplies, hopen₁, turn, hsent, hturn⟩ := answers_consume hfirst hopen
    rcases hconsume : consume writeToChild n message h with ⟨result, h₁⟩
    rw [hconsume] at hopen₁ hsent
    cases result with
    | error fault =>
      -- a message that cannot be taken in ends the row, which is excluded
      have hrun : consumeAll writeToChild n (message :: rest) h = (.error fault, h₁) :=
        bind_error hconsume
      rw [hrun] at hok
      cases hok
    | ok done =>
      have hrun : consumeAll writeToChild n (message :: rest) h =
          consumeAll writeToChild n rest h₁ := bind_ok hconsume
      rw [hrun] at hok ⊢
      obtain ⟨turns, hsaid, hall⟩ := ih hrest (hopen₁.trans hopen) hok
      refine ⟨turn :: turns, ?_, .cons (hturn ▸ hreplies) hall⟩
      rw [hsaid, said_append hsent, List.flatten_cons, List.append_assoc]

/-- What is replied in the turns of some messages answers the requests among them. -/
lemma answers_of_turns {messages : List Json} {turns : List (List Sent)} (h : Host γ)
    (hturns : List.Forall₂ (fun message turn => Replies γ n message (turn.filterMap Sent.reply?))
      messages turns) :
    List.Forall₂ (Answer γ n) (messages.filter isRequest)
      (turns.flatten.filterMap Sent.reply?) := by
  induction hturns with
  | nil => exact .nil
  | cons hfirst _ ih =>
    rw [List.flatten_cons, List.filterMap_append]
    rcases hfirst.cases_isRequest h with ⟨hasks, hnone⟩ | ⟨hasks, reply, hone, hanswer⟩
    · rw [hnone, List.filter_cons_of_neg (by simp [hasks])]
      exact ih
    · rw [hone, List.filter_cons_of_pos hasks]
      exact .cons hanswer ih

/-- **Every request of a server is answered once.** A session with an open endpoint takes in
messages of the version one after another. If that succeeds, what it says falls into one turn for
each message, in which it replies to a request once and to nothing else at all; so its replies are
those to the requests, in the order of these. -/
theorem requests_answered_once (messages : List Json)
    (hversioned : ∀ message ∈ messages, IsVersioned message)
    (hopen : (h.session n).endpoint.isSome = true)
    (hok : (consumeAll writeToChild n messages h).1 = .ok ()) :
    ∃ turns : List (List Sent),
      (consumeAll writeToChild n messages h).2.said n = h.said n ++ turns.flatten ∧
      List.Forall₂ (fun message turn => Replies γ n message (turn.filterMap Sent.reply?))
        messages turns ∧
      List.Forall₂ (Answer γ n) (messages.filter isRequest)
        (turns.flatten.filterMap Sent.reply?) := by
  obtain ⟨turns, hsaid, hturns⟩ := consumeAll_turns messages hversioned hopen hok
  exact ⟨turns, hsaid, hturns, answers_of_turns h hturns⟩

/-- Amid a handshake, with a server that also logs something, three requests are replied to: one
that is served, one whose method is no name, and one whose parameters have no names. -/
theorem requests_answered_amid_handshake :
    let request (id method params : Json) : Json :=
      Json.object [("jsonrpc", "2.0"), ("id", id), ("method", method), ("params", params)]
    let greeting : Json := Json.object [("jsonrpc", "2.0"), ("id", "1"),
      ("result", Json.object [("capabilities", Json.object [])])]
    let logged : Json := Json.object [("jsonrpc", "2.0"), ("method", "window/logMessage")]
    let registers := request (.int 7) "client/registerCapability" (Json.object [])
    let nameless := request .null (.int 3) .null
    let positional := request "x" "window/showMessage" (.arr [.int 1])
    let messages := [greeting, registers, logged, nameless, positional]
    (∀ message ∈ messages, IsVersioned message) ∧
      (consumeAll writeToChild 0 messages Host.small).1 = .ok () ∧
      Served Empty 0 registers ∧ ¬ Served Empty 0 nameless ∧ ¬ Served Empty 0 positional ∧
      ∃ turns : List (List Sent),
        (consumeAll writeToChild 0 messages Host.small).2.said 0 = turns.flatten ∧
        List.Forall₂ (fun message turn => Replies Empty 0 message (turn.filterMap Sent.reply?))
          messages turns ∧
        List.Forall₂ (Answer Empty 0) [registers, nameless, positional]
          (turns.flatten.filterMap Sent.reply?) := by
  intro request greeting logged registers nameless positional messages
  have hversioned : ∀ message ∈ messages, IsVersioned message := by decide +kernel
  have hgreeting : Digestible [] greeting := by
    refine fun _ => ⟨fun hid => ?_, fun _ _ _ => Or.inl rfl⟩
    cases hid
  have hlogged : Digestible [] logged := by
    refine fun _ => ⟨fun _ => ⟨_, rfl, _, rfl, fun hcancels => ?_⟩, fun _ hid _ => ?_⟩
    · exact absurd hcancels (by decide +kernel)
    · cases hid
  have hdigestible : AllDigestible [] messages :=
    ⟨hgreeting, digestible_request rfl _, hlogged, digestible_request rfl _,
      digestible_request rfl _, trivial⟩
  have hok : (consumeAll writeToChild 0 messages Host.small).1 = .ok () :=
    (consumeAll_ok_iff messages rfl).2 hdigestible
  obtain ⟨turns, hsaid, hturns, hanswers⟩ :=
    requests_answered_once (n := 0) (h := Host.small) messages hversioned rfl hok
  refine ⟨hversioned, hok, ⟨_, .registerCapability, rfl, rfl, fun _ => rfl⟩, ?_, ?_,
    turns, hsaid, hturns, hanswers⟩
  · refine not_served rfl fun handler hhandler => ?_
    cases hhandler
  · refine not_served rfl fun handler hhandler => ⟨Host.small, ?_⟩
    cases hhandler
    intro hdone
    cases hdone

end Wire

end LanguageHost
