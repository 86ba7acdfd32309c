import LanguageHost.Proofs.Digestible
import LanguageHost.Proofs.Wire

/-!
# Taking in one message

Over an open endpoint a message is taken in exactly if it is digestible. The session welcomes its
server, calls the hook and hands the message to the endpoint. The hook is guarded, and neither it
nor the welcome touches the endpoint (`Host.SameReader`), so what decides is the test for an answer
to the first request and what the endpoint makes of a notification, a response or a request
(`Wire.Takes`).
-/

namespace LanguageHost

namespace Host

variable {γ : Type}

/-- The session's endpoint is open, these requests are not answered, its reader goes on as before,
and no hook was called. -/
structure Awaits (n : Nat) (pending : List String) (h h' : Host γ) : Prop where
  endpoint : ∃ endpoint, (h'.session n).endpoint = some endpoint ∧ endpoint.pending = pending
  reading : (h'.session n).reader.reading = (h.session n).reader.reading
  hooked : h'.hooked = h.hooked

/-- The endpoint of the session, how many requests it sent, whether its reader goes on, and the
hooks that were called are as before. -/
structure SameReader (n : Nat) (h h' : Host γ) : Prop where
  endpoint : (h'.session n).endpoint = (h.session n).endpoint
  asked : (h'.session n).asked = (h.session n).asked
  reading : (h'.session n).reader.reading = (h.session n).reader.reading
  hooked : h'.hooked = h.hooked

instance (n : Nat) : Std.Refl (SameReader (γ := γ) n) where
  refl _ := ⟨rfl, rfl, rfl, rfl⟩

instance (n : Nat) : IsTrans (Host γ) (SameReader n) where
  trans _ _ _ a b := ⟨b.endpoint.trans a.endpoint, b.asked.trans a.asked,
    b.reading.trans a.reading, b.hooked.trans a.hooked⟩

variable {n : Nat} {h h' h'' : Host γ}

lemma SameReader.awaits (a : SameReader n h h') {endpoint : Endpoint}
    (hopen : (h.session n).endpoint = some endpoint) : Awaits n endpoint.pending h h' :=
  ⟨⟨endpoint, a.endpoint.trans hopen, rfl⟩, a.reading, a.hooked⟩

lemma sameReader_setSession {s : Session} (hendpoint : s.endpoint = (h.session n).endpoint)
    (hasked : s.asked = (h.session n).asked)
    (hreading : s.reader.reading = (h.session n).reader.reading) :
    SameReader n h (h.setSession n s) := by
  have hsession := session_setSession n n s h
  split at hsession
  · exact ⟨by rw [hsession, hendpoint], by rw [hsession, hasked], by rw [hsession, hreading], rfl⟩
  · exact ⟨by rw [hsession], by rw [hsession], by rw [hsession], rfl⟩

lemma lt_of_endpoint {endpoint : Endpoint} (hopen : (h.session n).endpoint = some endpoint) :
    n < h.sessions.length := by
  by_contra hge
  rw [session_of_le (Nat.le_of_not_lt hge)] at hopen
  cases hopen

/-- The endpoint is replaced. -/
lemma Awaits.settle {pending : List String} (a : Awaits n pending h h') (endpoint : Endpoint) :
    Awaits n endpoint.pending h
      (h'.setSession n { h'.session n with endpoint := some endpoint }) := by
  obtain ⟨endpoint', hopen, -⟩ := a.endpoint
  have hsession := session_setSession n n { h'.session n with endpoint := some endpoint } h'
  rw [if_pos ⟨rfl, lt_of_endpoint hopen⟩] at hsession
  exact ⟨⟨endpoint, by rw [hsession], rfl⟩, by rw [hsession, ← a.reading], a.hooked⟩

end Host

namespace Wire

open Act Host Message

variable {γ : Type} {n : Nat} {h : Host γ} {message : Json}

/-! ## What leaves the endpoint as it is -/

lemma keeps_logFor (level : Level) (text : Text) (extra : Tags) :
    Lasts (SameReader (γ := γ) n) (logFor n level text extra) :=
  fun _ => ⟨rfl, rfl, rfl, rfl⟩

lemma keeps_modifySession {change : Session → Session}
    (hendpoint : ∀ s, (change s).endpoint = s.endpoint) (hasked : ∀ s, (change s).asked = s.asked)
    (hreading : ∀ s, (change s).reader.reading = s.reader.reading) :
    Lasts (SameReader (γ := γ) n) (Act.modifySession n change) :=
  fun _ => sameReader_setSession (hendpoint _) (hasked _) (hreading _)

lemma keeps_handle (handler : Method.Handler) (params : Json) :
    Lasts (SameReader (γ := γ) n) (handle n handler params) :=
  leads_handle keeps_logFor
    (fun _ _ => keeps_modifySession (fun _ => rfl) (fun _ => rfl) fun _ => rfl) handler params

lemma keeps_writeToChild (message : Json) :
    Lasts (SameReader (γ := γ) n) (writeToChild n message) := by
  intro h
  set h₀ := h.noteSent n (.message message) with hh₀
  have hnoted : SameReader n h h₀ := ⟨rfl, rfl, rfl, rfl⟩
  refine trans_of (SameReader n) hnoted ?_
  unfold writeToChild
  rw [modify_bind, get_bind, ← hh₀]
  cases (h₀.session n).provider.child? with
  | none => exact refl_of _ h₀
  | some child =>
    set h₁ : Host γ := { h₀ with
      received := h₀.received ++ (child.offer (Framing.frame message)).2.received }
    have hreceived : SameReader n h₀ h₁ := ⟨rfl, rfl, rfl, rfl⟩
    refine trans_of (SameReader n) hreceived ?_
    exact sameReader_setSession rfl rfl rfl

/-- The wire carries every message, and leaves the reader of the session as it is. -/
structure Carries (n : Nat) (wire : Wire γ) : Prop where
  sent : ∀ message h, (wire n message h).1 = .ok ()
  keeps : ∀ message, Lasts (SameReader n) (wire n message)

lemma carries_writeToChild : Carries (γ := γ) n writeToChild :=
  ⟨fun message h => (writeToChild_run n message h).1, keeps_writeToChild⟩

variable {wire : Wire γ}

section Sending

variable (hwire : Carries n wire)

include hwire

lemma keeps_notify (notice : Notice) : Lasts (SameReader n) (notify wire n notice) := by
  intro h
  cases htakes : (h.session n).takes notice.word with
  | false =>
    obtain ⟨fault, hrun⟩ := notify_refused wire htakes
    rw [hrun]
    exact refl_of _ h
  | true =>
    rw [notify_takes htakes]
    split
    · exact hwire.keeps notice.message h
    · exact ⟨rfl, rfl, rfl, rfl⟩

lemma keeps_welcome (message : Json) : Lasts (SameReader n) (welcome wire n message) := by
  have hregistered : Lasts (SameReader (γ := γ) n) (modify (Host.register n) : Act γ Unit) := by
    intro h
    show SameReader n h (h.register n)
    unfold Host.register
    split
    · exact refl_of _ h
    · exact ⟨rfl, rfl, rfl, rfl⟩
  refine .get_all fun h => ?_
  split
  · refine .bind (.ofExcept _) fun isStart => ?_
    split
    · exact .bind (hwire.keeps _) fun _ => hregistered
    · exact .pure ()
  · exact .pure ()

/-- The hook is called, and leaves the reader as it is. -/
lemma keeps_behindHook (message : Json) (h : Host γ) :
    SameReader n { h with hooked := h.hooked ++ [(h.session n).rootUri h.platform.cwd] }
      (behindHook wire n message h) :=
  leads_behindHook (fun _ _ => ⟨rfl, rfl, rfl, rfl⟩) (keeps_notify hwire) message h

end Sending

/-! ## What the endpoint makes of a message -/

lemma ofExcept_bind_ok {α β : Type} {result : Except Fault α} {x : α} (hresult : result = .ok x)
    (f : α → Act γ β) (h : Host γ) : (Act.ofExcept result >>= f) h = f x h := by
  rw [hresult]
  rfl

lemma ofExcept_bind_error {α β : Type} {result : Except Fault α} {fault : Fault}
    (hresult : result = .error fault) (f : α → Act γ β) (h : Host γ) :
    (Act.ofExcept result >>= f) h = (.error fault, h) := by
  rw [hresult]
  rfl

/-- A message, or a part of one, is taken in exactly under a condition, and else there is a fault
about the shape of a value. Either way these requests are left to be answered. -/
structure Takes (good : Prop) (pending : List String) (n : Nat) (h : Host γ)
    (outcome : Except Fault Unit × Host γ) : Prop where
  ok_iff : outcome.1 = .ok () ↔ good
  looks : LooksInto outcome.1
  awaits : Awaits n pending h outcome.2

namespace Takes

variable {good : Prop} {pending : List String} {h' : Host γ}

lemma ok (hgood : good) (hawaits : Awaits n pending h h') : Takes good pending n h (.ok (), h') :=
  ⟨⟨fun _ => hgood, fun _ => rfl⟩, .ok (), hawaits⟩

lemma error (hbad : ¬ good) {fault : Fault} (hfault : fault.IsMisshapen)
    (hawaits : Awaits n pending h h') : Takes good pending n h (.error fault, h') :=
  ⟨⟨fun hok => (by cases hok), fun hgood => absurd hgood hbad⟩, .error hfault, hawaits⟩

lemma congr {outcome : Except Fault Unit × Host γ} {other : Prop} (hsame : good ↔ other)
    (a : Takes good pending n h outcome) : Takes other pending n h outcome :=
  ⟨a.ok_iff.trans hsame, a.looks, a.awaits⟩

end Takes

section Open

variable {endpoint : Endpoint} (hopen : (h.session n).endpoint = some endpoint)

include hopen

/-- A notification is taken exactly if it can be looked into. -/
lemma takes_notification (method params : Json) :
    Takes (Notifies method params) endpoint.pending n h (takeNotification n method params h) := by
  have hidle : Awaits n endpoint.pending h h := (refl_of (SameReader n) h).awaits hopen
  unfold takeNotification
  by_cases hcancel : method.text? = some (Text.ofString "$/cancelRequest")
  · rw [if_pos hcancel]
    have hmethod : method = .str (Text.ofString "$/cancelRequest") := by
      cases method <;> simp_all [Json.text?]
    have hiff : Notifies method params ↔ ∃ id, params.require "id" = .ok id := by
      rw [Json.require_ok_iff, hmethod]
      constructor
      · rintro ⟨name, hname, hcancels⟩
        cases hname
        exact hcancels rfl
      · exact fun hsome => ⟨_, rfl, fun _ => hsome⟩
    cases hid : params.require "id" with
    | ok id =>
      rw [ofExcept_bind_ok rfl]
      exact .ok (hiff.2 ⟨id, hid⟩) hidle
    | error fault =>
      rw [ofExcept_bind_error rfl]
      refine .error (fun hnotifies => ?_) (Json.looksInto_require params "id" fault hid) hidle
      obtain ⟨id, hfound⟩ := hiff.1 hnotifies
      rw [hid] at hfound
      cases hfound
  · rw [if_neg hcancel]
    cases method with
    | str name =>
      have hhandler : handlerOf (.str name) = .ok (Method.handler? name) := rfl
      have hgood : Notifies (.str name) params := by
        refine ⟨name, rfl, fun hname => absurd ?_ hcancel⟩
        rw [hname]
        rfl
      rw [ofExcept_bind_ok hhandler]
      cases Method.handler? name with
      | none => exact .ok hgood hidle
      | some handler =>
        dsimp only
        rw [guarded_pass]
        exact .ok hgood ((keeps_handle handler params h).awaits hopen)
    | _ =>
      refine .error (fun hnotifies => ?_) (Fault.noMember_isMisshapen _ _) hidle
      obtain ⟨name, hname, -⟩ := hnotifies
      cases hname

omit hopen in
/-- What goes on after an attempt whose fault is made a value of. -/
lemma takes_caught {α : Type} {a : Act γ α} {g : Fault → α} {f : α → Act γ Unit}
    (ha : SameReader n h (a h).2)
    (hf : ∀ x h', SameReader n h h' → Takes True endpoint.pending n h (f x h')) :
    Takes True endpoint.pending n h ((tryCatch a (fun fault => pure (g fault)) >>= f) h) := by
  rcases hres : a h with ⟨result, h'⟩
  rw [hres] at ha
  cases result with
  | error fault =>
    rw [bind_ok (tryCatch_error hres)]
    exact hf _ h' ha
  | ok x =>
    rw [bind_ok (tryCatch_ok hres)]
    exact hf x h' ha

/-- A request is always taken: it is answered, if only by an error. -/
lemma takes_request (hwire : Carries n wire) (id method params : Json) :
    Takes True endpoint.pending n h (takeRequest wire n id method params h) := by
  have hanswer : ∀ answer h', SameReader n h h' →
      Takes True endpoint.pending n h (wire n answer h') := by
    intro answer h' hsame
    have hrun : wire n answer h' = (.ok (), (wire n answer h').2) :=
      Prod.ext (hwire.sent answer h') rfl
    have hsent := trans_of (SameReader n) hsame (hwire.keeps answer h')
    rw [hrun]
    exact .ok trivial (hsent.awaits hopen)
  unfold takeRequest
  refine takes_caught ?_ fun outcome h' hsame => ?_
  · refine Lasts.bind (.ofExcept _) (fun handler => ?_) h
    cases handler with
    | none => exact .pure _
    | some handler => exact .bind (keeps_handle handler params) fun _ => .pure _
  · cases outcome with
    | none => exact hanswer _ h' hsame
    | some refusal => exact hanswer _ h' hsame

omit hopen in
/-- An error that answers a request is taken exactly if it is a proper one. -/
lemma takes_failure (id : Json) {error : Json} {name : String} {h₁ : Host γ}
    (hfirst : Awaits n (endpoint.pending.erase name) h h₁) (hempty : endpoint.pending ≠ [])
    (hkey : id.isKey = true)
    (hanswers : ∃ name ∈ endpoint.pending, id.text? = some (Text.ofString name))
    (hnull : error ≠ .null) :
    Takes (Settles endpoint.pending id error) (endpoint.pending.erase name) n h
      ((Act.ofExcept (Failure.ofError error) >>= fun fault =>
        Act.modifySession n fun s =>
          { s with
            endpoint := some
              { endpoint with
                pending := endpoint.pending.erase name
                answers := endpoint.answers ++ [(name, .error fault)] } } : Act γ Unit) h₁) := by
  cases hfailure : Failure.ofError error with
  | error fault =>
    rw [ofExcept_bind_error rfl]
    refine .error (fun hsettles => ?_) (Failure.looksInto_ofError error fault hfailure) hfirst
    rcases hsettles.resolve_left hempty with ⟨-, hfails⟩
    obtain ⟨failure, hsome⟩ := (hfails hanswers).resolve_left hnull
    rw [hfailure] at hsome
    cases hsome
  | ok failure =>
    rw [ofExcept_bind_ok rfl]
    exact .ok (Or.inr ⟨hkey, fun _ => Or.inr ⟨failure, hfailure⟩⟩) (hfirst.settle
      ⟨endpoint.pending.erase name, endpoint.answers ++ [(name, .error failure)]⟩)

/-- A response is taken exactly if it can be looked into. Either way the request that it answers is
not waited for any more. -/
lemma takes_response (id result error : Json) :
    Takes (Settles endpoint.pending id error) (settledBy endpoint.pending id) n h
      (takeResponse n id result error h) := by
  have hidle : Awaits n endpoint.pending h h := (refl_of (SameReader n) h).awaits hopen
  have hsettled : settledBy endpoint.pending id =
      (endpoint.pending.find? fun name => id.text? = some (Text.ofString name)).elim
        endpoint.pending endpoint.pending.erase := rfl
  unfold takeResponse
  rw [get_bind, hopen]
  dsimp only
  by_cases hempty : endpoint.pending = []
  · -- nothing is looked for
    have hnone : answered endpoint id = .ok none := by simp [answered, hempty]
    have hmissed : (endpoint.pending.find? fun name => id.text? = some (Text.ofString name)) =
        none := by
      rw [hempty]
      rfl
    rw [ofExcept_bind_ok hnone, hsettled, hmissed]
    exact .ok (Or.inl hempty) hidle
  by_cases hkey : id.isKey = true
  case neg =>
    have hfault : answered endpoint id = .error (.misuse (.noIdentity id.kindWord)) := by
      simp [answered, hempty, hkey]
    have hmissed : (endpoint.pending.find? fun name => id.text? = some (Text.ofString name)) =
        none := by
      cases id <;> simp_all [Json.isKey, Json.text?]
    rw [ofExcept_bind_error hfault, hsettled, hmissed]
    refine .error (fun hsettles => ?_) (Fault.misuse_isMisshapen _) hidle
    exact (hsettles.elim hempty fun hlooked => hkey hlooked.1).elim
  have hlooked : answered endpoint id = .ok
      (endpoint.pending.find? fun name => id.text? = some (Text.ofString name)) := by
    simp [answered, hempty, hkey]
  rw [ofExcept_bind_ok hlooked, hsettled]
  cases hname : endpoint.pending.find? fun name => id.text? = some (Text.ofString name) with
  | none =>
    refine .ok (Or.inr ⟨hkey, fun hanswers => ?_⟩) hidle
    obtain ⟨name, hmem, htext⟩ := hanswers
    exact absurd htext (by simpa using List.find?_eq_none.1 hname name hmem)
  | some name =>
    have hanswers : ∃ name ∈ endpoint.pending, id.text? = some (Text.ofString name) :=
      ⟨name, List.mem_of_find?_eq_some hname, by simpa using List.find?_some hname⟩
    -- the request is settled first, and gets its answer then
    have hfirst := hidle.settle ⟨endpoint.pending.erase name, endpoint.answers ++ []⟩
    have hfailing (error : Json) (hnull : error ≠ .null) :=
      takes_failure id hfirst hempty hkey hanswers hnull
    cases error with
    | null =>
      refine .ok (Or.inr ⟨hkey, fun _ => Or.inl rfl⟩) ?_
      exact hfirst.settle ⟨endpoint.pending.erase name, endpoint.answers ++ [(name, .ok result)]⟩
    | bool value => exact hfailing (.bool value) (by simp)
    | int value => exact hfailing (.int value) (by simp)
    | float value => exact hfailing (.float value) (by simp)
    | str value => exact hfailing (.str value) (by simp)
    | arr elements => exact hfailing (.arr elements) (by simp)
    | obj members => exact hfailing (.obj members) (by simp)

omit hopen in
/-- Without the version an object is passed over. -/
lemma take_unversioned {members : List (Text × Json)}
    (hversioned : ¬ IsVersioned (.obj members)) :
    take wire n (.obj members) h = (.ok (), h) := by
  have hholds : Json.holds "jsonrpc" (.obj members) =
    .ok (Json.member? "jsonrpc" (.obj members)).isSome := rfl
  unfold take
  rw [ofExcept_bind_ok hholds]
  cases hfound : Json.member? "jsonrpc" (.obj members) with
  | none => rfl
  | some named =>
    have hrequire := Json.require_of_member? hfound
    have hother : named.text? ≠ some (Text.ofString Message.version) := by
      intro hnamed
      unfold IsVersioned at hversioned
      rw [hfound] at hversioned
      exact hversioned hnamed
    simp only [Option.isSome_some, Bool.not_true, Bool.false_eq_true, if_false]
    rw [ofExcept_bind_ok hrequire, if_pos hother]
    rfl

omit hopen in
/-- With the version an object is taken for what it is. -/
lemma take_versioned (wire : Wire γ) {members : List (Text × Json)}
    (hversioned : IsVersioned (.obj members)) :
    let message : Json := .obj members
    take wire n message h =
      ((message.member? "id").elim
        (Act.ofExcept (message.require "method") >>= fun method =>
          takeNotification n method (part message "params"))
        fun id => (message.member? "method").elim
          (takeResponse n id (part message "result") (part message "error"))
          fun method => takeRequest wire n id method (part message "params")) h := by
  intro message
  have hholds : message.holds "jsonrpc" = .ok (message.member? "jsonrpc").isSome := rfl
  obtain ⟨named, hfound, hnamed⟩ : ∃ named, message.member? "jsonrpc" = some named ∧
      named.text? = some (Text.ofString Message.version) := by
    unfold IsVersioned at hversioned
    exact Option.bind_eq_some_iff.1 hversioned
  have hrequire := Json.require_of_member? hfound
  rw [hfound] at hholds
  unfold take
  rw [ofExcept_bind_ok hholds]
  simp only [Option.isSome_some, Bool.not_true, Bool.false_eq_true, if_false]
  rw [ofExcept_bind_ok hrequire, if_neg (not_not.2 hnamed)]
  cases message.member? "id" with
  | none => rfl
  | some id => cases message.member? "method" <;> rfl

/-- An object is taken by the endpoint exactly if it is digestible. -/
lemma takes_obj (hwire : Carries n wire) (members : List (Text × Json)) :
    Takes (Digestible endpoint.pending (.obj members))
      (pendingAfter endpoint.pending (.obj members)) n h (take wire n (.obj members) h) := by
  have hidle : Awaits n endpoint.pending h h := (refl_of (SameReader n) h).awaits hopen
  by_cases hversioned : IsVersioned (.obj members)
  case neg =>
    have hkept : pendingAfter endpoint.pending (.obj members) = endpoint.pending := by
      simp [pendingAfter, hversioned]
    rw [take_unversioned hversioned, hkept]
    exact .ok (fun h => absurd h hversioned) hidle
  rw [take_versioned wire hversioned]
  have hgood : Digestible endpoint.pending (.obj members) ↔
      (Json.member? "id" (.obj members) = none →
        ∃ method, Json.member? "method" (.obj members) = some method ∧
          Notifies method (part (.obj members) "params")) ∧
      ∀ id, Json.member? "id" (.obj members) = some id →
        Json.member? "method" (.obj members) = none →
          Settles endpoint.pending id (part (.obj members) "error") :=
    ⟨fun hdigests => hdigests hversioned, fun hdigests _ => hdigests⟩
  cases hid : Json.member? "id" (.obj members) with
  | none =>
    have hkept : pendingAfter endpoint.pending (.obj members) = endpoint.pending := by
      simp [pendingAfter, hid]
    rw [hkept, Option.elim_none]
    cases hmethod : Json.member? "method" (.obj members) with
    | none =>
      obtain ⟨fault, hfault⟩ := Json.require_of_member?_none hmethod
      rw [ofExcept_bind_error hfault]
      refine .error ?_ (Json.looksInto_require _ _ fault hfault) hidle
      rw [hgood]
      simp [hid, hmethod]
    | some method =>
      rw [ofExcept_bind_ok (Json.require_of_member? hmethod)]
      refine (takes_notification hopen method _).congr ?_
      rw [hgood]
      simp [hid, hmethod]
  | some id =>
    rw [Option.elim_some]
    cases hmethod : Json.member? "method" (.obj members) with
    | none =>
      have hsettled : pendingAfter endpoint.pending (.obj members) =
          settledBy endpoint.pending id := by
        simp [pendingAfter, hversioned, hid, hmethod]
      rw [hsettled, Option.elim_none]
      refine (takes_response hopen id _ _).congr ?_
      rw [hgood]
      simp [hid, hmethod]
    | some method =>
      have hkept : pendingAfter endpoint.pending (.obj members) = endpoint.pending := by
        simp [pendingAfter, hmethod]
      rw [hkept, Option.elim_some]
      refine (takes_request hopen hwire id method _).congr ?_
      rw [hgood]
      simp [hid, hmethod]

/-- What is no object is taken by the endpoint, and passed over, exactly if it can be looked into
and no version is found in it. -/
lemma takes_other (hobj : ∀ members, message ≠ .obj members) :
    Takes (message.holds "jsonrpc" = .ok false) endpoint.pending n h
      (take wire n message h) := by
  have hidle : Awaits n endpoint.pending h h := (refl_of (SameReader n) h).awaits hopen
  unfold take
  cases hholds : message.holds "jsonrpc" with
  | error fault =>
    rw [ofExcept_bind_error rfl]
    exact .error (by simp) (Json.looksInto_holds message "jsonrpc" fault hholds) hidle
  | ok isHeld =>
    rw [ofExcept_bind_ok rfl]
    cases isHeld with
    | false => exact .ok rfl hidle
    | true =>
      obtain ⟨fault, hfault⟩ := require_of_not_obj hobj "jsonrpc"
      simp only [Bool.not_true, Bool.false_eq_true, if_false]
      rw [ofExcept_bind_error hfault]
      exact .error (by simp) (Json.looksInto_require message "jsonrpc" fault hfault) hidle

end Open

/-! ## One message -/

/-- The welcome succeeds exactly if the message can be tested for being an answer to the first
request. -/
lemma welcome_tests (hwire : Carries n wire) (message : Json) {endpoint : Endpoint}
    (hopen : (h.session n).endpoint = some endpoint) :
    Takes (∃ isStart, isStartResult message = .ok isStart) endpoint.pending n h
      (welcome wire n message h) := by
  have hkept : Awaits n endpoint.pending h (welcome wire n message h).2 :=
    (keeps_welcome hwire message h).awaits hopen
  have hsome : (h.session n).endpoint.isSome = true := by
    rw [hopen]
    rfl
  rw [welcome_eq, if_pos hsome] at hkept ⊢
  cases hstart : isStartResult message with
  | error fault =>
    rw [hstart, ofExcept_bind_error rfl] at hkept
    rw [ofExcept_bind_error rfl]
    exact .error (by simp) (looksInto_isStartResult message fault hstart) hkept
  | ok isStart =>
    rw [hstart, ofExcept_bind_ok rfl] at hkept
    rw [ofExcept_bind_ok rfl]
    cases isStart with
    | false => exact .ok ⟨false, rfl⟩ hkept
    | true =>
      rw [if_pos rfl, bind_of_fst (hwire.sent _ h)] at hkept ⊢
      exact .ok ⟨true, rfl⟩ hkept

/-- **One message.** Over an open endpoint a message is taken in exactly if it is digestible, and
then the hook was called with it; else there is a fault about the shape of a value. Either way what
it answers is not waited for any more. -/
theorem consume_takes (hwire : Carries n wire) (message : Json) {endpoint : Endpoint}
    (hopen : (h.session n).endpoint = some endpoint) :
    ∃ hooked : List (Option String),
      Takes (Digestible endpoint.pending message) (pendingAfter endpoint.pending message) n
        { h with hooked } (consume wire n message h) ∧
      (Digestible endpoint.pending message → hooked.length = h.hooked.length + 1) := by
  have hwelcome := welcome_tests hwire message hopen
  rcases hres : welcome wire n message h with ⟨result, h₁⟩
  rw [hres] at hwelcome
  obtain ⟨⟨endpoint₁, hopen₁, hpending⟩, hreading₁, hhooked₁⟩ := hwelcome.awaits
  dsimp only at hopen₁ hreading₁ hhooked₁
  cases result with
  | error fault =>
    -- only what is no object fails here
    have hfailed : ¬ ∃ isStart, isStartResult message = .ok isStart :=
      fun hstart => by cases hwelcome.ok_iff.2 hstart
    have hobj : ∀ members, message ≠ .obj members := fun members hmembers =>
      hfailed (hmembers ▸ isStartResult_obj members)
    have hbad : ¬ Digestible endpoint.pending message := by
      intro hdigests
      obtain ⟨hversion, hmethod⟩ := (digestible_of_not_obj hobj _).1 hdigests
      refine hfailed ((isStartResult_ok_iff hobj).2 ⟨?_, hmethod⟩)
      rcases holds_cases hobj with ⟨names, hnames⟩ | hnone
      · exact ⟨_, hnames "id"⟩
      · obtain ⟨misfit, hmisfit⟩ := hnone "jsonrpc"
        rw [hmisfit] at hversion
        cases hversion
    have hkept : pendingAfter endpoint.pending message = endpoint.pending := by
      cases message with
      | obj members => exact absurd rfl (hobj members)
      | _ => rfl
    have hrun : consume wire n message h = (.error fault, h₁) := bind_error hres
    rw [hrun, hkept]
    exact ⟨h.hooked, .error hbad (hwelcome.looks fault rfl) hwelcome.awaits,
      fun hdigests => absurd hdigests hbad⟩
  | ok done =>
    have hstart := hwelcome.ok_iff.1 rfl
    have hsame := keeps_behindHook hwire message h₁
    set h₂ := behindHook wire n message h₁
    set hooked := h₁.hooked ++ [(h₁.session n).rootUri h₁.platform.cwd] with hhooked
    have hopen₂ : (h₂.session n).endpoint = some endpoint₁ := hsame.endpoint.trans hopen₁
    have hrun : consume wire n message h = take wire n message h₂ := by
      have hconsume : consume wire n message h = attend wire n message h₁ :=
        bind_ok hres
      rw [hconsume, attend_eq, hopen₂]
      rfl
    have htaken : Takes (Digestible endpoint.pending message)
        (pendingAfter endpoint.pending message) n h₂ (take wire n message h₂) := by
      rw [← hpending]
      cases message with
      | obj members => exact takes_obj hopen₂ hwire members
      | _ =>
        refine (takes_other hopen₂ (by simp)).congr ?_
        rw [digestible_of_not_obj (by simp)]
        exact ⟨fun hversion => ⟨hversion, ((isStartResult_ok_iff (by simp)).1 hstart).2⟩, And.left⟩
    refine ⟨hooked, ?_, fun _ => by simp [hhooked, hhooked₁]⟩
    rw [hrun]
    exact ⟨htaken.ok_iff, htaken.looks, htaken.awaits.endpoint,
      (htaken.awaits.reading.trans hsame.reading).trans hreading₁,
      htaken.awaits.hooked.trans hsame.hooked⟩

/-- Messages in a row are taken in exactly if each is digestible in its turn. -/
theorem consumeAll_ok_iff (messages : List Json) {endpoint : Endpoint}
    (hopen : (h.session n).endpoint = some endpoint) :
    (consumeAll writeToChild n messages h).1 = .ok () ↔
      AllDigestible endpoint.pending messages := by
  induction messages generalizing h endpoint with
  | nil => exact ⟨fun _ => trivial, fun _ => rfl⟩
  | cons message rest ih =>
    obtain ⟨hooked, htakes, -⟩ := consume_takes carries_writeToChild message hopen
    obtain ⟨endpoint₁, hopen₁, hpending⟩ := htakes.awaits.endpoint
    have hfirst := htakes.ok_iff
    rcases hres : consume writeToChild n message h with ⟨result, h₁⟩
    rw [hres] at hopen₁ hfirst
    cases result with
    | error fault =>
      have hrun : consumeAll writeToChild n (message :: rest) h = (.error fault, h₁) :=
        bind_error hres
      rw [hrun]
      exact ⟨fun hok => (by cases hok), fun hall => (by cases hfirst.2 hall.1)⟩
    | ok done =>
      have hrun : consumeAll writeToChild n (message :: rest) h =
          consumeAll writeToChild n rest h₁ := bind_ok hres
      rw [hrun, ih hopen₁, hpending]
      exact ⟨fun hrest => ⟨hfirst.1 rfl, hrest⟩, And.right⟩

end Wire

end LanguageHost
