import LanguageHost.Proofs.Taking

/-!
# What a message makes of the open requests

Only a response with the id of an open request changes what the endpoint holds for its requests, and
it settles this one: with a result, with a failure, or, if no failure can be made of its error, with
nothing that could be waited for. All other messages leave the requests alone, whether they are
taken in or not.
-/

namespace LanguageHost

open Act Host Message

variable {γ : Type} {n : Nat} {h h' h'' : Host γ}

namespace Message

/-- The message is a response to the request with an id. -/
def Responds (id : String) (message : Json) : Prop :=
  IsVersioned message ∧ (message.member? "method").isNone = true ∧
    (message.member? "id").bind Json.text? = some (Text.ofString id)

instance (id : String) (message : Json) : Decidable (Responds id message) :=
  inferInstanceAs (Decidable (_ ∧ _ ∧ _))

/-- What a response makes of its request: a result or a failure, or nothing if no failure can be
made of its error. -/
inductive Resolves (message : Json) : Option (Except Fault Json) → Prop
  | result (h : part message "error" = .null) :
    Resolves message (some (.ok (part message "result")))
  | failure {fault : Fault} (h : part message "error" ≠ .null)
    (hfailure : Failure.ofError (part message "error") = .ok fault) :
    Resolves message (some (.error fault))
  | spoiled {fault : Fault} (h : part message "error" ≠ .null)
    (hspoiled : Failure.ofError (part message "error") = .error fault) : Resolves message none

end Message

namespace Host

/-- The requests of the session, and what is held for them, are the same. -/
structure SameRequests (n : Nat) (h h' : Host γ) : Prop where
  endpoint : (h'.session n).endpoint = (h.session n).endpoint
  asked : (h'.session n).asked = (h.session n).asked

instance (n : Nat) : Std.Refl (SameRequests (γ := γ) n) where
  refl _ := ⟨rfl, rfl⟩

instance (n : Nat) : IsTrans (Host γ) (SameRequests n) where
  trans _ _ _ a b := ⟨b.endpoint.trans a.endpoint, b.asked.trans a.asked⟩

lemma SameReader.sameRequests {hooked : List (Option String)}
    (a : SameReader n { h with hooked } h') : SameRequests n h h' :=
  ⟨a.endpoint, a.asked⟩

end Host

namespace Wire

variable {wire : Wire γ} {message : Json}

/-! ## What the endpoint takes -/

/-- Apart from a response nothing that the endpoint takes changes the requests. -/
lemma keeps_take (hwire : Carries n wire) (hother : ¬ IsVersioned message ∨
      (message.member? "method").isNone = false ∨ message.member? "id" = none) :
    Lasts (SameReader (γ := γ) n) (take wire n message) := by
  intro h
  cases message with
  | obj members =>
    by_cases hversioned : IsVersioned (.obj members)
    · rw [take_versioned wire hversioned]
      cases hid : Json.member? "id" (.obj members) with
      | none =>
        exact Lasts.bind (.ofExcept _)
          (fun method => leads_takeNotification keeps_handle method _) h
      | some id =>
        cases hmethod : Json.member? "method" (.obj members) with
        | none => simp [hversioned, hid, hmethod] at hother
        | some method =>
          exact leads_takeRequest keeps_handle (fun _ _ => hwire.keeps _)
            (fun _ _ _ => hwire.keeps _) id method _ h
    · rw [take_unversioned hversioned]
      exact refl_of _ h
  | _ =>
    refine Lasts.bind (.ofExcept _) (fun isHeld => ?_) h
    split
    · exact .pure ()
    · exact fun h => refl_of _ h

/-- A response to none of the open requests is passed over. -/
lemma keeps_takeResponse {endpoint : Endpoint} (hopen : (h.session n).endpoint = some endpoint)
    {id : Json} (hother : ∀ name ∈ endpoint.pending, id.text? ≠ some (Text.ofString name))
    (result error : Json) : SameReader n h (takeResponse n id result error h).2 := by
  unfold takeResponse
  rw [get_bind, hopen]
  dsimp only
  cases hanswered : answered endpoint id with
  | error fault => exact refl_of (SameReader n) h
  | ok found =>
    cases found with
    | none => exact refl_of (SameReader n) h
    | some name =>
      unfold answered at hanswered
      split at hanswered
      · cases hanswered
      · split at hanswered
        · cases hanswered
        · have hfound := Except.ok.inj hanswered
          exact absurd (by simpa using List.find?_some hfound)
            (hother name (List.mem_of_find?_eq_some hfound))

/-- What is a response goes to the endpoint as one. -/
lemma take_response (wire : Wire γ) {id : Json} (hversioned : IsVersioned message)
    (hid : message.member? "id" = some id) (hmethod : (message.member? "method").isNone = true) :
    take wire n message h =
      takeResponse n id (part message "result") (part message "error") h := by
  cases message with
  | obj members =>
    rw [take_versioned wire hversioned, hid, Option.isNone_iff_eq_none.1 hmethod]
    rfl
  | _ => cases hid

/-- A response to the only request settles it. -/
lemma takeResponse_resolves {name : String} (hopen : (h.session n).endpoint = some ⟨[name], []⟩)
    {id : Json} (message : Json) (hid : id.text? = some (Text.ofString name)) :
    ∃ answer, Resolves message answer ∧
      ((takeResponse n id (part message "result") (part message "error") h).2.session n).endpoint =
        some ⟨[], answer.toList.map (Prod.mk name)⟩ := by
  have hanswered : answered ⟨[name], []⟩ id = .ok (some name) := by
    have hkey : id.isKey = true := by cases id <;> simp_all [Json.text?, Json.isKey]
    simp [answered, hkey, hid]
  have hset (answers : List (String × Except Fault Json)) {h₁ : Host γ}
      (hlength : n < h₁.sessions.length) :
      ((h₁.setSession n { h₁.session n with endpoint := some ⟨[], answers⟩ }).session n).endpoint =
        some ⟨[], answers⟩ := by
    rw [session_setSession, if_pos ⟨rfl, hlength⟩]
  have hn : n < h.sessions.length := lt_of_endpoint hopen
  -- the request is settled first, and gets its answer then
  set h₁ : Host γ := h.setSession n { h.session n with endpoint := some ⟨[], []⟩ }
  have hlength : n < h₁.sessions.length := lt_of_endpoint (hset [] hn)
  have hfailing (hnull : part message "error" ≠ .null) : ∃ answer, Resolves message answer ∧
      (((Act.ofExcept (Failure.ofError (part message "error")) >>= fun fault =>
        Act.modifySession n fun s =>
          { s with endpoint := some ⟨[], [(name, .error fault)]⟩ } : Act γ Unit) h₁).2.session
            n).endpoint = some ⟨[], answer.toList.map (Prod.mk name)⟩ := by
    cases hfailure : Failure.ofError (part message "error") with
    | ok failure => exact ⟨_, .failure hnull hfailure, hset _ hlength⟩
    | error fault => exact ⟨_, .spoiled hnull hfailure, hset [] hn⟩
  have herase : [name].erase name = [] := List.erase_cons_head name []
  unfold takeResponse
  rw [get_bind, hopen]
  dsimp only
  rw [ofExcept_bind_ok hanswered]
  dsimp only
  rw [herase]
  cases herror : part message "error" with
  | null => exact ⟨_, .result herror, hset _ hlength⟩
  | _ =>
    rw [herror] at hfailing
    exact hfailing (by simp)

/-! ## What the session takes in -/

/-- Behind the welcome and the hook, which leave the requests alone, the endpoint takes the message.
Only for what is no object it may not come to this. -/
lemma consume_takes_last (hwire : Carries n wire) (message : Json) {endpoint : Endpoint}
    (hopen : (h.session n).endpoint = some endpoint) :
    ∃ h', SameRequests n h h' ∧ ((consume wire n message h).2 = (take wire n message h').2 ∨
      (consume wire n message h).2 = h' ∧ ∀ members, message ≠ .obj members) := by
  have hwelcome := welcome_tests hwire message hopen
  have hwelcomed : SameReader n h (welcome wire n message h).2 := keeps_welcome hwire message h
  rcases hres : welcome wire n message h with ⟨result, h₁⟩
  rw [hres] at hwelcome hwelcomed
  cases result with
  | error fault =>
    refine ⟨h₁, hwelcomed.sameRequests, .inr ⟨congrArg Prod.snd (bind_error hres), ?_⟩⟩
    rintro members rfl
    cases hwelcome.ok_iff.2 (isStartResult_obj members)
  | ok x =>
    have hhooked := (keeps_behindHook hwire message h₁).sameRequests
    have hsame := trans_of (SameRequests n) hwelcomed.sameRequests hhooked
    refine ⟨behindHook wire n message h₁, hsame, .inl ?_⟩
    have hconsume : consume wire n message h = attend wire n message h₁ := bind_ok hres
    rw [hconsume, attend_eq, hsame.endpoint, hopen]
    rfl

/-- What is held for the requests stays as it is unless one of them is answered. -/
theorem requests_consume (hwire : Carries n wire) {endpoint : Endpoint}
    (hopen : (h.session n).endpoint = some endpoint)
    (hother : ∀ id ∈ endpoint.pending, ¬ Responds id message) :
    SameRequests n h (consume wire n message h).2 := by
  obtain ⟨h₁, hsame, hrun | ⟨hrun, -⟩⟩ := consume_takes_last hwire message hopen
  · have htaken : SameReader n h₁ (take wire n message h₁).2 := by
      by_cases hresponse : ¬ IsVersioned message ∨ (message.member? "method").isNone = false ∨
          message.member? "id" = none
      · exact keeps_take hwire hresponse h₁
      · simp only [not_or, not_not, Bool.not_eq_false, ← ne_eq,
          Option.ne_none_iff_exists'] at hresponse
        obtain ⟨hversioned, hmethod, id, hid⟩ := hresponse
        rw [take_response wire hversioned hid hmethod]
        refine keeps_takeResponse (hsame.endpoint.trans hopen) (fun name hname htext => ?_) _ _
        exact hother name hname ⟨hversioned, hmethod, by rw [hid]; exact htext⟩
    rw [hrun]
    exact trans_of (SameRequests n) hsame ⟨htaken.endpoint, htaken.asked⟩
  · rw [hrun]
    exact hsame

/-- A response to the only request settles it. -/
theorem consume_resolves (hwire : Carries n wire) {id : String}
    (hopen : (h.session n).endpoint = some ⟨[id], []⟩) (hresponds : Responds id message) :
    ∃ answer, Resolves message answer ∧ ((consume wire n message h).2.session n).endpoint =
      some ⟨[], answer.toList.map (Prod.mk id)⟩ := by
  obtain ⟨hversioned, hmethod, htext⟩ := hresponds
  obtain ⟨i, hid, htext⟩ := Option.bind_eq_some_iff.1 htext
  obtain ⟨h₁, hsame, hrun⟩ := consume_takes_last hwire message hopen
  have hobj : ¬ ∀ members, message ≠ .obj members := by
    intro hobj
    cases message with
    | obj members => exact hobj members rfl
    | _ => cases hid
  have htaken := hrun.resolve_right fun hskipped => hobj hskipped.2
  rw [htaken, take_response wire hversioned hid hmethod]
  exact takeResponse_resolves (hsame.endpoint.trans hopen) message htext

end Wire

end LanguageHost
