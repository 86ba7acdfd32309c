import Mathlib
import LanguageHost.Proofs.Taking

/-!
# Which messages a reader survives

A reader takes the messages of a server one after another, and a fault ends the reading for good.
The output of a child is followed message by message (`Wire.Finds`), where the child may go on
writing when it is answered. By induction on the messages, reading goes on to the end exactly if
each of them is digestible in its turn.
-/

namespace LanguageHost.Wire

open Act Host Message

variable {γ : Type} {n : Nat} {h : Host γ}

lemma keeps_takeFrame : Lasts (SameReader (γ := γ) n) (takeFrame n) := by
  refine .get_all fun h => ?_
  dsimp only
  split
  · exact .pure _
  · split
    · exact .pure _
    · exact .pure _
    · exact .bind (keeps_modifySession (fun _ => rfl) (fun _ => rfl) fun _ => rfl) fun _ => .pure _
    · exact .bind (keeps_modifySession (fun _ => rfl) (fun _ => rfl) fun _ => rfl) fun _ => .pure _
    · exact .pure _

/-- The output of the session's child is well framed and holds these messages, each found where the
one before it left off. The child may go on writing when it is answered. -/
inductive Finds (n : Nat) : Host γ → List Json → Prop where
  | nothing {h : Host γ} : (takeFrame n h).1 = .ok .nothing → Finds n h []
  | message {h : Host γ} {bytes : List UInt8} {message : Json} {rest : List Json} :
      (takeFrame n h).1 = .ok (.body bytes) → Framing.parse? bytes = some message →
      Finds n (consume writeToChild n message (takeFrame n h).2).2 rest →
      Finds n h (message :: rest)

/-- A reader that has stopped does not go on. -/
lemma drain_stopped (fuel : Nat) (hstopped : (h.session n).reader.reading = false) :
    drain n fuel h = (.ok (), h) := by
  cases fuel with
  | zero => rfl
  | succ fuel =>
    rw [drain, get_bind, hstopped]
    rfl

lemma drain_nothing (fuel : Nat) (hnothing : (takeFrame n h).1 = .ok .nothing)
    (hreading : (h.session n).reader.reading = true) :
    drain n (fuel + 1) h = (.ok (), (takeFrame n h).2) := by
  rw [drain, get_bind, if_pos hreading, bind_of_fst hnothing]
  rfl

/-- A message that is found is taken in, and reading goes on from there; a fault ends it. -/
lemma drain_message (fuel : Nat) {bytes : List UInt8} {message : Json}
    (hbody : (takeFrame n h).1 = .ok (.body bytes)) (hparse : Framing.parse? bytes = some message)
    (hreading : (h.session n).reader.reading = true) :
    drain n (fuel + 1) h =
      let outcome := consume writeToChild n message (takeFrame n h).2
      if outcome.1.isOk then drain n fuel outcome.2
      else drain n fuel (endReading n outcome.2).2 := by
  have hread : readBody n bytes = tryCatch (consume writeToChild n message)
      (fun _ => (endReading n : Act γ Unit)) := by
    unfold readBody consumeBody Act.guarded
    rw [hparse]
  rw [drain, get_bind, if_pos hreading, bind_of_fst hbody]
  dsimp only
  rw [hread]
  rcases hres : consume writeToChild n message (takeFrame n h).2 with ⟨result, h₁⟩
  cases result with
  | ok done =>
    rw [bind_ok (tryCatch_ok hres)]
    rfl
  | error fault =>
    have hended : endReading n h₁ = (.ok (), (endReading n h₁).2) := rfl
    rw [bind_ok ((tryCatch_error hres).trans hended)]
    rfl

/-- What a run of the reader leaves behind where the child's output holds some messages. -/
structure Drained (n : Nat) (pending : List String) (messages : List Json) (h h' : Host γ) :
    Prop where
  goesOn_iff : (h'.session n).reader.reading = true ↔ AllDigestible pending messages
  reached : AllDigestible pending messages →
    h'.hooked.length = h.hooked.length + messages.length ∧
      (∃ endpoint, (h'.session n).endpoint = some endpoint ∧
        endpoint.pending = messages.foldl pendingAfter pending)

/-- **The run.** By induction on the messages, since each is found where the one before left off. -/
theorem drain_finds {messages : List Json} (hfinds : Finds n h messages) {fuel : Nat}
    (hfuel : messages.length < fuel) {endpoint : Endpoint}
    (hopen : (h.session n).endpoint = some endpoint)
    (hreading : (h.session n).reader.reading = true) :
    (drain n fuel h).1 = .ok () ∧ Drained n endpoint.pending messages h (drain n fuel h).2 := by
  induction hfinds generalizing fuel endpoint with
  | @nothing h hnothing =>
    obtain ⟨fuel, rfl⟩ := Nat.exists_eq_add_one_of_ne_zero (Nat.ne_zero_of_lt hfuel)
    have hsame : SameReader n h (takeFrame n h).2 := keeps_takeFrame h
    rw [drain_nothing fuel hnothing hreading]
    refine ⟨rfl, ⟨fun _ => trivial, fun _ => hsame.reading.trans hreading⟩, fun _ => ⟨?_, ?_⟩⟩
    · rw [hsame.hooked]
      rfl
    · exact ⟨endpoint, hsame.endpoint.trans hopen, rfl⟩
  | @message h bytes message rest hbody hparse hrest ih =>
    obtain ⟨fuel, rfl⟩ := Nat.exists_eq_add_one_of_ne_zero (Nat.ne_zero_of_lt hfuel)
    have hleft : rest.length < fuel := Nat.lt_of_succ_lt_succ hfuel
    have hsame : SameReader n h (takeFrame n h).2 := keeps_takeFrame h
    obtain ⟨hooked, htakes, hcalled⟩ :=
      consume_takes carries_writeToChild message (hsame.endpoint.trans hopen)
    rw [drain_message fuel hbody hparse hreading]
    obtain ⟨endpoint₁, hopen₁, hpending⟩ := htakes.awaits.endpoint
    have hreading₁ := htakes.awaits.reading.trans (hsame.reading.trans hreading)
    by_cases hdigests : Digestible endpoint.pending message
    · have hok := htakes.ok_iff.2 hdigests
      dsimp only
      rw [hok]
      obtain ⟨hdone, hdrained⟩ := ih hleft hopen₁ hreading₁
      rw [hpending] at hdrained
      have hall : AllDigestible endpoint.pending (message :: rest) ↔
          AllDigestible (pendingAfter endpoint.pending message) rest :=
        ⟨And.right, And.intro hdigests⟩
      refine ⟨hdone, hdrained.goesOn_iff.trans hall.symm, fun hevery => ?_⟩
      obtain ⟨hcount, hleftover⟩ := hdrained.reached (hall.1 hevery)
      refine ⟨?_, hleftover⟩
      have hhooks : (consume writeToChild n message (takeFrame n h).2).2.hooked.length =
          h.hooked.length + 1 := by
        rw [htakes.awaits.hooked, ← hsame.hooked]
        exact hcalled hdigests
      show (drain n fuel _).2.hooked.length = _
      rw [hcount, hhooks, List.length_cons]
      omega
    · obtain ⟨fault, hfault⟩ : ∃ fault, (consume writeToChild n message (takeFrame n h).2).1 =
          .error fault := by
        cases hres : (consume writeToChild n message (takeFrame n h).2).1 with
        | ok done => exact absurd (htakes.ok_iff.1 hres) hdigests
        | error fault => exact ⟨fault, rfl⟩
      have hstopped : ((endReading n (consume writeToChild n message (takeFrame n h).2).2).2.session
          n).reader.reading = false := by
        unfold endReading Act.modifySession
        show ((Host.setSession n _ _).session n).reader.reading = false
        rw [session_setSession, if_pos ⟨rfl, lt_of_endpoint hopen₁⟩]
      dsimp only
      rw [hfault]
      simp only [Except.isOk, Except.toBool, Bool.false_eq_true, if_false]
      rw [drain_stopped fuel hstopped]
      refine ⟨rfl, ⟨fun hgoes => ?_, fun hall => absurd hall.1 hdigests⟩,
        fun hall => absurd hall.1 hdigests⟩
      rw [hstopped] at hgoes
      cases hgoes

/-- **Which messages a reader survives.** A message is taken in over an open endpoint exactly if it
is digestible; a fault is about the shape of a value, and nothing that a reader would pass over. So
where the output of a child holds some messages, reading goes on behind them exactly if each is
digestible in its turn, and then each reached the hook and the endpoint. Otherwise the reader stops
at the first that is not, and never reads again. -/
theorem reading_goes_on_iff {messages : List Json} (hfinds : Finds n h messages) {fuel : Nat}
    (hfuel : messages.length < fuel) {endpoint : Endpoint}
    (hopen : (h.session n).endpoint = some endpoint)
    (hreading : (h.session n).reader.reading = true) :
    (∀ message, (consume writeToChild n message h).1 = .ok () ↔
      Digestible endpoint.pending message) ∧
    (∀ message fault, (consume writeToChild n message h).1 = .error fault → fault.IsMisshapen) ∧
    (drain n fuel h).1 = .ok () ∧ Drained n endpoint.pending messages h (drain n fuel h).2 ∧
    (¬ AllDigestible endpoint.pending messages →
      ∀ later, drain n later (drain n fuel h).2 = (.ok (), (drain n fuel h).2)) := by
  obtain ⟨hdone, hdrained⟩ := drain_finds hfinds hfuel hopen hreading
  refine ⟨fun message => ?_, fun message fault hfault => ?_, hdone, hdrained, fun hbad later => ?_⟩
  · obtain ⟨hooked, htakes, -⟩ := consume_takes carries_writeToChild message hopen
    exact htakes.ok_iff
  · obtain ⟨hooked, htakes, -⟩ := consume_takes carries_writeToChild message hopen
    exact htakes.looks fault hfault
  · have hstopped : ((drain n fuel h).2.session n).reader.reading = false :=
      Bool.eq_false_iff.2 fun hgoes => hbad (hdrained.goesOn_iff.1 hgoes)
    exact drain_stopped later hstopped

deriving instance DecidableEq for Taken

/-- A session that waits for the answer to one request, and the output of its child. -/
def listening (output : List UInt8) : Host Empty :=
  { Host.empty default ⟨.root, []⟩ with
    sessions := [{ (default : Session) with
      provider := { (default : Connection) with
        process := some (.child { (default : Child) with output }) }
      peer := .child, endpoint := some ⟨["1"], []⟩, reader := ⟨none, true⟩ }] }

/-- The answer to the request. -/
def reply : Json := Json.object [("jsonrpc", "2.0"), ("id", "1")]

/-- A message that names the version and is nothing else. -/
def bare : Json := Json.object [("jsonrpc", "2.0")]

def bodyOf (message : Json) : List UInt8 := Utf8.encodeString message.compact

set_option maxRecDepth 4000 in
lemma parse_reply : Framing.parse? (bodyOf reply) = some reply := by
  cbv

lemma parse_bare : Framing.parse? (bodyOf bare) = some bare := by
  cbv

lemma finds_reply : Finds 0 (listening (Framing.frame reply)) [reply] := by
  have hfirst : (takeFrame 0 (listening (Framing.frame reply))).1.toOption =
      some (.body (bodyOf reply)) := rfl
  refine .message (ok_of_toOption hfirst) parse_reply ?_
  exact .nothing (ok_of_toOption rfl)

/-- Reading goes on behind the answer to a request. -/
theorem reading_goes_on_past_reply :
    AllDigestible ["1"] [reply] ∧
      Drained 0 ["1"] [reply] (listening (Framing.frame reply))
        (drain 0 2 (listening (Framing.frame reply))).2 := by
  have hopen : ((listening (Framing.frame reply)).session 0).endpoint = some ⟨["1"], []⟩ := rfl
  refine ⟨⟨fun _ => ⟨fun hid => ?_, fun id hid _ => ?_⟩, trivial⟩, ?_⟩
  · cases hid
  · cases hid
    exact Or.inr ⟨rfl, fun _ => Or.inl rfl⟩
  · exact (reading_goes_on_iff finds_reply (by decide) hopen rfl).2.2.2.1

/-- A message with the version and nothing else ends the reading: the answer that comes behind it
reaches neither the hook nor the endpoint. -/
theorem reading_ended_by_bare_message :
    let h := listening (Framing.frame bare ++ Framing.frame reply)
    Finds 0 h [bare, reply] ∧ (consume writeToChild 0 bare h).1.isOk = false ∧
      ((drain 0 3 h).2.session 0).reader.reading = false ∧ (drain 0 3 h).2.hooked.length = 1 := by
  intro h
  have hfirst : (takeFrame 0 h).1.toOption = some (.body (bodyOf bare)) := by decide +kernel
  have hsecond : (takeFrame 0 (consume writeToChild 0 bare (takeFrame 0 h).2).2).1.toOption =
      some (.body (bodyOf reply)) := by decide +kernel
  refine ⟨.message (ok_of_toOption hfirst) parse_bare
    (.message (ok_of_toOption hsecond) parse_reply ?_), by decide +kernel, by decide +kernel⟩
  exact .nothing (ok_of_toOption (by decide +kernel))

end LanguageHost.Wire
