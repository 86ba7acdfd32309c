import LanguageHost.Proofs.Answering
import LanguageHost.Proofs.Teardown

/-!
# The answer to the first request

A session that is started has one request open while its server does what it likes. Its reader takes
in what the server sends, and stops for good at the first message that cannot be taken in. So there
is an answer if the reader comes to a response to the request (`IsFirstAnswer`), and what asking the
server comes to depends on this response alone, whatever else was sent.
-/

namespace LanguageHost

open Act Host Message

variable {γ : Type} {n m : Nat} {h : Host γ}

namespace Message

/-- The reader comes to the message as the answer to a request: it takes in the messages before it,
and none of them is a response to the request. -/
inductive Answered (id : String) (message : Json) : List Json → Prop
  | here {rest : List Json} (h : Responds id message) : Answered id message (message :: rest)
  | later {first : Json} {rest : List Json} (hpass : ¬ Responds id first)
    (hgood : Digestible [id] first) (h : Answered id message rest) :
    Answered id message (first :: rest)

lemma Answered.unique {id : String} {message other : Json} {messages : List Json}
    (hmessage : Answered id message messages) (hother : Answered id other messages) :
    message = other := by
  induction hmessage with
  | here h =>
    cases hother with
    | here => rfl
    | later hpass => exact absurd h hpass
  | later hpass hgood h ih =>
    cases hother with
    | here hresponds => exact absurd hresponds hpass
    | later _ _ hrest => exact ih hrest

/-- The answer to the first request of a session that is started: its reader goes on until the
request is sent, and comes to the answer then. -/
structure IsFirstAnswer (id : String) (early messages : List Json) (message : Json) : Prop where
  reads : ∀ first ∈ early, Digestible [] first
  answered : Answered id message messages

/-- What an endpoint holds for its only request, by what is heard as the answer. -/
inductive Holds (id : String) (heard : Json → Prop) : Endpoint → Prop
  | waiting (h : ∀ message, ¬ heard message) : Holds id heard ⟨[id], []⟩
  | resolved {message : Json} {answer : Option (Except Fault Json)} (h : heard message)
    (hanswer : Resolves message answer) : Holds id heard ⟨[], answer.toList.map (Prod.mk id)⟩

lemma Holds.congr {id : String} {heard other : Json → Prop} {endpoint : Endpoint}
    (hholds : Holds id heard endpoint) (hsame : ∀ message, heard message ↔ other message) :
    Holds id other endpoint := by
  have hheard : heard = other := funext fun message => propext (hsame message)
  rwa [hheard] at hholds

end Message

namespace Session

/-! ## A reader that a fault stops -/

/-- Hands a message to a session whose reader goes on. A fault ends the reading. -/
def handOver (wire : Wire γ) (n : Nat) (message : Json) : Act γ Unit := do
  if ((← get).session n).reader.reading then
    Act.guarded (Wire.consume wire n message) fun _ => Wire.endReading n

/-- Hands messages over, each to the session with a number. -/
def readIn (wire : Wire γ) : List (Nat × Json) → Act γ Unit
  | [] => pure ()
  | (n, message) :: rest => do
    handOver wire n message
    readIn wire rest

/-- The line from a session with a number to a server that does what it likes, where sessions read
until a fault stops them. -/
def Line.attended (c : Conduct γ) (n : Nat) : Line γ where
  wire := c.wire
  meanwhile moment := do
    readIn c.wire (c.mail moment)
    goOn c n

/-- The messages for the session with a number. -/
def heardBy (n : Nat) (mail : List (Nat × Json)) : List Json :=
  (mail.filter (·.1 = n)).map Prod.snd

variable {c : Conduct γ}

lemma sameReader_goOn (c : Conduct γ) : Lasts (SameReader (γ := γ) n) (goOn c n) := by
  intro h
  rcases goOn_run c n h with hrun | ⟨child, -, hrun⟩
  · rw [hrun]
    exact refl_of _ h
  · rw [hrun]
    exact sameReader_setSession rfl rfl rfl

lemma carries_wire (c : Conduct γ) (n : Nat) : Wire.Carries n c.wire where
  sent message h := by
    have hrun : c.wire n message h = Wire.writeToChild n message (goOn c n h).2 :=
      bind_of_fst (goOn_ok c n h)
    rw [hrun]
    exact (Wire.writeToChild_run n message _).1
  keeps message := .bind (sameReader_goOn c) fun _ => Wire.keeps_writeToChild message

section Handing

variable {wire : Wire γ}

lemma handOver_stopped (hstopped : (h.session n).reader.reading = false) (message : Json) :
    handOver wire n message h = (.ok (), h) := by
  unfold handOver
  rw [get_bind, if_neg (by simp [hstopped])]
  rfl

lemma handOver_taken {message : Json} (hreading : (h.session n).reader.reading = true)
    (hok : (Wire.consume wire n message h).1 = .ok ()) :
    handOver wire n message h = (.ok (), (Wire.consume wire n message h).2) := by
  unfold handOver
  rw [get_bind, if_pos hreading]
  exact tryCatch_ok (Prod.ext hok rfl)

lemma handOver_fault {message : Json} {fault : Fault}
    (hreading : (h.session n).reader.reading = true)
    (hfault : (Wire.consume wire n message h).1 = .error fault) :
    handOver wire n message h = Wire.endReading n (Wire.consume wire n message h).2 := by
  unfold handOver
  rw [get_bind, if_pos hreading]
  exact tryCatch_error (Prod.ext hfault rfl)

lemma handOver_ok (wire : Wire γ) (n : Nat) (message : Json) (h : Host γ) :
    (handOver wire n message h).1 = .ok () := by
  unfold handOver
  rw [get_bind]
  split
  · exact guarded_fst h fun _ _ => rfl
  · rfl

lemma readIn_cons (wire : Wire γ) (m : Nat) (message : Json) (rest : List (Nat × Json))
    (h : Host γ) :
    readIn wire ((m, message) :: rest) h = readIn wire rest (handOver wire m message h).2 :=
  bind_of_fst (handOver_ok wire m message h)

lemma readIn_ok (wire : Wire γ) (mail : List (Nat × Json)) (h : Host γ) :
    (readIn wire mail h).1 = .ok () := by
  induction mail generalizing h with
  | nil => rfl
  | cons entry rest ih =>
    rw [readIn_cons]
    exact ih _

/-- What each message and the end of a reading keep, all mail keeps. -/
lemma lasts_readIn {R : Host γ → Host γ → Prop} [Std.Refl R] [IsTrans (Host γ) R]
    (hconsume : ∀ m message, Lasts R (Wire.consume wire m message))
    (hend : ∀ m, Lasts R (Wire.endReading m)) (mail : List (Nat × Json)) :
    Lasts R (readIn wire mail) := by
  induction mail with
  | nil => exact .pure ()
  | cons entry rest ih =>
    refine .bind (.get_all fun h => ?_) fun _ => ih
    split
    · exact .guarded (hconsume entry.1 entry.2) fun _ => hend entry.1
    · exact .pure ()

end Handing

lemma tends_attended (c : Conduct γ) (n : Nat) : (Line.attended c n).Tends n where
  passes moment h :=
    (congrArg Prod.fst (bind_of_fst (readIn_ok c.wire (c.mail moment) h))).trans (goOn_ok c n _)
  keeps moment := .bind (lasts_readIn (keeps_consume c)
    (fun _ => keeps_modifySession (fun _ => rfl) fun _ => rfl) (c.mail moment))
      fun _ => keeps_goOn c n
  staysShut moment := .bind (lasts_readIn (staysShut_consume c)
    (fun _ => .modify fun _ => staysShut_setSession rfl rfl) (c.mail moment))
      fun _ => staysShut_goOn c n
  wire := keeps_wire c

/-! ## What the reader comes to -/

lemma session_endReading (n m : Nat) (h : Host γ) :
    ((Wire.endReading m h).2.session n) =
      if n = m ∧ m < h.sessions.length then
        { h.session n with reader := { (h.session n).reader with reading := false } }
      else h.session n := by
  show (Host.setSession m _ _).session n = _
  rw [session_setSession]
  split
  · rename_i hm
    rw [hm.1]
  · rfl

/-- What other sessions read leaves the session alone. -/
lemma session_handOver_other (c : Conduct γ) (hm : n ≠ m) (message : Json) :
    (handOver c.wire m message h).2.session n = h.session n := by
  obtain ⟨l, a, -⟩ := Wire.Usable.talk_consume (n := m) (Or.inr c.prompt) message h
  cases hreading : (h.session m).reader.reading with
  | false => rw [handOver_stopped hreading]
  | true =>
    cases hresult : (Wire.consume c.wire m message h).1 with
    | ok x =>
      rw [handOver_taken hreading hresult]
      exact a.others n hm
    | error fault =>
      rw [handOver_fault hreading hresult, session_endReading, if_neg fun hsame => hm hsame.1]
      exact a.others n hm

/-- A message that the reader comes to is taken in, and the reading goes on behind it if the message
is digestible. -/
lemma handOver_reads (c : Conduct γ) {endpoint : Endpoint}
    (hopen : (h.session n).endpoint = some endpoint)
    (hreading : (h.session n).reader.reading = true) (message : Json) :
    SameRequests n (Wire.consume c.wire n message h).2 (handOver c.wire n message h).2 ∧
      (((handOver c.wire n message h).2.session n).reader.reading = true ↔
        Digestible endpoint.pending message) := by
  obtain ⟨hooked, htakes, -⟩ := Wire.consume_takes (carries_wire c n) message hopen
  obtain ⟨endpoint₁, hopen₁, -⟩ := htakes.awaits.endpoint
  cases hresult : (Wire.consume c.wire n message h).1 with
  | ok x =>
    rw [handOver_taken hreading hresult]
    exact ⟨refl_of _ _, iff_of_true (htakes.awaits.reading.trans hreading)
      (htakes.ok_iff.1 hresult)⟩
  | error fault =>
    have hbad : ¬ Digestible endpoint.pending message := fun hgood =>
      by cases hresult.symm.trans (htakes.ok_iff.2 hgood)
    have hstopped := session_endReading n n (Wire.consume c.wire n message h).2
    rw [if_pos ⟨rfl, lt_of_endpoint hopen₁⟩] at hstopped
    rw [handOver_fault hreading hresult]
    exact ⟨⟨by rw [hstopped], by rw [hstopped]⟩, iff_of_false (by simp [hstopped]) hbad⟩

lemma heardBy_cons_self (n : Nat) (message : Json) (rest : List (Nat × Json)) :
    heardBy n ((n, message) :: rest) = message :: heardBy n rest := by
  simp [heardBy]

lemma heardBy_cons_other (hm : n ≠ m) (message : Json) (rest : List (Nat × Json)) :
    heardBy n ((m, message) :: rest) = heardBy n rest := by
  simp [heardBy, Ne.symm hm]

/-- Behind the end of the reading no mail changes the session. -/
lemma readIn_stopped (c : Conduct γ) (hstopped : (h.session n).reader.reading = false)
    (mail : List (Nat × Json)) : (readIn c.wire mail h).2.session n = h.session n := by
  induction mail generalizing h with
  | nil => rfl
  | cons entry rest ih =>
    obtain ⟨m, message⟩ := entry
    have hsame : (handOver c.wire m message h).2.session n = h.session n := by
      by_cases hm : n = m
      · subst hm
        rw [handOver_stopped hstopped]
      · exact session_handOver_other c hm message
    rw [readIn_cons, ih (by rw [hsame]; exact hstopped), hsame]

/-- As long as no request is open, mail changes nothing about the requests, and the reader goes on
behind it if it takes in all. -/
lemma readIn_idle (c : Conduct γ) {answers : List (String × Except Fault Json)}
    (hopen : (h.session n).endpoint = some ⟨[], answers⟩) (mail : List (Nat × Json)) :
    SameRequests n h (readIn c.wire mail h).2 ∧
      (((readIn c.wire mail h).2.session n).reader.reading = true ↔
        (h.session n).reader.reading = true ∧ ∀ message ∈ heardBy n mail, Digestible [] message) := by
  induction mail generalizing h with
  | nil => exact ⟨refl_of _ h, (and_iff_left (List.forall_mem_nil _)).symm⟩
  | cons entry rest ih =>
    obtain ⟨m, message⟩ := entry
    by_cases hm : n = m
    case neg =>
      have hsame := session_handOver_other (h := h) c hm message
      have hkept : SameRequests n h (handOver c.wire m message h).2 :=
        ⟨by rw [hsame], by rw [hsame]⟩
      obtain ⟨hrequests, hgoes⟩ := ih (hkept.endpoint.trans hopen)
      rw [readIn_cons, heardBy_cons_other hm, ← hsame]
      exact ⟨trans_of (SameRequests n) hkept hrequests, hgoes⟩
    subst hm
    cases hreading : (h.session n).reader.reading with
    | false =>
      have hsame := readIn_stopped c hreading ((n, message) :: rest)
      rw [hsame, hreading]
      exact ⟨⟨by rw [hsame], by rw [hsame]⟩, by simp⟩
    | true =>
      obtain ⟨hhanded, hgoes⟩ := handOver_reads c hopen hreading message
      have hkept : SameRequests n h (handOver c.wire n message h).2 :=
        trans_of (SameRequests n) (Wire.requests_consume (carries_wire c n) hopen (by simp)) hhanded
      obtain ⟨hrequests, hall⟩ := ih (hkept.endpoint.trans hopen)
      rw [readIn_cons, heardBy_cons_self, hall, hgoes, List.forall_mem_cons]
      exact ⟨trans_of (SameRequests n) hkept hrequests, (and_iff_right rfl).symm⟩

/-- What a session with one open request holds after mail, by induction on it: the answer that its
reader comes to settles the request, and everything else leaves it alone. -/
theorem readIn_answers (c : Conduct γ) {id : String}
    (hopen : (h.session n).endpoint = some ⟨[id], []⟩)
    (hreading : (h.session n).reader.reading = true) (mail : List (Nat × Json)) :
    ∃ endpoint, ((readIn c.wire mail h).2.session n).endpoint = some endpoint ∧
      Holds id (fun message => Answered id message (heardBy n mail)) endpoint := by
  induction mail generalizing h with
  | nil => exact ⟨_, hopen, .waiting fun message hheard => by cases hheard⟩
  | cons entry rest ih =>
    obtain ⟨m, message⟩ := entry
    rw [readIn_cons]
    by_cases hm : n = m
    case neg =>
      have hsame := session_handOver_other (h := h) c hm message
      rw [heardBy_cons_other hm]
      exact ih (by rw [hsame]; exact hopen) (by rw [hsame]; exact hreading)
    subst hm
    rw [heardBy_cons_self]
    obtain ⟨hhanded, hgoes⟩ := handOver_reads c hopen hreading message
    by_cases hresponds : Responds id message
    · obtain ⟨answer, hanswer, hends⟩ :=
        Wire.consume_resolves (carries_wire c n) hopen hresponds
      obtain ⟨hrest, -⟩ := readIn_idle c (hhanded.endpoint.trans hends) rest
      exact ⟨_, hrest.endpoint.trans (hhanded.endpoint.trans hends),
        .resolved (.here hresponds) hanswer⟩
    · have hkept : SameRequests n h (handOver c.wire n message h).2 :=
        trans_of (SameRequests n) (Wire.requests_consume (carries_wire c n) hopen
          (by simpa using hresponds)) hhanded
      cases hdigests : ((handOver c.wire n message h).2.session n).reader.reading with
      | false =>
        have hbad : ¬ Digestible [id] message := fun hgood => by
          cases hdigests.symm.trans (hgoes.2 hgood)
        refine ⟨_, by rw [readIn_stopped c hdigests, hkept.endpoint, hopen], .waiting ?_⟩
        intro other hheard
        cases hheard with
        | here hother => exact hresponds hother
        | later _ hgood => exact hbad hgood
      | true =>
        obtain ⟨endpoint, hends, hholds⟩ := ih (hkept.endpoint.trans hopen) hdigests
        refine ⟨endpoint, hends, hholds.congr fun other => ⟨?_, fun hheard => ?_⟩⟩
        · exact .later hresponds (hgoes.1 hdigests)
        · cases hheard with
          | here hother => exact absurd hother hresponds
          | later _ _ hrest => exact hrest

/-- On the line only the child goes on by itself behind the mail. -/
lemma sameReader_meanwhile (c : Conduct γ) (moment : Moment) (h : Host γ) :
    SameReader n (readIn c.wire (c.mail moment) h).2
      ((Line.attended c n).meanwhile moment h).2 := by
  have hrun : (Line.attended c n).meanwhile moment h =
      goOn c n (readIn c.wire (c.mail moment) h).2 := bind_of_fst (readIn_ok c.wire _ h)
  rw [hrun]
  exact sameReader_goOn c _

/-! ## Asking the server to start -/

/-- What asking comes to, by what is heard as the answer, where no answer is this fault. -/
inductive Answers (heard : Json → Prop) (unanswered : Fault) : Except Fault Unit → Prop
  | silence (h : ∀ message, ¬ heard message) : Answers heard unanswered (.error unanswered)
  | spoiled {message : Json} {fault : Fault} (h : heard message)
    (herror : part message "error" ≠ .null)
    (hspoiled : Failure.ofError (part message "error") = .error fault) :
    Answers heard unanswered (.error unanswered)
  | failure {message : Json} {fault : Fault} (h : heard message)
    (herror : part message "error" ≠ .null)
    (hfailure : Failure.ofError (part message "error") = .ok fault) :
    Answers heard unanswered (.error fault)
  | result {message capabilities : Json} (h : heard message)
    (herror : part message "error" = .null)
    (hresult : capabilitiesOf (part message "result") = .ok capabilities) :
    Answers heard unanswered (.ok ())
  | unfit {message : Json} {fault : Fault} (h : heard message)
    (herror : part message "error" = .null)
    (hunfit : capabilitiesOf (part message "result") = .error fault) :
    Answers heard unanswered (.error fault)

lemma Answers.congr {heard other : Json → Prop} {unanswered : Fault} {outcome : Except Fault Unit}
    (hanswers : Answers heard unanswered outcome)
    (hsame : ∀ message, heard message ↔ other message) : Answers other unanswered outcome := by
  have hheard : heard = other := funext fun message => propext (hsame message)
  rwa [hheard] at hanswers

/-- A request over an endpoint that has just been opened is the only one. -/
lemma request_awaits (c : Conduct γ) (hopen : (h.session n).endpoint = some ⟨[], []⟩)
    (method : String) (params : Json) :
    let id := toString ((h.session n).asked + 1)
    let sent := request (Line.attended c n).wire n method params h
    sent.1 = .ok id ∧ (sent.2.session n).endpoint = some ⟨[id], []⟩ ∧
      (sent.2.session n).reader.reading = (h.session n).reader.reading := by
  intro id sent
  set noted : Session :=
    { h.session n with asked := (h.session n).asked + 1, endpoint := some ⟨[id], []⟩ }
  have hrun : sent = (c.wire n (Message.request id method params) >>= fun _ => pure id)
      (h.setSession n noted) := by
    show request (Line.attended c n).wire n method params h = _
    unfold request
    rw [get_bind, hopen]
    rfl
  have hnoted : (h.setSession n noted).session n = noted := by
    rw [session_setSession, if_pos ⟨rfl, lt_of_endpoint hopen⟩]
  have hsent := (carries_wire c n).keeps (Message.request id method params) (h.setSession n noted)
  rw [hrun, bind_of_fst ((carries_wire c n).sent _ _)]
  exact ⟨rfl, hsent.endpoint.trans (by rw [hnoted]), hsent.reading.trans (by rw [hnoted])⟩

/-- The answer to a request is what the endpoint holds for it. -/
lemma answer?_eq {endpoint : Endpoint} (hopen : (h.session n).endpoint = some endpoint)
    (id : String) : answer? n id h =
      ((findMember? id endpoint.answers).elim (.ok none) (Except.map some), h) := by
  unfold answer?
  rw [get_bind, hopen]
  dsimp only
  rcases findMember? id endpoint.answers with _ | fault | result <;> rfl

/-- Why there is no answer: there cannot be any waiting for it, or it did not come in time. -/
def unanswered (server seconds : String) (timeout : Json) : Fault :=
  (Waiting.fault? timeout).getD (.problem (.startUnanswered server seconds))

/-- **The first request.** What asking the server to start comes to depends on the answer alone that
the reader comes to. -/
theorem greet_answers (c : Conduct γ) (timeout : Json)
    (hopen : (h.session n).endpoint = some ⟨[], []⟩) :
    ∃ server seconds, Answers (fun message => (h.session n).reader.reading = true ∧
        Answered (toString ((h.session n).asked + 1)) message (heardBy n (c.mail .asked)))
      (unanswered server seconds timeout) (greet (.attended c n) n timeout h).1 := by
  refine ⟨h.definitionId (h.session n), timeout.shown.display, ?_⟩
  obtain ⟨hsent, hopen₁, hreading₁⟩ := request_awaits c hopen "initialize"
    (startParams ((h.session n).rootUri h.platform.cwd))
  set id := toString ((h.session n).asked + 1)
  set h₁ := (request (Line.attended c n).wire n "initialize"
    (startParams ((h.session n).rootUri h.platform.cwd)) h).2
  set h₂ := ((Line.attended c n).meanwhile .asked h₁).2
  set heard : Json → Prop := fun message => (h.session n).reader.reading = true ∧
    Answered id message (heardBy n (c.mail .asked))
  obtain ⟨endpoint, hopen₂, hholds⟩ : ∃ endpoint, (h₂.session n).endpoint = some endpoint ∧
      Holds id heard endpoint := by
    have hgone := (sameReader_meanwhile (n := n) c .asked h₁).endpoint
    cases hreading : (h.session n).reader.reading with
    | false =>
      have hstopped := readIn_stopped c (hreading₁.trans hreading) (c.mail .asked)
      refine ⟨_, hgone.trans (by rw [hstopped, hopen₁]), .waiting fun message hheard => ?_⟩
      cases hreading.symm.trans hheard.1
    | true =>
      obtain ⟨endpoint, hends, hholds⟩ :=
        readIn_answers c hopen₁ (hreading₁.trans hreading) (c.mail .asked)
      exact ⟨endpoint, hgone.trans hends, hholds.congr fun message => (and_iff_right hreading).symm⟩
  have hanswer := answer?_eq hopen₂ id
  have hcame : ((Line.attended c n).meanwhile .asked h₁).1 = .ok () :=
    (tends_attended c n).passes .asked h₁
  have hvain (hnone : findMember? id endpoint.answers = none) :
      (greet (.attended c n) n timeout h).1 =
        .error (unanswered (h.definitionId (h.session n)) timeout.shown.display timeout) := by
    have hnothing : answer? n id h₂ = (.ok none, h₂) := hanswer.trans (by rw [hnone]; rfl)
    unfold greet unanswered
    rw [get_bind, bind_of_fst hsent, bind_of_fst hcame, bind_ok hnothing]
    cases Waiting.fault? timeout <;> rfl
  cases hholds with
  | waiting hnone =>
    rw [hvain rfl]
    exact .silence hnone
  | @resolved message _ hheard hresolves =>
    cases hresolves with
    | spoiled herror hspoiled =>
      rw [hvain rfl]
      exact .spoiled hheard herror hspoiled
    | @failure fault herror hfailure =>
      have hfailed : answer? n id h₂ = (.error fault, h₂) :=
        hanswer.trans (by simp [findMember?, Except.map])
      unfold greet
      rw [get_bind, bind_of_fst hsent, bind_of_fst hcame, bind_error hfailed]
      exact .failure hheard herror hfailure
    | result herror =>
      have hfinished : answer? n id h₂ = (.ok (some (part message "result")), h₂) :=
        hanswer.trans (by simp [findMember?, Except.map])
      unfold greet
      rw [get_bind, bind_of_fst hsent, bind_of_fst hcame, bind_ok hfinished]
      dsimp only
      cases hresult : capabilitiesOf (part message "result") with
      | ok capabilities => exact .result hheard herror hresult
      | error fault => exact .unfit hheard herror hresult

/-- The same of all that a start does up to the answer. -/
theorem approach_answers (c : Conduct γ) (hwired : (h.session n).isWired = true) (timeout : Json)
    (hlaunch : (launch n h).1 = .ok ()) : ∃ server seconds,
      Answers (IsFirstAnswer (toString ((h.session n).asked + 1)) (heardBy n (c.mail .connected))
          (heardBy n (c.mail .asked)))
        (unanswered server seconds timeout) (approach (.attended c n) n timeout h).1 := by
  obtain ⟨-, provider, hlaunched⟩ := launch_run hwired hlaunch
  set h₁ := (launch n h).2
  have hopen : (h₁.session n).endpoint = some ⟨[], []⟩ := by rw [hlaunched]
  have hreading : (h₁.session n).reader.reading = true := by rw [hlaunched]
  obtain ⟨hrequests, hgoes⟩ := readIn_idle c hopen (c.mail .connected)
  have hgone := sameReader_meanwhile (n := n) c .connected h₁
  set h₂ := ((Line.attended c n).meanwhile .connected h₁).2
  have hasked : (h₂.session n).asked = (h.session n).asked :=
    (hgone.asked.trans hrequests.asked).trans (by rw [hlaunched])
  have happroach : approach (.attended c n) n timeout h =
      greet (.attended c n) n timeout h₂ := by
    unfold approach
    rw [bind_of_fst hlaunch, bind_of_fst ((tends_attended c n).passes .connected h₁)]
  have hheard (message : Json) : (h₂.session n).reader.reading = true ∧
      Answered (toString ((h.session n).asked + 1)) message (heardBy n (c.mail .asked)) ↔
        IsFirstAnswer (toString ((h.session n).asked + 1)) (heardBy n (c.mail .connected))
          (heardBy n (c.mail .asked)) message := by
    rw [hgone.reading, hgoes, and_iff_right hreading]
    exact ⟨fun hboth => ⟨hboth.1, hboth.2⟩, fun hfirst => ⟨hfirst.reads, hfirst.answered⟩⟩
  obtain ⟨server, seconds, hanswers⟩ :=
    greet_answers c timeout (hgone.endpoint.trans (hrequests.endpoint.trans hopen))
  rw [happroach]
  rw [hasked] at hanswers
  exact ⟨server, seconds, hanswers.congr hheard⟩

end Session

end LanguageHost
