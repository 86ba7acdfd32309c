import LanguageHost.Host.Session
import LanguageHost.Proofs.Wire

/-!
# How sessions stand while messages come in

While a session is started or stopped, the readers of all sessions go on: at every moment they may
take in messages, and nothing is assumed about these. `Line.posted` is the line for that. A message
that is sent over it is only sent; whatever comes back is part of the mail.

How a session stands is seen from three flags: its endpoint is open, it is registered, and its
server was told `initialized`. Every step changes the flags of the sessions by a function of their
own, as `Host.Moves` says, and steps in a row compose. What starting and stopping does to a session
is then read off a composition of such functions, with the mail as their only input.
-/

namespace LanguageHost

open Act Host

variable {γ α β : Type} {n : Nat} {h h' h'' : Host γ}

namespace Session

/-! ## Mail -/

/-- Takes in messages, each for the session with a number. A fault is passed over. -/
def deliver : List (Nat × Json) → Act γ Unit
  | [] => pure ()
  | (n, message) :: rest => do
    Act.guarded (Wire.consume Wire.writeToChild n message) fun _ => pure ()
    deliver rest

/-- What comes in at each moment, for any session. -/
abbrev Mail := Moment → List (Nat × Json)

/-- The line on which messages are sent, and the mail is taken in meanwhile. -/
def Line.posted (mail : Mail) : Line γ :=
  ⟨Wire.writeToChild, fun moment => deliver (mail moment)⟩

/-- The message answers the first request of a session. -/
def answersStart (message : Json) : Bool :=
  match Message.isStartResult message with
  | .ok isStart => isStart
  | .error _ => false

lemma answersStart_iff (message : Json) :
    answersStart message = true ↔ Message.isStartResult message = .ok true := by
  unfold answersStart
  cases Message.isStartResult message <;> simp

/-- The first request of a session is answered among these messages. -/
def answered (messages : List (Nat × Json)) (n : Nat) : Bool :=
  messages.any fun entry => entry.1 = n && answersStart entry.2

@[simp] lemma answered_nil (n : Nat) : answered [] n = false := rfl

@[simp] lemma answered_append (messages messages' : List (Nat × Json)) (n : Nat) :
    answered (messages ++ messages') n = (answered messages n || answered messages' n) :=
  List.any_append

/-! ## Flags -/

/-- How a session stands. -/
@[ext]
structure Standing where
  isOpen : Bool
  isActive : Bool
  isGreeted : Bool

namespace Standing

/-- An answer to the first request comes in, or not. Where no endpoint is open nothing comes of
it. -/
def hear (answer : Bool) (s : Standing) : Standing :=
  ⟨s.isOpen, s.isActive || (s.isOpen && answer), s.isGreeted || (s.isOpen && answer)⟩

@[simp] lemma hear_false (s : Standing) : s.hear false = s := by
  simp [hear]

@[simp] lemma hear_hear (answer answer' : Bool) (s : Standing) :
    (s.hear answer).hear answer' = s.hear (answer || answer') := by
  simp [hear, Bool.and_or_distrib_left, Bool.or_assoc]

def opened (s : Standing) : Standing := { s with isOpen := true }

def shut (s : Standing) : Standing := { s with isOpen := false }

def registered (s : Standing) : Standing := { s with isActive := true }

def unregistered (s : Standing) : Standing := { s with isActive := false }

end Standing

/-- Two states of one session whose server is reached in the same way, if at all. -/
structure SameOrigin (s s' : Session) : Prop where
  definition : s'.definition = s.definition
  hook : s'.hook = s.hook
  peer : s'.peer = s.peer

lemma SameOrigin.refl (s : Session) : SameOrigin s s :=
  ⟨rfl, rfl, rfl⟩

lemma SameOrigin.trans {s s' s'' : Session} (a : SameOrigin s s') (b : SameOrigin s' s'') :
    SameOrigin s s'' :=
  ⟨b.definition.trans a.definition, b.hook.trans a.hook, b.peer.trans a.peer⟩

lemma SameOrigin.isWired {s s' : Session} (a : SameOrigin s s') : s'.isWired = s.isWired := by
  rw [Session.isWired, Session.isWired, a.peer]

lemma SameEnd.origin {s s' : Session} (a : SameEnd s s') : SameOrigin s s' :=
  ⟨a.definition, a.hook, a.peer⟩

end Session

open Session

namespace Host

/-- How a session stands in a host. -/
def standing (n : Nat) (h : Host γ) : Standing :=
  ⟨(h.session n).endpoint.isSome, decide (n ∈ h.active), h.greeted n⟩

/-- From one host to another the wired sessions moved from one standing to another, and what they
said meanwhile was in the right order. -/
structure Moves (f : Nat → Standing → Standing) (h h' : Host γ) : Prop where
  undisturbed : Undisturbed h h'
  origins : ∀ m, SameOrigin (h.session m) (h'.session m)
  distinct : h.active.Nodup → h'.active.Nodup
  said : ∀ m, (h.session m).isWired = true → ∃ l, h'.said m = h.said m ++ l ∧ Opened false l
  standing : h.active.Nodup → ∀ m, (h.session m).isWired = true →
    h'.standing m = f m (h.standing m)

/-- Nothing moved. -/
abbrev Still : Host γ → Host γ → Prop :=
  Moves fun _ s => s

/-- The messages change how the sessions stand. -/
def hears (messages : List (Nat × Json)) (m : Nat) (s : Standing) : Standing :=
  s.hear (answered messages m)

/-- One session changes, and the others do not. -/
def alone (n : Nat) (change : Standing → Standing) (m : Nat) (s : Standing) : Standing :=
  if m = n then change s else s

namespace Moves

variable {f g : Nat → Standing → Standing}

lemma trans (a : Moves f h h') (b : Moves g h' h'') : Moves (fun m s => g m (f m s)) h h'' where
  undisturbed := a.undisturbed.trans b.undisturbed
  origins m := (a.origins m).trans (b.origins m)
  distinct hdistinct := b.distinct (a.distinct hdistinct)
  said m hwired := by
    obtain ⟨l, hl, hopened⟩ := a.said m hwired
    obtain ⟨l', hl', hopened'⟩ := b.said m ((a.origins m).isWired.trans hwired)
    exact ⟨l ++ l', by rw [hl', hl, List.append_assoc], hopened.append hopened'⟩
  standing hdistinct m hwired := by
    rw [b.standing (a.distinct hdistinct) m ((a.origins m).isWired.trans hwired),
      a.standing hdistinct m hwired]

lemma congr (a : Moves f h h') (hfg : ∀ m, f m (h.standing m) = g m (h.standing m)) :
    Moves g h h' :=
  ⟨a.undisturbed, a.origins, a.distinct, a.said, fun hdistinct m hwired =>
    (a.standing hdistinct m hwired).trans (hfg m)⟩

end Moves

/-- A talk in which nobody is registered leaves the sessions where they stood. -/
lemma Talk.still {l : List Sent} (a : Talk false n h h' l)
    (hl : (h.session n).isWired = true → Opened false l) : Still h h' where
  undisturbed := a.undisturbed
  origins m := (a.sameEnd m).origin
  distinct := a.nodup
  said m hwired := by
    by_cases hm : m = n
    · exact ⟨l, hm ▸ a.said, hl (hm ▸ hwired)⟩
    · exact ⟨[], by rw [a.said_other hm, List.append_nil], trivial⟩
  standing _ m _ := by
    have hactive : h'.active = h.active := a.active.resolve_right (by simp)
    have hgreeted : h'.greeted m = h.greeted m := by
      by_cases hm : m = n
      · rw [greeted, hm, a.said, List.any_append, a.unstarted, Bool.or_false, greeted]
      · rw [greeted, a.said_other hm, greeted]
    rw [Host.standing, Host.standing, (a.sameEnd m).endpoint, hactive, hgreeted]

lemma Chats.still (a : Chats false n false h h') : Still h h' := by
  obtain ⟨l, a, hl⟩ := a
  exact a.still fun _ => hl.opened

instance : Std.Refl (Still (γ := γ)) where
  refl h := (Talk.refl false 0 h).still fun _ => trivial

instance : IsTrans (Host γ) Still where
  trans _ _ _ a b := a.trans b

/-! ## Mail moves sessions -/

lemma moves_consume (n : Nat) (message : Json) (h : Host γ) :
    Moves (hears [(n, message)]) h (Wire.consume Wire.writeToChild n message h).2 := by
  have hprompt := Wire.prompt_writeToChild (γ := γ)
  by_cases hwelcome : Wire.Welcomes h n message
  · obtain ⟨l, a, hlists, hjoined⟩ := hprompt.talk_consume hwelcome
    have hopened := (Wire.orderly_started hlists).opened
    have hin := hjoined (Wire.writeToChild_run n _ h).1
    refine ⟨a.undisturbed, fun m => (a.sameEnd m).origin, a.nodup, fun m hwired => ?_,
      fun _ m _ => ?_⟩
    · by_cases hm : m = n
      · subst hm
        exact ⟨_, a.said, hopened⟩
      · exact ⟨[], by rw [a.said_other hm, List.append_nil], trivial⟩
    · by_cases hm : m = n
      · subst hm
        have hgreeted : (Wire.consume Wire.writeToChild m message h).2.greeted m = true := by
          rw [greeted, a.said]
          simp [Sent.starts, Sent.notice?]
        have hanswer := (answersStart_iff message).2 hwelcome.2
        rw [standing, (a.sameEnd m).endpoint, hgreeted]
        simp [hears, answered, hanswer, Standing.hear, standing, hwelcome.1, hin]
      · have hactive : m ∈ (Wire.consume Wire.writeToChild n message h).2.active ↔ m ∈ h.active :=
          ⟨fun hmem => (a.mem_active hmem).resolve_right hm, a.subset_active⟩
        have hother : answered [(n, message)] m = false := by simp [answered, Ne.symm hm]
        rw [hears, hother, Standing.hear_false]
        simp only [standing, (a.sameEnd m).endpoint, hactive, greeted, a.said_other hm]
  · obtain ⟨l, a, horderly, -⟩ := Wire.Usable.talk_consume_idle (Or.inr hprompt) hwelcome
    refine (a.still fun hwired => (horderly hwired).opened).congr fun m => ?_
    rw [hears]
    cases hanswer : answered [(n, message)] m with
    | false => rw [Standing.hear_false]
    | true =>
      obtain ⟨rfl, hstart⟩ : n = m ∧ answersStart message = true := by
        simpa [answered] using hanswer
      have hclosed : (h.session n).endpoint.isSome = false :=
        Bool.eq_false_iff.2 fun hopen => hwelcome ⟨hopen, (answersStart_iff message).1 hstart⟩
      simp [standing, Standing.hear, hclosed]

/-- The mail is taken in message by message. -/
lemma deliver_cons (n : Nat) (message : Json) (rest : List (Nat × Json)) (h : Host γ) :
    deliver ((n, message) :: rest) h =
      deliver rest (Wire.consume Wire.writeToChild n message h).2 :=
  bind_ok (guarded_pass (Wire.consume Wire.writeToChild n message) h)

/-- Taking in mail always succeeds. -/
theorem moves_deliver (messages : List (Nat × Json)) (h : Host γ) :
    (deliver messages h).1 = .ok () ∧ Moves (hears messages) h (deliver messages h).2 := by
  induction messages generalizing h with
  | nil => exact ⟨rfl, (refl_of Still h).congr fun m => by simp [hears]⟩
  | cons entry rest ih =>
    obtain ⟨n, message⟩ := entry
    rw [deliver_cons]
    refine ⟨(ih _).1, ((moves_consume n message h).trans (ih _).2).congr fun m => ?_⟩
    rw [hears, hears, hears, Standing.hear_hear, ← answered_append]
    rfl

lemma moves_meanwhile (mail : Mail) (moment : Moment) (h : Host γ) :
    ((Line.posted mail).meanwhile moment h).1 = .ok () ∧
      Moves (hears (mail moment)) h ((Line.posted mail).meanwhile moment h).2 :=
  moves_deliver (mail moment) h

end Host

/-! ## Parts of starting and stopping -/

namespace Act

variable {f : Nat → Standing → Standing}

/-- What stands still after a move does not add to it. -/
lemma moves_bind {a : Act γ α} {k : α → Act γ β} {h₀ : Host γ} (ha : Moves f h₀ (a h).2)
    (hk : ∀ x, Lasts Still (k x)) : Moves f h₀ ((a >>= k) h).2 := by
  rcases hres : a h with ⟨result, h'⟩
  rw [hres] at ha
  cases result with
  | ok x =>
    rw [bind_ok hres]
    exact ha.trans (hk x h')
  | error fault =>
    rw [bind_error hres]
    exact ha

lemma moves_guarded {a : Act γ Unit} {handler : Fault → Act γ Unit} (ha : Moves f h (a h).2)
    (hhandler : ∀ fault, Lasts Still (handler fault)) : Moves f h (Act.guarded a handler h).2 := by
  rcases hres : a h with ⟨result, h'⟩
  rw [hres] at ha
  cases result with
  | ok x =>
    rw [Act.guarded, tryCatch_ok hres]
    exact ha
  | error fault =>
    rw [Act.guarded, tryCatch_error hres]
    exact ha.trans (hhandler fault h')

lemma still_modifySession {change : Session → Session} (hchange : ∀ s, SameEnd s (change s)) :
    Lasts (Still (γ := γ)) (Act.modifySession n change) :=
  .modify fun _ => (talk_setSession false (hchange _)).still fun _ => trivial

lemma still_onPlatform (task : Task α) : Lasts (Still (γ := γ)) (Act.onPlatform task) :=
  fun _ =>
    { undisturbed := ⟨rfl, rfl, rfl, rfl, rfl, rfl, rfl, rfl, rfl, rfl⟩
      origins := fun _ => .refl _
      distinct := id
      said := fun _ _ => ⟨[], (List.append_nil _).symm, trivial⟩
      standing := fun _ _ _ => rfl }

lemma still_logFor (level : Level) (message : Text) (extra : Tags) :
    Lasts (Still (γ := γ)) (Wire.logFor n level message extra) :=
  .get fun h => (talk_log false 0 h _ _ _ _).still fun _ => trivial

end Act

namespace Session

/-- What neither greets nor informs may be sent at any time. -/
lemma chats_writeToChild {message : Json} (hplain : (Sent.message message).starts = false)
    (hquiet : (Sent.message message).informs = false) :
    Chats false n false h (Wire.writeToChild n message h).2 := by
  obtain ⟨hsettings, hfolders⟩ := Sent.informs_eq_false.1 hquiet
  have hsay : Sayable false h n (.message message) :=
    ⟨truthful_of_notice? hsettings, by simp [hplain]⟩
  refine ⟨_, (talk_noteSent hsay).trans (Wire.writeToChild_run n message h).2, ⟨?_, trivial⟩, ?_⟩
  · intro hinforms
    rw [hquiet] at hinforms
    cases hinforms
  · exact List.forall_mem_singleton.2 (lists_of_folders? hfolders)

/-- A request over an open endpoint is sent. -/
lemma request_run (mail : Mail) {method : String}
    (hmethod : method = "initialize" ∨ method = "shutdown") (params : Json)
    (hopen : (h.session n).endpoint.isSome = true) :
    ∃ id, (request (Line.posted mail).wire n method params h).1 = .ok id ∧
      Chats false n false h (request (Line.posted mail).wire n method params h).2 := by
  obtain ⟨endpoint, hendpoint⟩ := Option.isSome_iff_exists.1 hopen
  set id := toString ((h.session n).asked + 1) with hid
  set noted : Session :=
    { h.session n with
      asked := (h.session n).asked + 1
      endpoint := some { endpoint with pending := endpoint.pending ++ [id] } }
  have hrun : request (Line.posted mail).wire n method params h =
      (Wire.writeToChild n (Message.request id method params) >>= fun _ => pure id)
        (h.setSession n noted) := by
    unfold request
    rw [get_bind, hendpoint]
    rfl
  have hok := (Wire.writeToChild_run n (Message.request id method params) (h.setSession n noted)).1
  have hnotice : Notice.ofMessage? (Message.request id method params) = none :=
    Notice.ofMessage?_request hmethod id params
  rw [hrun, bind_of_fst hok]
  refine ⟨id, rfl, ?_⟩
  have hsame : SameEnd (h.session n) noted := ⟨rfl, rfl, rfl, rfl, rfl, hopen.symm, rfl⟩
  have hnoted : Chats false n false h (h.setSession n noted) :=
    (talk_setSession false hsame).chats false
  refine trans_of (Chats false n false) hnoted
    (chats_writeToChild ?_ (Sent.informs_of_notice? hnotice))
  simp [Sent.starts, Sent.notice?, hnotice]

lemma lasts_answer? (id : String) :
    Lasts (Chats (γ := γ) false n false) (answer? n id) := by
  refine .get_all fun h => ?_
  split
  · exact .pure _
  · split
    · exact .pure _
    · exact .pure _
    · exact .throw _

/-- A request, and the mail that comes in until its answer is looked for. -/
lemma moves_request (mail : Mail) {method : String}
    (hmethod : method = "initialize" ∨ method = "shutdown") (params : Json)
    (hopen : (h.session n).endpoint.isSome = true) {k : Option Json → Act γ Unit}
    (hk : ∀ answer, Lasts Still (k answer)) :
    Moves (hears (mail .asked)) h
      ((do
        let id ← request (Line.posted mail).wire n method params
        (Line.posted mail).meanwhile .asked
        k (← answer? n id)) h).2 := by
  obtain ⟨id, hok, hsent⟩ := request_run mail hmethod params hopen
  obtain ⟨hok', hmail⟩ := moves_meanwhile mail .asked
    (request (Line.posted mail).wire n method params h).2
  rw [bind_of_fst hok, bind_of_fst hok']
  exact (hsent.still.trans hmail).trans (Lasts.bind (fun h => (lasts_answer? id h).still) hk _)

lemma moves_greet (mail : Mail) (timeout : Json) (hopen : (h.session n).endpoint.isSome = true) :
    Moves (hears (mail .asked)) h (greet (.posted mail) n timeout h).2 := by
  unfold greet
  rw [get_bind]
  refine moves_request mail (Or.inl rfl) _ hopen fun answer => ?_
  cases answer with
  | none =>
    dsimp only
    cases Waiting.fault? timeout with
    | none => exact .throw _
    | some fault => exact .bind (.throw _) fun _ => .throw _
  | some result =>
    refine .bind (.ofExcept _) fun capabilities => ?_
    exact still_modifySession fun s => ⟨rfl, rfl, rfl, rfl, rfl, rfl, rfl⟩

lemma moves_dismiss (mail : Mail) (hopen : (h.session n).endpoint.isSome = true) :
    Moves (hears (mail .asked)) h (dismiss (.posted mail) n h).2 := by
  refine moves_request mail (Or.inr rfl) _ hopen fun answer => ?_
  cases answer with
  | none => exact .throw _
  | some result =>
    intro h'
    refine (chats_writeToChild (by simp [Sent.starts, Sent.notice?]) ?_).still
    simp [Sent.informs, Sent.settings?, Sent.folders?, Sent.notice?, Notice.settings?,
      Notice.folders?]

end Session

/-! ## Steps of one session -/

namespace Host

lemma origins_setSession {s : Session} (hs : SameOrigin (h.session n) s) (m : Nat) :
    SameOrigin (h.session m) ((h.setSession n s).session m) := by
  rw [session_setSession]
  split
  · rename_i hm
    rw [hm.1]
    exact hs
  · exact .refl _

lemma lt_of_isWired (hwired : (h.session n).isWired = true) : n < h.sessions.length := by
  by_contra hge
  rw [session_of_le (Nat.le_of_not_lt hge)] at hwired
  cases hwired

/-- The session's endpoint is opened or shut. -/
lemma moves_setSession {s : Session} (hs : SameOrigin (h.session n) s) :
    Moves (alone n fun standing => { standing with isOpen := s.endpoint.isSome }) h
      (h.setSession n s) where
  undisturbed := ⟨rfl, rfl, rfl, rfl, rfl, rfl, rfl, rfl, rfl, rfl⟩
  origins := origins_setSession hs
  distinct := id
  said m _ := ⟨[], (List.append_nil _).symm, trivial⟩
  standing _ m hwired := by
    rw [standing, alone, session_setSession]
    by_cases hm : m = n
    · subst hm
      rw [if_pos ⟨rfl, lt_of_isWired hwired⟩, if_pos rfl]
      rfl
    · rw [if_neg fun hsame => hm hsame.1, if_neg hm]
      rfl

/-- A session that keeps its server and its endpoint stands where it stood. -/
lemma still_setSession {s : Session} (hs : SameOrigin (h.session n) s)
    (hopen : s.endpoint = (h.session n).endpoint) : Still h (h.setSession n s) := by
  refine (moves_setSession hs).congr fun m => ?_
  by_cases hm : m = n
  · subst hm
    rw [alone, if_pos rfl, hopen]
    rfl
  · rw [alone, if_neg hm]

lemma moves_register (n : Nat) (h : Host γ) :
    Moves (alone n Standing.registered) h (h.register n) where
  undisturbed := undisturbed_register n h
  origins m := by
    rw [session_register]
    exact .refl _
  distinct := nodup_active_register n
  said m _ := ⟨[], by simp, trivial⟩
  standing _ m _ := by
    simp only [standing, session_register, greeted, said_register, mem_active_register, alone]
    by_cases hm : m = n
    · simp [hm, Standing.registered]
    · simp [hm]

lemma moves_unregister (n : Nat) (h : Host γ) :
    Moves (alone n Standing.unregistered) h (h.unregister n) where
  undisturbed := ⟨rfl, rfl, rfl, rfl, rfl, rfl, rfl, rfl, rfl, rfl⟩
  origins m := .refl _
  distinct hdistinct := hdistinct.erase n
  said m _ := ⟨[], (List.append_nil _).symm, trivial⟩
  standing hdistinct m _ := by
    have hsession : (h.unregister n).session m = h.session m := rfl
    have hgreeted : (h.unregister n).greeted m = h.greeted m := rfl
    simp only [standing, mem_active_unregister n m hdistinct, hsession, hgreeted, alone]
    by_cases hm : m = n
    · simp [hm, Standing.unregistered]
    · simp [hm]

end Host

/-! ## Starting and stopping -/

namespace Session

lemma still_closeInput : Lasts (Still (γ := γ)) (closeInput n) := by
  refine .get_all fun h => ?_
  cases (h.session n).provider.child? with
  | none => exact .pure ()
  | some child =>
    refine .bind (still_modifySession fun s => ⟨rfl, rfl, rfl, rfl, rfl, rfl, rfl⟩) fun _ => ?_
    split
    · exact .throw _
    · exact .pure _

lemma still_releaseWriter : Lasts (Still (γ := γ)) (releaseWriter n) := by
  refine .get_all fun h => ?_
  split
  · refine .bind still_closeInput fun _ => .modify fun h' => ?_
    exact still_setSession ⟨rfl, rfl, rfl⟩ rfl
  · exact .pure ()

/-- The endpoint is shut before the last mail comes in. -/
lemma moves_release (mail : Mail) (n : Nat) (h : Host γ) :
    Moves (fun m s => hears (mail .closed) m (alone n Standing.shut m s)) h
      (release (.posted mail) n h).2 := by
  set shut := h.setSession n { h.session n with endpoint := none }
  have hshut : Moves (alone n Standing.shut) h shut :=
    moves_setSession (s := { h.session n with endpoint := none }) ⟨rfl, rfl, rfl⟩
  obtain ⟨hok, hmail⟩ := moves_meanwhile mail .closed shut
  have hrun : release (.posted mail) n h = (do
      releaseWriter n
      let s := (← get).session n
      let provider ← Act.onPlatform (s.provider.stop Connection.grace)
      Act.modifySession n fun s =>
        { s with
          provider
          reader := { s.reader with reading := false }
          held := { s.held with reader := false, thread := false } })
      ((Line.posted mail).meanwhile .closed shut).2 := bind_of_fst hok
  rw [hrun]
  refine (hshut.trans hmail).trans (Lasts.bind still_releaseWriter (fun _ => ?_) _)
  refine .get_all fun h' => .bind (still_onPlatform _) fun provider => .modify fun h'' => ?_
  exact still_setSession ⟨rfl, rfl, rfl⟩ rfl

/-- Mail comes in while the server is dismissed, if an endpoint is open. -/
lemma moves_farewell (mail : Mail) (n : Nat) (h : Host γ) :
    (farewell (.posted mail) n h).1 = .ok () ∧
      Moves (hears (if (h.session n).endpoint.isSome then mail .asked else [])) h
        (farewell (.posted mail) n h).2 := by
  unfold farewell
  rw [get_bind]
  by_cases hopen : (h.session n).endpoint.isSome = true
  · rw [if_pos hopen, if_pos hopen]
    refine ⟨guarded_fst h fun _ _ => rfl, moves_guarded (moves_dismiss mail hopen) fun fault => ?_⟩
    exact still_logFor _ _ _
  · rw [if_neg hopen, if_neg hopen]
    exact ⟨rfl, (refl_of Still h).congr fun m => by simp [hears]⟩

/-- **Stopping.** The session is taken from the registered ones, mail comes in, the endpoint is
shut, and mail comes in once more. -/
theorem moves_close (mail : Mail) (hdistinct : h.active.Nodup)
    (hwired : (h.session n).isWired = true) :
    let asked := if (h.session n).endpoint.isSome then mail .asked else []
    Moves (fun m s => hears (mail .closed) m (alone n Standing.shut m
      (hears (mail .leaving ++ asked ++ mail .dismissed) m (alone n Standing.unregistered m s))))
      h (close (.posted mail) n h).2 := by
  intro asked
  have hleft := moves_unregister n h
  obtain ⟨hok₁, hleaving⟩ := moves_meanwhile mail .leaving (h.unregister n)
  set h₁ := ((Line.posted mail).meanwhile .leaving (h.unregister n)).2
  obtain ⟨hok₂, hasked⟩ := moves_farewell mail n h₁
  set h₂ := (farewell (.posted mail) n h₁).2
  obtain ⟨hok₃, hdismissed⟩ := moves_meanwhile mail .dismissed h₂
  set h₃ := ((Line.posted mail).meanwhile .dismissed h₂).2
  have hend := moves_bind (moves_release mail n h₃)
    fun _ => still_logFor (n := n) .info "Language server session closed" []
  have hrun : close (.posted mail) n h = (do
      release (.posted mail) n
      Wire.logFor n .info "Language server session closed" []) h₃ := by
    unfold close
    rw [modify_bind, bind_of_fst hok₁, bind_of_fst hok₂, bind_of_fst hok₃]
  -- the mail so far left the endpoint as it was
  have hopen : (h₁.session n).endpoint.isSome = (h.session n).endpoint.isSome := by
    have hstanding := (hleft.trans hleaving).standing hdistinct n hwired
    refine (congrArg Standing.isOpen hstanding).trans ?_
    simp [hears, Standing.hear, alone, Standing.unregistered, standing]
  rw [hopen] at hasked
  rw [hrun]
  refine ((((hleft.trans hleaving).trans hasked).trans hdismissed).trans hend).congr fun m => ?_
  simp only [hears, Standing.hear_hear, answered_append, asked]

/-- Launching opens an endpoint, or nothing moves. -/
lemma moves_launch (n : Nat) (h : Host γ) :
    ((launch n h).1 = .ok () ∧ Moves (alone n Standing.opened) h (launch n h).2) ∨
      ∃ fault, (launch n h).1 = .error fault ∧ Still h (launch n h).2 := by
  have hfound := still_onPlatform (h.session n).provider.start h
  unfold launch
  rw [get_bind]
  rcases hres : Act.onPlatform (h.session n).provider.start h with ⟨result, h₁⟩
  rw [hres] at hfound
  cases result with
  | error fault =>
    rw [bind_error hres]
    exact Or.inr ⟨fault, rfl, hfound⟩
  | ok provider =>
    rw [bind_ok hres]
    refine Or.inl ⟨rfl, ?_⟩
    set launched : Session :=
      { h₁.session n with provider, reader := ⟨none, true⟩, held := .all }
    set h₂ := h₁.setSession n launched
    have hprovided : Still h₁ h₂ := still_setSession (s := launched) ⟨rfl, rfl, rfl⟩ rfl
    have hopened : Moves (alone n Standing.opened) h₂
        (h₂.setSession n { h₂.session n with endpoint := some ⟨[], []⟩ }) :=
      moves_setSession (s := { h₂.session n with endpoint := some ⟨[], []⟩ }) ⟨rfl, rfl, rfl⟩
    exact (hfound.trans hprovided).trans hopened

/-- A launch that succeeds leaves a session that holds everything, and nothing is sent. -/
lemma launch_run (hwired : (h.session n).isWired = true) (hok : (launch n h).1 = .ok ()) :
    (launch n h).2.sent = h.sent ∧ ∃ provider, (launch n h).2.session n =
      { h.session n with
        provider, reader := ⟨none, true⟩, held := .all, endpoint := some ⟨[], []⟩ } := by
  unfold launch at hok ⊢
  rw [get_bind] at hok ⊢
  rcases hres : Act.onPlatform (h.session n).provider.start h with ⟨result, h₁⟩
  cases result with
  | error fault =>
    rw [bind_error hres] at hok
    cases hok
  | ok provider =>
    obtain ⟨platform, rfl⟩ : ∃ platform, h₁ = { h with platform } :=
      ⟨_, (congrArg Prod.snd hres).symm⟩
    have hn : n < h.sessions.length := lt_of_isWired hwired
    set changed : Session := { h.session n with provider, reader := ⟨none, true⟩, held := .all }
    set h₂ : Host γ := { h with platform }.setSession n changed
    have hrun : (do
        Act.modifySession n fun s => { s with provider, reader := ⟨none, true⟩, held := .all }
        connect n : Act γ Unit) { h with platform } =
          (.ok (), h₂.setSession n { h₂.session n with endpoint := some ⟨[], []⟩ }) := rfl
    have hlength : h₂.sessions.length = h.sessions.length := List.length_set
    have hkept : h₂.session n = changed := by
      rw [session_setSession, if_pos ⟨rfl, hn⟩]
    rw [bind_ok hres, hrun, hkept]
    refine ⟨rfl, provider, ?_⟩
    rw [session_setSession, if_pos ⟨rfl, hlength ▸ hn⟩]

/-- How a session that is started ends up. -/
inductive Starts (mail : Mail) (n : Nat) (h : Host γ) : Except Fault Unit → Host γ → Prop
  | unlaunched {fault : Fault} {h' : Host γ} (hlaunch : (launch n h).1 = .error fault)
      (a : Still h h') : Starts mail n h (.error fault) h'
  | started {h' : Host γ} (hlaunch : (launch n h).1 = .ok ())
      (a : Moves (fun m s => alone n Standing.registered m
        (hears (mail .connected ++ mail .asked ++ mail .answered) m (alone n Standing.opened m s)))
          h h') : Starts mail n h (.ok ()) h'
  | abandoned {fault : Fault} {h' : Host γ} (hlaunch : (launch n h).1 = .ok ())
      (a : Moves (fun m s => hears (mail .closed) m (alone n Standing.shut m
        (hears (mail .leaving) m (alone n Standing.unregistered m
          (hears (mail .connected ++ mail .asked) m (alone n Standing.opened m s)))))) h h') :
      Starts mail n h (.error fault) h'

/-- What gave no proper answer is taken down, and the start fails. -/
lemma moves_abandon (mail : Mail) (n : Nat) (fault : Fault) (h : Host γ) :
    (∃ fault', (abandon (.posted mail) n fault h).1 = .error fault') ∧
      Moves (fun m s => hears (mail .closed) m (alone n Standing.shut m
        (hears (mail .leaving) m (alone n Standing.unregistered m s)))) h
        (abandon (.posted mail) n fault h).2 := by
  have hleft := moves_unregister n h
  obtain ⟨hok, hleaving⟩ := moves_meanwhile mail .leaving (h.unregister n)
  set h₁ := ((Line.posted mail).meanwhile .leaving (h.unregister n)).2
  have hrun : abandon (.posted mail) n fault h =
      (release (.posted mail) n >>= fun _ => throw fault) h₁ := by
    unfold abandon
    rw [modify_bind, bind_of_fst hok]
  rw [hrun]
  refine ⟨?_, (hleft.trans hleaving).trans
    (moves_bind (moves_release mail n h₁) fun _ => Lasts.throw fault)⟩
  rcases hres : release (.posted mail) n h₁ with ⟨result, h₂⟩
  cases result with
  | ok x => exact ⟨fault, by rw [bind_ok hres]; rfl⟩
  | error fault' => exact ⟨fault', by rw [bind_error hres]⟩

/-- **Starting.** A session that is started ends up in one of three ways. -/
theorem starts_start (mail : Mail) (timeout : Json) (hdistinct : h.active.Nodup)
    (hwired : (h.session n).isWired = true) :
    Starts mail n h (start (.posted mail) n timeout h).1 (start (.posted mail) n timeout h).2 := by
  rcases moves_launch n h with ⟨hlaunch, hopened⟩ | ⟨fault, hlaunch, hstill⟩
  · obtain ⟨hok₁, hconnected⟩ := moves_meanwhile mail .connected (launch n h).2
    set h₁ := ((Line.posted mail).meanwhile .connected (launch n h).2).2
    have hopen : (h₁.session n).endpoint.isSome = true := by
      have hstanding := (hopened.trans hconnected).standing hdistinct n hwired
      refine (congrArg Standing.isOpen hstanding).trans ?_
      simp [hears, Standing.hear, alone, Standing.opened]
    have hgreeted := moves_greet mail timeout hopen
    have hrun : start (.posted mail) n timeout h = (do
        tryCatch (greet (.posted mail) n timeout) (abandon (.posted mail) n)
        (Line.posted mail).meanwhile .answered
        modify (Host.register n)
        let h ← get
        Wire.logFor n .info "Language server started"
          [("root", Json.ofString? ((h.session n).rootUri h.platform.cwd))]) h₁ := by
      unfold start
      rw [bind_of_fst hlaunch, bind_of_fst hok₁]
    rw [hrun]
    rcases hres : greet (.posted mail) n timeout h₁ with ⟨result, h₂⟩
    rw [hres] at hgreeted
    cases result with
    | ok x =>
      obtain ⟨hok₂, hanswered⟩ := moves_meanwhile mail .answered h₂
      rw [bind_ok (tryCatch_ok hres), bind_of_fst hok₂, modify_bind, get_bind]
      refine .started hlaunch ?_
      refine ((((hopened.trans hconnected).trans hgreeted).trans hanswered).trans
        ((moves_register n _).trans (still_logFor _ _ _ _))).congr fun m => ?_
      simp only [hears, Standing.hear_hear, answered_append]
    | error fault =>
      obtain ⟨⟨fault', hfault⟩, habandoned⟩ := moves_abandon mail n fault h₂
      rw [bind_error (tryCatch_error hres |>.trans (Prod.ext hfault rfl))]
      refine .abandoned hlaunch ?_
      refine (((hopened.trans hconnected).trans hgreeted).trans habandoned).congr fun m => ?_
      simp only [hears, Standing.hear_hear, answered_append]
  · have hrun : start (.posted mail) n timeout h = (.error fault, (launch n h).2) :=
      bind_error (Prod.ext hlaunch rfl)
    rw [hrun]
    exact .unlaunched hlaunch hstill

end Session

end LanguageHost
