import LanguageHost.Proofs.Change

/-!
# Runs of a linked definition

After an adapter was started, users change preferences and projects, sessions come and go, and
servers send messages, in any order. `Turn` lists what can happen next, and `Host.run` takes one
turn after another; a turn that fails leaves its host behind all the same. The sessions of the
definition stay linked through every run.
-/

namespace LanguageHost

open Act Host

variable {γ : Type}

/-- Something holds after every part of a run exactly if the run is clean, where each step from a
state in which it holds either keeps it or is what makes the run unclean. -/
lemma forall_prefix_foldl_iff {σ α : Type} {step : σ → α → σ} {Good : σ → Prop}
    {Clean : σ → List α → Prop} (hnil : ∀ s, Clean s [])
    (hcons : ∀ s x rest, Good s →
      (Clean s (x :: rest) ↔ Good (step s x) ∧ Clean (step s x) rest))
    {s : σ} (hs : Good s) (l : List α) :
    (∀ before, before <+: l → Good (before.foldl step s)) ↔ Clean s l := by
  induction l generalizing s with
  | nil =>
    refine iff_of_true (fun before hbefore => ?_) (hnil s)
    rw [List.prefix_nil.1 hbefore]
    exact hs
  | cons x rest ih =>
    rw [hcons s x rest hs]
    constructor
    · intro hall
      have hfirst : Good (step s x) := hall [x] (List.prefix_append [x] rest)
      exact ⟨hfirst, (ih hfirst).1 fun before hbefore =>
        hall (x :: before) (List.cons_prefix_cons.2 ⟨rfl, hbefore⟩)⟩
    · rintro ⟨hfirst, hrest⟩ before hbefore
      rcases before with _ | ⟨y, before⟩
      · exact hs
      · obtain ⟨rfl, hrest'⟩ := List.cons_prefix_cons.1 hbefore
        exact (ih hfirst).2 hrest before hrest'

/-- A message that answers the first request of a session with the server's capabilities. -/
def StartResult : Type :=
  { message : Json // Message.isStartResult message = .ok true }

/-- What happens next in a host in which an adapter runs. -/
inductive Turn where
  | change (change : Change)
  /-- A session is registered; one of the linked definition seeds its server for the answer. -/
  | join (n : Nat) (answer : StartResult)
  | leave (n : Nat)
  /-- The server of a session sends a message. A stand-in has no server. -/
  | receive (n : Nat) (message : Json)

/-- Takes a turn. -/
def Turn.perform (react : List γ → Act γ Unit) (d st ws : Nat) : Turn → Act γ Unit
  | change c => c.perform react st ws
  | join n answer => do
    modify (Host.register n)
    if ((← get).session n).definition = some d then
      Wire.seed Wire.opened st ws n answer.1
  | leave n => modify (Host.unregister n)
  | receive n message => do
    if ((← get).session n).isWired then Wire.consume Wire.opened n message

/-- Registers the session that arrives, and takes the one that departs from the registered ones. -/
def Turn.prepare : Turn → Host γ → Host γ
  | join n _ => register n
  | leave n => unregister n
  | change _ | receive _ _ => id

/-- A turn in which a session arrives or departs. -/
def Turn.moves (n : Nat) : Turn → Prop
  | join m _ => m = n
  | leave m => m = n
  | _ => False

/-- A turn that a session takes part in. -/
def Turn.concerns (n : Nat) : Turn → Prop
  | receive m _ => m = n
  | turn => turn.moves n

namespace Host

/-- The host after some turns. -/
def run (react : List γ → Act γ Unit) (d st ws : Nat) (turns : List Turn) (h : Host γ) : Host γ :=
  turns.foldl (fun h turn => (turn.perform react d st ws h).2) h

@[simp] lemma run_nil (react : List γ → Act γ Unit) (d st ws : Nat) (h : Host γ) :
    run react d st ws [] h = h :=
  rfl

@[simp] lemma run_cons (react : List γ → Act γ Unit) (d st ws : Nat) (turn : Turn)
    (rest : List Turn) (h : Host γ) :
    run react d st ws (turn :: rest) h = run react d st ws rest (turn.perform react d st ws h).2 :=
  rfl

variable {d st ws : Nat} {h : Host γ}

/-- A property that every turn of a run keeps holds after the run. -/
theorem run_induction {P : Host γ → Prop} (react : List γ → Act γ Unit) (turns : List Turn)
    (hstep : ∀ h, ∀ turn ∈ turns, P h → P (turn.perform react d st ws h).2) (hstart : P h) :
    P (run react d st ws turns h) := by
  induction turns generalizing h with
  | nil => exact hstart
  | cons turn rest ih =>
    refine ih (fun h' turn' hmem => hstep h' turn' (List.mem_cons_of_mem turn hmem)) ?_
    exact hstep h turn List.mem_cons_self hstart

end Host

namespace Turn

variable {d st ws : Nat} {h : Host γ}

@[simp] lemma said_prepare (turn : Turn) (m : Nat) (h : Host γ) :
    (turn.prepare h).said m = h.said m := by
  cases turn with
  | join n answer => exact said_register n m h
  | _ => rfl

@[simp] lemma session_prepare (turn : Turn) (m : Nat) (h : Host γ) :
    (turn.prepare h).session m = h.session m := by
  cases turn with
  | join n answer => exact session_register n m h
  | _ => rfl

lemma undisturbed_prepare (turn : Turn) (h : Host γ) : Undisturbed h (turn.prepare h) := by
  cases turn with
  | join n answer => exact undisturbed_register n h
  | leave n => exact ⟨rfl, rfl, rfl, rfl, rfl, rfl, rfl, rfl, rfl, rfl⟩
  | _ => exact .refl h

lemma join_other (react : List γ → Act γ Unit) {n : Nat} (answer : StartResult)
    (hother : (h.session n).definition ≠ some d) :
    ((join n answer).perform react d st ws h).2 = h.register n := by
  rw [perform, modify_bind, get_bind, session_register, if_neg hother]
  rfl

/-- A session of the linked definition is told the settings, and then the folders. -/
lemma join_run (react : List γ → Act γ Unit) {n : Nat} (answer : StartResult)
    (hdefinition : (h.session n).definition = some d) :
    ((join n answer).perform react d st ws h).2 =
      (Wire.sendFolders Wire.opened ws n
        (Wire.sendSettings Wire.opened st n (h.register n)).2).2 := by
  rw [perform, modify_bind, get_bind, session_register, if_pos hdefinition]
  exact Wire.seed_run answer.2 st ws

lemma receive_standIn (react : List γ → Act γ Unit) {n : Nat} (message : Json)
    (hwired : (h.session n).isWired = false) :
    ((receive n message).perform react d st ws h).2 = h := by
  rw [perform, get_bind, if_neg (by simp [hwired])]
  rfl

lemma receive_wired (react : List γ → Act γ Unit) {n : Nat} (message : Json)
    (hwired : (h.session n).isWired = true) :
    ((receive n message).perform react d st ws h).2 = (Wire.consume Wire.opened n message h).2 := by
  rw [perform, get_bind, if_pos hwired]

end Turn

namespace Host

variable {d st ws : Nat} {h : Host γ}

lemma Linked.of_register (hlinked : Linked d st ws h) (n : Nat) :
    Linked d st ws (h.register n) := by
  refine hlinked.of_undisturbed (undisturbed_register n h) (fun m => ?_)
    (nodup_active_register n hlinked.distinct)
  rw [session_register]
  exact .refl _

lemma Linked.of_prepare (hlinked : Linked d st ws h) (turn : Turn) :
    Linked d st ws (turn.prepare h) := by
  cases turn with
  | join n answer => exact hlinked.of_register n
  | leave n =>
    exact hlinked.of_undisturbed (Turn.undisturbed_prepare (.leave n) h) (fun m => .refl _)
      (hlinked.distinct.erase n)
  | _ => exact hlinked

/-- A turn that is no change is a talk of the session that takes part in it, after it was registered
or taken from the registered ones. -/
theorem talk_of_turn (react : List γ → Act γ Unit) (hlinked : Linked d st ws h) (turn : Turn) :
    (∃ c, turn = .change c) ∨ ∃ n l, turn.concerns n ∧
      Talk true n (turn.prepare h) (turn.perform react d st ws h).2 l := by
  have husable : Wire.Usable true (Wire.opened (γ := γ)) := Or.inr Wire.prompt_opened
  cases turn with
  | change c => exact Or.inl ⟨c, rfl⟩
  | join n answer =>
    by_cases hdefinition : (h.session n).definition = some d
    · have hregistered := hlinked.of_register n
      have hdefinition₁ : ((h.register n).session n).definition = some d := by
        rw [session_register, hdefinition]
      obtain ⟨l, a, -⟩ := husable.talk_sendSettings (n := n) (hregistered.seeds n hdefinition₁)
      obtain ⟨l', b, -⟩ := husable.talk_sendFolders (n := n)
        ((hregistered.of_talk a).seeds n (a.self.definition.trans hdefinition₁))
      rw [Turn.join_run react answer hdefinition]
      exact Or.inr ⟨n, l ++ l', rfl, a.trans b⟩
    · rw [Turn.join_other react answer hdefinition]
      exact Or.inr ⟨n, [], rfl, .refl true n _⟩
  | leave n => exact Or.inr ⟨n, [], rfl, .refl true n _⟩
  | receive n message =>
    cases hwired : (h.session n).isWired with
    | true =>
      obtain ⟨l, a, -⟩ := husable.talk_consume (n := n) message h
      rw [Turn.receive_wired react message hwired]
      exact Or.inr ⟨n, l, rfl, a⟩
    | false =>
      rw [Turn.receive_standIn react message hwired]
      exact Or.inr ⟨n, [], rfl, .refl true n h⟩

/-- The sessions of a definition stay linked, whatever happens next. -/
theorem Linked.of_turn (react : List γ → Act γ Unit) (hlinked : Linked d st ws h) (turn : Turn) :
    Linked d st ws (turn.perform react d st ws h).2 := by
  rcases talk_of_turn react hlinked turn with ⟨c, rfl⟩ | ⟨n, l, -, a⟩
  · exact hlinked.of_performed (Change.performed react hlinked.toSubscribed c)
  · exact (hlinked.of_prepare turn).of_talk a

/-- What was sent stays sent, whatever happens next. -/
theorem said_of_turn (react : List γ → Act γ Unit) (hlinked : Linked d st ws h) (turn : Turn)
    (m : Nat) : ∃ l, (turn.perform react d st ws h).2.said m = h.said m ++ l := by
  rcases talk_of_turn react hlinked turn with ⟨c, rfl⟩ | ⟨n, l, -, a⟩
  · exact (Change.performed react hlinked.toSubscribed c).said_grows m
  · rw [← Turn.said_prepare turn m h]
    exact a.said_grows m

/-- How often a session told its server that it has started. -/
def greetings (n : Nat) (h : Host γ) : Nat :=
  (h.said n).countP Sent.starts

lemma greetings_of_turn (react : List γ → Act γ Unit) (hlinked : Linked d st ws h) (turn : Turn)
    (n : Nat) : h.greetings n ≤ (turn.perform react d st ws h).2.greetings n := by
  obtain ⟨l, hl⟩ := said_of_turn react hlinked turn n
  rw [greetings, greetings, hl, List.countP_append]
  exact Nat.le_add_right _ _

/-- A run takes no greeting back. -/
lemma greetings_of_run (react : List γ → Act γ Unit) (hlinked : Linked d st ws h)
    (turns : List Turn) (n : Nat) : h.greetings n ≤ (run react d st ws turns h).greetings n := by
  induction turns generalizing h with
  | nil => exact Nat.le_refl _
  | cons turn rest ih =>
    have hturn := greetings_of_turn react hlinked turn n
    exact Nat.le_trans hturn (ih (hlinked.of_turn react turn))

/-- Where the greetings are as many as before, none is in what was sent since. -/
lemma unstarted_of_greetings {h' : Host γ} {n : Nat} {l : List Sent}
    (hsaid : h'.said n = h.said n ++ l) (hsame : h'.greetings n = h.greetings n) :
    l.any Sent.starts = false := by
  rw [greetings, greetings, hsaid, List.countP_append] at hsame
  have hnone : l.countP Sent.starts = 0 := by omega
  exact List.any_eq_false.2 (List.countP_eq_zero.1 hnone)

end Host

/-! ## A small host -/

/-- A session of the first definition, over the first store and workspace, whose server has an open
endpoint and sends nothing back. -/
def Session.attached : Session :=
  { (default : Session) with
    definition := some 0, hook := .seed 0 0, peer := .script [], endpoint := some ⟨[], []⟩ }

/-- A host with one store, one workspace without projects, one definition, and an adapter that is
not started yet. Two sessions are there, of which none is registered: one is attached to a server
and one is a stand-in. -/
def Host.small : Host Empty :=
  { Host.empty default ⟨.root, []⟩ with
    stores := [.empty ⟨.root, []⟩]
    workspaces := [.empty]
    definitions := [.yaml 0 0]
    sessions := [Session.attached,
      { (default : Session) with definition := some 0, hook := .seed 0 0 }]
    adapters := [⟨some 0, 0, 0, none, []⟩] }

lemma Host.hooks_small (n : Nat) (hdefinition : (Host.small.session n).definition = some 0) :
    (Host.small.session n).hook = .seed 0 0 := by
  match n with
  | 0 | 1 => rfl
  | n + 2 => cases hdefinition

lemma Host.prepared_small : Prepared 0 0 0 0 Host.small :=
  ⟨rfl, by decide, by decide, rfl, rfl, fun n hdefinition _ => Host.hooks_small n hdefinition,
    List.nodup_nil⟩

/-- The plainest answer to the first request. -/
def StartResult.plain : StartResult :=
  ⟨Json.object [("id", "1"), ("result", Json.object [("capabilities", Json.object [])])],
    rfl⟩

end LanguageHost
