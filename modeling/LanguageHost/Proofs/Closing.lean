import LanguageHost.Proofs.Standing
import LanguageHost.Proofs.Turn

/-!
# Closed sessions stay closed, unless an answer comes late

A session should be registered only while its endpoint is open, and a session that was stopped or
failed to start should not be registered at all. `Session.Step` lists what is done with
sessions; their servers may send anything at any moment meanwhile.

There are two ways in which a closed session is left among the registered ones. Its server answers
the first request after the session was taken from them and before its endpoint is shut, which
registers it once more. Or a registered session is started anew and its server cannot be launched.
`Session.Step.Leaks` says this of a single step, and a run is sound exactly if no step in it leaks.
-/

namespace LanguageHost

open Act Host Session

variable {γ : Type} {n : Nat} {h h' : Host γ}

/-- What is done with a session. -/
inductive Session.Step where
  | start (n : Nat) (timeout : Json) (mail : Mail)
  | stop (n : Nat) (mail : Mail)
  | receive (n : Nat) (message : Json)
  | tell (n : Nat) (notice : Notice)

namespace Session.Step

/-- The session that something is done with. -/
def session : Step → Nat
  | start n _ _ | stop n _ | receive n _ | tell n _ => n

/-- Does something with a session that talks over a wire. Messages that are sent meanwhile are only
sent; what comes back is part of the mail. -/
def act : Step → Act γ Unit
  | start n timeout mail => Session.start (.posted mail) n timeout
  | stop n mail => Session.stop (.posted mail) n
  | receive n message => Wire.consume Wire.writeToChild n message
  | tell n notice => Wire.notify Wire.writeToChild n notice

/-- Does something with a session, unless it is a stand-in. -/
def perform (step : Step) : Act γ Unit := do
  if ((← get).session step.session).isWired then step.act

/-- The session is closed after the step. -/
def Closes (h : Host γ) : Step → Prop
  | start n timeout mail => ∃ fault, ((start n timeout mail).perform h).1 = .error fault
  | stop _ _ => True
  | receive _ _ | tell _ _ => False

end Session.Step

namespace Host

/-- Every registered session that talks over a wire has an open endpoint. -/
def Live (h : Host γ) : Prop :=
  ∀ n ∈ h.active, (h.session n).isWired = true → (h.session n).endpoint.isSome = true

/-- The host after some steps. -/
def after (steps : List Step) (h : Host γ) : Host γ :=
  steps.foldl (fun h step => (step.perform h).2) h

end Host

namespace Session.Step

/-- After the step the registered sessions are live, and a session that was closed is not
registered. -/
structure Sound (step : Step) (h : Host γ) : Prop where
  live : Live (step.perform h).2
  gone : (h.session step.session).isWired = true → step.Closes h →
    step.session ∉ (step.perform h).2.active

/-- The step leaves a closed session among the registered ones. -/
def Leaks (h : Host γ) : Step → Prop
  | start n timeout mail => (h.session n).isWired = true ∧
      (∃ fault, ((start n timeout mail).perform h).1 = .error fault) ∧
      (((launch n h).1 = .ok () ∧ answered (mail .leaving) n = true) ∨
        ((launch n h).1 ≠ .ok () ∧ n ∈ h.active))
  | stop n mail => (h.session n).isWired = true ∧ (h.session n).endpoint.isSome = true ∧
      answered (mail .leaving ++ mail .asked ++ mail .dismissed) n = true
  | receive _ _ | tell _ _ => False

end Session.Step

/-! ## Moves and live sessions -/

namespace Host

namespace Moves

variable {f : Nat → Standing → Standing}

lemma mem_active_iff (a : Moves f h h') (hdistinct : h.active.Nodup)
    (hwired : (h.session n).isWired = true) :
    n ∈ h'.active ↔ (f n (h.standing n)).isActive = true := by
  rw [← a.standing hdistinct n hwired]
  exact decide_eq_true_iff.symm

lemma isSome_endpoint (a : Moves f h h') (hdistinct : h.active.Nodup)
    (hwired : (h.session n).isWired = true) :
    (h'.session n).endpoint.isSome = (f n (h.standing n)).isOpen :=
  congrArg Standing.isOpen (a.standing hdistinct n hwired)

/-- Sessions are live after a move if the function behind it keeps them so. -/
lemma live_iff (a : Moves f h h') (hdistinct : h.active.Nodup) :
    Live h' ↔ ∀ m, (h.session m).isWired = true → (f m (h.standing m)).isActive = true →
      (f m (h.standing m)).isOpen = true := by
  constructor
  · intro hlive m hwired hactive
    rw [← a.isSome_endpoint hdistinct hwired]
    exact hlive m ((a.mem_active_iff hdistinct hwired).2 hactive)
      ((a.origins m).isWired.trans hwired)
  · intro hall m hm hwired'
    have hwired := (a.origins m).isWired.symm.trans hwired'
    rw [a.isSome_endpoint hdistinct hwired]
    exact hall m hwired ((a.mem_active_iff hdistinct hwired).1 hm)

end Moves

lemma Live.standing (hlive : Live h) (hwired : (h.session n).isWired = true)
    (hactive : (h.standing n).isActive = true) : (h.standing n).isOpen = true :=
  hlive n (of_decide_eq_true hactive) hwired

end Host

namespace Session.Standing

variable {s : Standing}

/-- What a session hears never registers it while its endpoint is shut. -/
lemma isOpen_of_hear (hs : s.isActive = true → s.isOpen = true) (answer : Bool)
    (hactive : (s.hear answer).isActive = true) : (s.hear answer).isOpen = true := by
  rcases Bool.or_eq_true_iff.1 hactive with hactive | hheard
  · exact hs hactive
  · exact (Bool.and_eq_true_iff.1 hheard).1

@[simp] lemma hear_shut (answer : Bool) (s : Standing) : (s.shut).hear answer = s.shut := by
  simp [hear, shut]

end Session.Standing

/-! ## Closing one session -/

namespace Host

variable {mail : Mail}

/-- After a session is taken from the registered ones, hears its mail and is shut, the sessions are
live exactly if it has not been answered in between. -/
lemma Moves.closed_iff {f : Nat → Standing → Standing} {messages last : List (Nat × Json)}
    (a : Moves (fun m s => hears last m (alone n Standing.shut m
      (hears messages m (alone n Standing.unregistered m (f m s))))) h h')
    (hdistinct : h.active.Nodup) (hwired : (h.session n).isWired = true)
    (hothers : ∀ m, m ≠ n → (h.session m).isWired = true →
      (f m (h.standing m)).isActive = true → (f m (h.standing m)).isOpen = true) :
    Live h' ∧ n ∉ h'.active ↔
      ¬ ((f n (h.standing n)).isOpen = true ∧ answered messages n = true) := by
  have hself : n ∈ h'.active ↔
      (f n (h.standing n)).isOpen = true ∧ answered messages n = true := by
    rw [a.mem_active_iff hdistinct hwired]
    simp [alone, hears, Standing.hear, Standing.shut, Standing.unregistered]
  constructor
  · rintro ⟨-, hgone⟩ hanswered
    exact hgone (hself.2 hanswered)
  · intro hunanswered
    have hgone : n ∉ h'.active := fun hmem => hunanswered (hself.1 hmem)
    refine ⟨(a.live_iff hdistinct).2 fun m hm hactive => ?_, hgone⟩
    by_cases hmn : m = n
    · subst hmn
      exact absurd ((a.mem_active_iff hdistinct hm).2 hactive) hgone
    · simp only [alone, if_neg hmn, hears, Standing.hear_hear] at hactive ⊢
      exact Standing.isOpen_of_hear (hothers m hmn hm) _ hactive

lemma sound_close_iff (mail : Mail) (hdistinct : h.active.Nodup) (hlive : Live h)
    (hwired : (h.session n).isWired = true) :
    (Live (Session.close (.posted mail) n h).2 ∧ n ∉ (Session.close (.posted mail) n h).2.active) ↔
      ¬ ((h.session n).endpoint.isSome = true ∧
        answered (mail .leaving ++ mail .asked ++ mail .dismissed) n = true) := by
  have a := moves_close mail hdistinct hwired
  rw [a.closed_iff (f := fun _ s => s) hdistinct hwired fun m _ hm => hlive.standing hm]
  refine not_congr (and_congr_right fun hopen => ?_)
  have hopen' : (h.session n).endpoint.isSome = true := hopen
  rw [if_pos hopen']

lemma nodup_of_starts {result : Except Fault Unit} (hstarts : Starts mail n h result h')
    (hdistinct : h.active.Nodup) : h'.active.Nodup := by
  cases hstarts with
  | unlaunched hlaunch a => exact a.distinct hdistinct
  | started hlaunch a => exact a.distinct hdistinct
  | abandoned hlaunch a => exact a.distinct hdistinct

lemma sound_start_iff {result : Except Fault Unit} (hstarts : Starts mail n h result h')
    (hdistinct : h.active.Nodup) (hlive : Live h) (hwired : (h.session n).isWired = true) :
    (Live h' ∧ ((∃ fault, result = .error fault) → n ∉ h'.active)) ↔
      ¬ ((∃ fault, result = .error fault) ∧
        (((launch n h).1 = .ok () ∧ answered (mail .leaving) n = true) ∨
          ((launch n h).1 ≠ .ok () ∧ n ∈ h.active))) := by
  cases hstarts with
  | @unlaunched fault _ hlaunch a =>
    have hlive' : Live h' := (a.live_iff hdistinct).2 fun m hm => hlive.standing hm
    have hself : n ∈ h'.active ↔ n ∈ h.active :=
      (a.mem_active_iff hdistinct hwired).trans decide_eq_true_iff
    simp [hlaunch, hlive', hself]
  | started hlaunch a =>
    have hlive' : Live h' := by
      refine (a.live_iff hdistinct).2 fun m hm hactive => ?_
      by_cases hmn : m = n
      · simp [alone, hmn, hears, Standing.hear, Standing.registered, Standing.opened]
      · simp only [alone, if_neg hmn, hears] at hactive ⊢
        exact Standing.isOpen_of_hear (hlive.standing hm) _ hactive
    simp [hlive']
  | @abandoned fault _ hlaunch a =>
    have hothers : ∀ m, m ≠ n → (h.session m).isWired = true →
        (hears (mail .connected ++ mail .asked) m
          (alone n Standing.opened m (h.standing m))).isActive = true →
        (hears (mail .connected ++ mail .asked) m
          (alone n Standing.opened m (h.standing m))).isOpen = true := by
      intro m hmn hm hactive
      simp only [alone, if_neg hmn, hears] at hactive ⊢
      exact Standing.isOpen_of_hear (hlive.standing hm) _ hactive
    have hclosed := a.closed_iff
      (f := fun m s => hears (mail .connected ++ mail .asked) m (alone n Standing.opened m s))
      hdistinct hwired hothers
    have hopen : (hears (mail .connected ++ mail .asked) n
        (alone n Standing.opened n (h.standing n))).isOpen = true := by
      simp [alone, hears, Standing.hear, Standing.opened]
    simpa [hlaunch, hopen] using hclosed

end Host

/-! ## One step -/

namespace Session.Step

lemma perform_wired {step : Step} (hwired : (h.session step.session).isWired = true) :
    step.perform h = step.act h := by
  rw [perform, get_bind, if_pos hwired]

lemma perform_standIn {step : Step} (hwired : (h.session step.session).isWired = false) :
    step.perform h = (.ok (), h) := by
  rw [perform, get_bind, if_neg (by simp [hwired])]
  rfl

lemma stop_wired (line : Line γ) (hwired : (h.session n).isWired = true) :
    Session.stop line n h = Session.close line n h := by
  rw [isWired] at hwired
  unfold Session.stop
  rw [get_bind]
  cases hpeer : (h.session n).peer with
  | standIn failing fault =>
    rw [hpeer] at hwired
    cases hwired
  | script conversation => rfl
  | child => rfl

/-- Telling a server something leaves all endpoints and the registered sessions as they are. -/
lemma kept_tell (notice : Notice) (h : Host γ) :
    let told := (Wire.notify Wire.writeToChild n notice h).2
    told.active = h.active ∧ ∀ m, SameEnd (h.session m) (told.session m) := by
  intro told
  have hkept : told = h ∨ told = h.noteSent n (.notice notice) ∨
      Talk false n (h.noteSent n (.message notice.message)) told [] := by
    cases htakes : (h.session n).takes notice.word with
    | false =>
      obtain ⟨fault, hrun⟩ := Wire.notify_refused (n := n) Wire.writeToChild htakes
      exact Or.inl (congrArg Prod.snd hrun)
    | true =>
      have hrun : Wire.notify Wire.writeToChild n notice h =
          if (h.session n).isWired then Wire.writeToChild n notice.message h
          else (.ok (), h.noteSent n (.notice notice)) := Wire.notify_takes htakes
      cases hwired : (h.session n).isWired with
      | true =>
        rw [hwired, if_pos rfl] at hrun
        refine Or.inr (Or.inr ?_)
        rw [show told = _ from congrArg Prod.snd hrun]
        exact (Wire.writeToChild_run n notice.message h).2
      | false =>
        rw [hwired, if_neg (by simp)] at hrun
        exact Or.inr (Or.inl (congrArg Prod.snd hrun))
  rcases hkept with hsame | hsame | a
  · rw [hsame]
    exact ⟨rfl, fun m => .refl _⟩
  · rw [hsame]
    exact ⟨rfl, fun m => .refl _⟩
  · exact ⟨a.active.resolve_right (by simp), fun m => a.sameEnd m⟩

/-- **Closing.** A step is sound exactly if it leaves no closed session behind. -/
theorem sound_iff (hdistinct : h.active.Nodup) (hlive : Live h) (step : Step) :
    step.Sound h ↔ ¬ step.Leaks h := by
  cases hwired : (h.session step.session).isWired with
  | false =>
    have hrun := perform_standIn hwired
    have hsound : step.Sound h :=
      ⟨by rw [hrun]; exact hlive, fun hw => absurd hw (by simp [hwired])⟩
    refine iff_of_true hsound fun hleaks => ?_
    cases step with
    | start n timeout mail => exact Bool.eq_false_iff.1 hwired hleaks.1
    | stop n mail => exact Bool.eq_false_iff.1 hwired hleaks.1
    | receive n message => exact hleaks
    | tell n notice => exact hleaks
  | true =>
    have hrun := perform_wired hwired
    have hsound : step.Sound h ↔ Live (step.act h).2 ∧
        (step.Closes h → step.session ∉ (step.act h).2.active) :=
      ⟨fun hs => hrun ▸ ⟨hs.live, hs.gone hwired⟩, fun hs => ⟨hrun ▸ hs.1, fun _ => hrun ▸ hs.2⟩⟩
    rw [hsound]
    cases step with
    | start n timeout mail =>
      have hstarts := starts_start mail timeout hdistinct hwired
      have hclosed := sound_start_iff hstarts hdistinct hlive hwired
      rw [Closes, Leaks, hrun]
      exact hclosed.trans (not_congr (and_iff_right hwired).symm)
    | stop n mail =>
      have hclosed := sound_close_iff mail hdistinct hlive hwired
      rw [← stop_wired (.posted mail) hwired] at hclosed
      rw [Closes, Leaks, forall_const]
      exact hclosed.trans (not_congr (and_iff_right hwired).symm)
    | receive n message =>
      have a := moves_consume n message h
      refine iff_of_true ⟨?_, False.elim⟩ id
      refine (a.live_iff hdistinct).2 fun m hm => ?_
      exact Standing.isOpen_of_hear (hlive.standing hm) _
    | tell n notice =>
      obtain ⟨hactive, hends⟩ := kept_tell (n := n) notice h
      refine iff_of_true ⟨fun m hm hw => ?_, False.elim⟩ id
      have hw' : (h.session m).isWired = true := (hends m).isWired.symm.trans hw
      exact (hends m).endpoint.trans (hlive m (hactive ▸ hm) hw')

/-- No step registers a session twice. -/
lemma nodup_perform (hdistinct : h.active.Nodup) (step : Step) :
    (step.perform h).2.active.Nodup := by
  cases hwired : (h.session step.session).isWired with
  | false =>
    rw [perform_standIn hwired]
    exact hdistinct
  | true =>
    rw [perform_wired hwired]
    cases step with
    | start n timeout mail =>
      exact nodup_of_starts (starts_start mail timeout hdistinct hwired) hdistinct
    | stop n mail =>
      have hclosed := (moves_close mail hdistinct hwired).distinct hdistinct
      rwa [← stop_wired (.posted mail) hwired] at hclosed
    | receive n message => exact (moves_consume n message h).distinct hdistinct
    | tell n notice => exact (kept_tell (n := n) notice h).1 ▸ hdistinct

end Session.Step

/-! ## Runs -/

namespace Host

/-- What holds of every step of a run holds of the first one and of those of the rest. -/
lemma forall_steps_cons {P : Host γ → Step → Prop} (first : Step) (rest : List Step) :
    (∀ past step, past ++ [step] <+: first :: rest → P (after past h) step) ↔
      P h first ∧
        ∀ past step, past ++ [step] <+: rest → P (after past (first.perform h).2) step := by
  constructor
  · intro hall
    refine ⟨hall [] first (by simp), fun past step hpast => ?_⟩
    exact hall (first :: past) step ((List.prefix_cons_inj first).2 hpast)
  · rintro ⟨hfirst, hrest⟩ past step hpast
    cases past with
    | nil =>
      obtain ⟨rfl, -⟩ := List.cons_prefix_cons.1 hpast
      exact hfirst
    | cons next past =>
      obtain ⟨rfl, hpast'⟩ := List.cons_prefix_cons.1 hpast
      exact hrest past step hpast'

/-- **Closed sessions stay closed unless a step leaks.** In a host whose registered sessions have
open endpoints, every step of a run keeps it so and leaves no closed session registered, exactly if
no step of the run leaks. -/
theorem sound_run_iff (hdistinct : h.active.Nodup) (hlive : Live h) (steps : List Step) :
    (∀ past step, past ++ [step] <+: steps → step.Sound (after past h)) ↔
      ∀ past step, past ++ [step] <+: steps → ¬ step.Leaks (after past h) := by
  induction steps generalizing h with
  | nil => simp
  | cons first rest ih =>
    rw [forall_steps_cons (P := fun h step => step.Sound h),
      forall_steps_cons (P := fun h step => ¬ step.Leaks h),
      ← Step.sound_iff hdistinct hlive first]
    refine and_congr_right fun hsound => ih (Step.nodup_perform hdistinct first) hsound.live

/-- A session whose server answers only once is stopped for good. -/
theorem sound_run_of_single_answer :
    let steps := [Step.receive 0 StartResult.plain.1, .stop 0 fun _ => []]
    small.active.Nodup ∧ Live small ∧
      ∀ past step, past ++ [step] <+: steps → step.Sound (after past small) := by
  intro steps
  have hlive : Live small := fun n hn => by cases hn
  refine ⟨List.nodup_nil, hlive, (sound_run_iff List.nodup_nil hlive steps).2 ?_⟩
  refine (forall_steps_cons (P := fun h step => ¬ step.Leaks h) _ _).2 ⟨id, ?_⟩
  refine (forall_steps_cons (P := fun h step => ¬ step.Leaks h) _ _).2 ⟨?_, by simp⟩
  rintro ⟨-, -, hanswered⟩
  cases hanswered

/-- An answer to the first request that comes in while the server is asked to shut down registers
the session once more: it is stopped and stays registered without an endpoint. -/
theorem registered_after_late_answer :
    let late : Mail := fun moment => if moment = .asked then [(0, StartResult.plain.1)] else []
    let running := after [.receive 0 StartResult.plain.1] small
    let stopped := (Step.stop 0 late).perform running
    running.active = [0] ∧ Live running ∧ stopped.1.isOk = true ∧ stopped.2.active = [0] ∧
      (stopped.2.session 0).endpoint.isSome = false ∧ ¬ (Step.stop 0 late).Sound running := by
  intro late running stopped
  have hactive : running.active = [0] := by decide +kernel
  have hlive : Live running := by
    intro n hn _
    rw [hactive, List.mem_singleton] at hn
    subst hn
    decide +kernel
  have hstill : stopped.2.active = [0] := by decide +kernel
  refine ⟨hactive, hlive, by decide +kernel, hstill, by decide +kernel, fun hsound => ?_⟩
  refine hsound.gone (by decide +kernel) trivial ?_
  rw [hstill]
  exact List.mem_cons_self

end Host

end LanguageHost
