import LanguageHost.Proofs.Subscriptions

/-!
# Who stands on a bus

Adapters are started and stopped in any order, while other listeners come and go. Who is subscribed
then is told by `parties`: an adapter stands on a bus from the call that started it to the one that
stopped it, behind everyone who came before it, and the others stand there as if there were no
adapters.

The listeners of an adapter are other ones after every start, so parties are compared with the
subscribers of a bus through the listeners that adapters have at that time.
-/

namespace LanguageHost

/-! ## Steps -/

deriving instance DecidableEq for Watcher

/-- The listener that is added. -/
def Watcher.listener : Watcher → Nat
  | preferences listener => listener
  | resources _ listener => listener

/-- An adapter is started or stopped, or another listener is added or removed. -/
inductive LifeStep where
  | start (n : Nat)
  /-- Some more registrations are in the way, with these words. -/
  | stop (n : Nat) (broken : List String)
  | add (watcher : Watcher)
  | remove (watcher : Watcher)

/-- Who is subscribed to a bus: an adapter by one of its listeners, or another listener. -/
inductive Party where
  | adapter (n : Nat)
  | other (listener : Nat)
  deriving DecidableEq

namespace Party

/-- The listener that is subscribed, where `own` tells which one each adapter has now. -/
def listener (own : Nat → Nat) : Party → Nat
  | adapter n => own n
  | other listener => listener

/-- A listener that is no adapter's. -/
def other? : Party → Option Nat
  | adapter _ => none
  | other listener => some listener

end Party

namespace LifeStep

/-- The adapter is started or stopped. -/
def Calls (n : Nat) : LifeStep → Prop
  | start m => m = n
  | stop m _ => m = n
  | add _ | remove _ => False

/-- The other listener that is added or removed. -/
def watcher? : LifeStep → Option Watcher
  | add watcher => some watcher
  | remove watcher => some watcher
  | start _ | stop _ _ => none

/-- Whether the last call of an adapter so far was a start, after the step. -/
def turns (n : Nat) (on : Bool) : LifeStep → Bool
  | start m => if m = n then true else on
  | stop m _ => if m = n then false else on
  | add _ | remove _ => on

/-- The last call of an adapter was a start. -/
def runs (n : Nat) (steps : List LifeStep) : Bool :=
  steps.foldl (turns n) false

/-- The parties of a topic after a step. What a listener asks of the bus is told by `part`, and
`key` is the topic that adapters listen to. -/
def seat (part : Watcher → Interest Nat) (key topic : String) (parties : List Party) :
    LifeStep → List Party
  | start n => if key = topic ∧ .adapter n ∉ parties then parties ++ [.adapter n] else parties
  | stop n _ => parties.erase (.adapter n)
  | add watcher => parties ++ ((part watcher).handlers topic).map .other
  | remove watcher =>
    ((part watcher).handlers topic).foldl (fun parties n => parties.erase (.other n)) parties

/-- The parties of a topic after some steps. -/
def parties (part : Watcher → Interest Nat) (key : String) (steps : List LifeStep)
    (topic : String) : List Party :=
  steps.foldl (seat part key topic) []

/-- The other listeners that are subscribed after a step, in the order of their subscriptions. -/
def keep (watchers : List Watcher) : LifeStep → List Watcher
  | add watcher => watchers ++ [watcher]
  | remove watcher => watchers.erase watcher
  | start _ | stop _ _ => watchers

/-- The other listeners that are subscribed after some steps. -/
def remaining (steps : List LifeStep) : List Watcher :=
  steps.foldl keep []

/-- The step does not subscribe a listener that is subscribed, and does not remove it as if it had
been subscribed in another way. -/
def Fair (watchers : List Watcher) : LifeStep → Prop
  | add watcher => ∀ other ∈ watchers, other.listener ≠ watcher.listener
  | remove watcher => ∀ other ∈ watchers, other.listener = watcher.listener → other = watcher
  | start _ | stop _ _ => True

/-- Each of the other listeners is subscribed at most once at a time. -/
def FairFrom : List Watcher → List LifeStep → Prop
  | _, [] => True
  | watchers, step :: rest => step.Fair watchers ∧ FairFrom (step.keep watchers) rest

end LifeStep

open LifeStep

/-- A bus on which adapters and others stand as the steps tell. A publication calls their listeners
in this order, and no listener twice. -/
structure Bus.Attended (bus : Bus Nat) (part : Watcher → Interest Nat) (key : String)
    (steps : List LifeStep) (listenerOf : Nat → Nat) : Prop where
  calls : ∀ topic, bus.Calls topic ((parties part key steps topic).map (Party.listener listenerOf))
  distinct : ∀ topic, ((parties part key steps topic).map (Party.listener listenerOf)).Nodup
  running : ∀ topic n, (parties part key steps topic).count (.adapter n) =
    if key = topic ∧ runs n steps then 1 else 0
  others : ∀ topic, (parties part key steps topic).filterMap Party.other? =
    (remaining steps).flatMap fun watcher => (part watcher).handlers topic

namespace LifeStep

instance decidableFair (watchers : List Watcher) :
    (step : LifeStep) → Decidable (step.Fair watchers)
  | add _ | remove _ => inferInstanceAs (Decidable (∀ other ∈ watchers, _))
  | start _ | stop _ _ => isTrue trivial

instance decidableFairFrom : (watchers : List Watcher) → (steps : List LifeStep) →
    Decidable (FairFrom watchers steps)
  | _, [] => isTrue trivial
  | watchers, step :: rest =>
    have := decidableFairFrom (step.keep watchers) rest
    inferInstanceAs (Decidable (step.Fair watchers ∧ FairFrom (step.keep watchers) rest))

end LifeStep

/-! ## The parties of one bus -/

/-- A listener is asked for on a topic at most once, and no other one is. -/
def OwnHandler (part : Watcher → Interest Nat) : Prop :=
  ∀ watcher topic, (part watcher).handlers topic = [] ∨
    (part watcher).handlers topic = [watcher.listener]

lemma handlers_one (topic other : String) (n : Nat) :
    (Interest.one topic n).handlers other = if topic = other then [n] else [] := by
  by_cases hsame : topic = other
  · simp [Interest.one, Interest.handlers, hsame]
  · simp [Interest.one, Interest.handlers, hsame]

lemma handlers_masked (mask : Int) (n : Nat) (topic : String) :
    (Interest.masked mask n).handlers topic = [] ∨
      (Interest.masked mask n).handlers topic = [n] := by
  by_cases hnone : ∀ s ∈ (Interest.masked mask n).subscriptions, s.topic ≠ topic
  · exact Or.inl (Interest.handlers_of_forall_ne hnone)
  · push Not at hnone
    obtain ⟨s, hs, rfl⟩ := hnone
    right
    rw [Interest.handlers_of_mem hs]
    obtain ⟨bit, -, rfl⟩ := List.mem_map.1 hs
    rfl

lemma handlers_postChange (n : Nat) (topic : String) :
    (Interest.masked postChange n).handlers topic =
      if resourceTopic postChange = topic then [n] else [] := by
  have hsame : (Interest.masked postChange n).subscriptions =
      (Interest.one (resourceTopic postChange) n).subscriptions := by
    have hbits : Workspace.maskBits postChange = [1] := by decide
    change Workspace.maskSubscriptions postChange n = _
    rw [Workspace.maskSubscriptions, hbits]
    rfl
  rw [← handlers_one, Interest.handlers, hsame, Interest.handlers]

lemma ownHandler_onStore : OwnHandler Watcher.onStore := by
  intro watcher topic
  cases watcher with
  | preferences n =>
    rw [Watcher.onStore, handlers_one]
    by_cases hsame : preferenceTopic = topic
    · exact Or.inr (if_pos hsame)
    · exact Or.inl (if_neg hsame)
  | resources mask n => exact Or.inl rfl

lemma ownHandler_onWorkspace : OwnHandler Watcher.onWorkspace := by
  intro watcher topic
  cases watcher with
  | preferences n => exact Or.inl rfl
  | resources mask n => exact handlers_masked mask n topic
namespace LifeStep

variable {part : Watcher → Interest Nat} {key topic : String}

lemma parties_concat (part : Watcher → Interest Nat) (key topic : String) (steps : List LifeStep)
    (step : LifeStep) : parties part key (steps ++ [step]) topic =
      seat part key topic (parties part key steps topic) step := by
  rw [parties, parties, List.foldl_append]
  rfl

lemma runs_concat (n : Nat) (steps : List LifeStep) (step : LifeStep) :
    runs n (steps ++ [step]) = turns n (runs n steps) step := by
  rw [runs, runs, List.foldl_append]
  rfl

lemma remaining_concat (steps : List LifeStep) (step : LifeStep) :
    remaining (steps ++ [step]) = step.keep (remaining steps) := by
  rw [remaining, remaining, List.foldl_append]
  rfl

/-- Others who come and go leave the adapters where they are. -/
lemma count_seat_others (hpart : OwnHandler part) (ps : List Party) (n : Nat) (watcher : Watcher) :
    (seat part key topic ps (.add watcher)).count (.adapter n) = ps.count (.adapter n) ∧
      (seat part key topic ps (.remove watcher)).count (.adapter n) = ps.count (.adapter n) := by
  have hne : Party.other watcher.listener ≠ .adapter n := nofun
  rcases hpart watcher topic with hnone | hone
  · simp [seat, hnone]
  · simp [seat, hone, List.count_erase_of_ne hne.symm, hne]

lemma count_seat_start {ps : List Party} {n : Nat} {on : Bool}
    (hps : ps.count (.adapter n) = if key = topic ∧ on then 1 else 0) :
    (seat part key topic ps (.start n)).count (.adapter n) = if key = topic then 1 else 0 := by
  rw [seat]
  by_cases hown : key = topic
  · cases on with
    | true =>
      have hone : ps.count (.adapter n) = 1 := by simpa [hown] using hps
      have hmem : .adapter n ∈ ps := List.count_pos_iff.1 (by omega)
      rw [if_neg fun h => h.2 hmem, if_pos hown, hone]
    | false =>
      have hnone : ps.count (.adapter n) = 0 := by simpa using hps
      rw [if_pos ⟨hown, List.count_eq_zero.1 hnone⟩, if_pos hown]
      simp [hnone]
  · rw [if_neg fun h => hown h.1, hps, if_neg hown]
    simp [hown]

/-- An adapter is on the bus as often as before, unless it is started or stopped. -/
lemma count_seat (hpart : OwnHandler part) {ps : List Party} {n : Nat} {on : Bool}
    (hps : ps.count (.adapter n) = if key = topic ∧ on then 1 else 0) (step : LifeStep) :
    (seat part key topic ps step).count (.adapter n) =
      if key = topic ∧ turns n on step then 1 else 0 := by
  cases step with
  | start m =>
    by_cases hm : m = n
    · subst hm
      rw [count_seat_start hps]
      simp [turns]
    · have hne : Party.adapter m ≠ .adapter n := by simpa using hm
      rw [turns, if_neg hm, ← hps, seat]
      split
      · simp [hne]
      · rfl
  | stop m broken =>
    by_cases hm : m = n
    · subst hm
      have hle : ps.count (.adapter m) ≤ 1 := by
        rw [hps]
        split <;> omega
      rw [seat, List.count_erase_self]
      simp only [turns, if_true, Bool.false_eq_true, and_false, if_false]
      omega
    · have hne : Party.adapter n ≠ .adapter m := by simpa using Ne.symm hm
      rw [seat, List.count_erase_of_ne hne, hps, turns, if_neg hm]
  | add watcher => rw [(count_seat_others hpart ps n watcher).1, hps, turns]
  | remove watcher => rw [(count_seat_others hpart ps n watcher).2, hps, turns]

/-- An adapter stands on the bus once while it runs, on the topic of adapters, and never else. -/
lemma count_parties (hpart : OwnHandler part) (steps : List LifeStep) (n : Nat) :
    (parties part key steps topic).count (.adapter n) =
      if key = topic ∧ runs n steps then 1 else 0 := by
  induction steps using List.reverseRecOn with
  | nil => simp [parties, runs]
  | append_singleton steps step ih =>
    rw [parties_concat, runs_concat]
    exact count_seat hpart ih step

lemma adapter_mem_parties (hpart : OwnHandler part) {steps : List LifeStep} {n : Nat} :
    .adapter n ∈ parties part key steps topic ↔ key = topic ∧ runs n steps = true := by
  rw [← List.count_pos_iff, count_parties hpart]
  by_cases hruns : key = topic ∧ runs n steps = true
  · simp [hruns]
  · simp [hruns]

/-! ## The others among the parties -/

lemma filterMap_erase_adapter (ps : List Party) (n : Nat) :
    (ps.erase (.adapter n)).filterMap Party.other? = ps.filterMap Party.other? := by
  induction ps with
  | nil => rfl
  | cons p rest ih =>
    by_cases hp : p = .adapter n
    · subst hp
      rw [List.erase_cons_head]
      rfl
    · rw [List.erase_cons_tail (by simpa using hp), List.filterMap_cons, List.filterMap_cons, ih]

lemma filterMap_erase_other (ps : List Party) (n : Nat) :
    (ps.erase (.other n)).filterMap Party.other? = (ps.filterMap Party.other?).erase n := by
  induction ps with
  | nil => rfl
  | cons p rest ih =>
    by_cases hp : p = .other n
    · subst hp
      rw [List.erase_cons_head, List.filterMap_cons]
      exact (List.erase_cons_head _ _).symm
    · rw [List.erase_cons_tail (by simpa using hp), List.filterMap_cons, List.filterMap_cons, ih]
      cases p with
      | adapter m => rfl
      | other m =>
        have hm : m ≠ n := by simpa using hp
        exact (List.erase_cons_tail (by simpa using hm)).symm

/-- Each of the others is subscribed once. -/
def Single (watchers : List Watcher) : Prop :=
  (watchers.map Watcher.listener).Nodup

lemma Single.keep {watchers : List Watcher} {step : LifeStep} (hsingle : Single watchers)
    (hfair : step.Fair watchers) : Single (step.keep watchers) := by
  cases step with
  | add watcher =>
    rw [Single, LifeStep.keep, List.map_append, List.map_singleton]
    refine List.nodup_append.2 ⟨hsingle, List.nodup_singleton _, ?_⟩
    rintro n hn m hm rfl
    obtain ⟨other, hother, hsame⟩ := List.mem_map.1 hn
    exact hfair other hother (hsame.trans (List.mem_singleton.1 hm))
  | remove watcher => exact List.Nodup.sublist (List.erase_sublist.map _) hsingle
  | start n => exact hsingle
  | stop n broken => exact hsingle

/-- Whoever is removed is taken from those who are asked for, and nobody else is. -/
lemma flatMap_erase (hpart : OwnHandler part) {watchers : List Watcher} (hsingle : Single watchers)
    {watcher : Watcher} (hfair : (remove watcher).Fair watchers) :
    (watchers.erase watcher).flatMap (fun other => (part other).handlers topic) =
      ((part watcher).handlers topic).foldl List.erase
        (watchers.flatMap fun other => (part other).handlers topic) := by
  have habsent : ∀ before : List Watcher, (∀ other ∈ before, other.listener ≠ watcher.listener) →
      watcher.listener ∉ before.flatMap fun other => (part other).handlers topic := by
    intro before hother hmem
    obtain ⟨other, hin, hasks⟩ := List.mem_flatMap.1 hmem
    rcases hpart other topic with hnone | hone
    · simp [hnone] at hasks
    · rw [hone, List.mem_singleton] at hasks
      exact hother other hin hasks.symm
  by_cases hmem : watcher ∈ watchers
  · obtain ⟨before, behind, hnot, rfl, herase⟩ := List.exists_erase_eq hmem
    have hbefore : ∀ other ∈ before, other.listener ≠ watcher.listener := by
      intro other hin hsame
      exact hnot (hfair other (List.mem_append_left _ hin) hsame ▸ hin)
    rw [herase, List.flatMap_append, List.flatMap_append, List.flatMap_cons]
    rcases hpart watcher topic with hnone | hone
    · simp [hnone]
    · rw [hone, List.foldl_cons, List.foldl_nil, List.erase_append_right _ (habsent before hbefore),
        List.singleton_append, List.erase_cons_head]
  · rw [List.erase_of_not_mem hmem]
    have hnot : watcher.listener ∉ watchers.flatMap fun other => (part other).handlers topic :=
      habsent watchers fun other hin hsame => hmem (hfair other hin hsame ▸ hin)
    rcases hpart watcher topic with hnone | hone
    · simp [hnone]
    · rw [hone, List.foldl_cons, List.foldl_nil, List.erase_of_not_mem hnot]

/-- The others stand on the bus in the order of their subscriptions, whatever adapters do. -/
lemma filterMap_seat (hpart : OwnHandler part) {ps : List Party} {watchers : List Watcher}
    {step : LifeStep} (hsingle : Single watchers) (hfair : step.Fair watchers)
    (hps : ps.filterMap Party.other? = watchers.flatMap fun other => (part other).handlers topic) :
    (seat part key topic ps step).filterMap Party.other? =
      (step.keep watchers).flatMap fun other => (part other).handlers topic := by
  cases step with
  | start n =>
    rw [seat, keep, ← hps]
    split
    · simp [Party.other?]
    · rfl
  | stop n broken => rw [seat, keep, filterMap_erase_adapter, hps]
  | add watcher =>
    rw [seat, keep, List.filterMap_append, hps, List.flatMap_append, List.flatMap_singleton,
      List.filterMap_map]
    exact congrArg _ (List.filterMap_some)
  | remove watcher =>
    rw [seat, keep, flatMap_erase hpart hsingle hfair, ← hps]
    rcases hpart watcher topic with hnone | hone
    · simp [hnone]
    · simp [hone, filterMap_erase_other]

lemma fairFrom_concat {watchers : List Watcher} {steps : List LifeStep} {step : LifeStep} :
    FairFrom watchers (steps ++ [step]) ↔
      FairFrom watchers steps ∧ step.Fair (steps.foldl keep watchers) := by
  induction steps generalizing watchers with
  | nil => simp [FairFrom]
  | cons first rest ih =>
    rw [List.cons_append, FairFrom, FairFrom, ih, List.foldl_cons, and_assoc]

lemma others_parties (hpart : OwnHandler part) (key : String) {steps : List LifeStep}
    (hfair : FairFrom [] steps) :
    Single (remaining steps) ∧ ∀ topic, (parties part key steps topic).filterMap Party.other? =
      (remaining steps).flatMap fun other => (part other).handlers topic := by
  induction steps using List.reverseRecOn with
  | nil => exact ⟨List.nodup_nil, fun topic => rfl⟩
  | append_singleton steps step ih =>
    obtain ⟨hbefore, hstep⟩ := fairFrom_concat.1 hfair
    obtain ⟨hsingle, hothers⟩ := ih hbefore
    refine ⟨?_, fun topic => ?_⟩
    · rw [remaining_concat]
      exact hsingle.keep hstep
    · rw [parties_concat, remaining_concat]
      exact filterMap_seat hpart hsingle hstep (hothers topic)

lemma count_other (ps : List Party) (n : Nat) :
    ps.count (.other n) = (ps.filterMap Party.other?).count n := by
  induction ps with
  | nil => rfl
  | cons p rest ih =>
    cases p with
    | adapter m =>
      rw [List.count_cons_of_ne (by simp), ih]
      rfl
    | other m => simp [Party.other?, List.count_cons, ih]

lemma handlers_sublist (hpart : OwnHandler part) (watchers : List Watcher) (topic : String) :
    (watchers.flatMap fun other => (part other).handlers topic).Sublist
      (watchers.map Watcher.listener) := by
  induction watchers with
  | nil => exact List.Sublist.refl _
  | cons watcher rest ih =>
    rw [List.flatMap_cons, List.map_cons]
    rcases hpart watcher topic with hnone | hone
    · rw [hnone]
      exact ih.cons _
    · rw [hone]
      exact ih.cons_cons _

/-- Nobody stands on a bus twice. -/
lemma nodup_parties (hpart : OwnHandler part) {steps : List LifeStep}
    (hfair : FairFrom [] steps) : (parties part key steps topic).Nodup := by
  obtain ⟨hsingle, hothers⟩ := others_parties hpart key hfair
  rw [List.nodup_iff_count_le_one]
  rintro (n | n)
  · rw [count_parties hpart]
    split <;> omega
  · rw [count_other, hothers]
    have hnodup := (handlers_sublist hpart (remaining steps) topic).nodup hsingle
    exact List.nodup_iff_count_le_one.1 hnodup n

lemma other_mem_seat (hpart : OwnHandler part) {ps : List Party} {step : LifeStep} {n : Nat}
    (hmem : .other n ∈ seat part key topic ps step) :
    .other n ∈ ps ∨ ∃ watcher ∈ step.watcher?, watcher.listener = n := by
  cases step with
  | start m =>
    rw [seat] at hmem
    split at hmem
    · exact Or.inl (by simpa using hmem)
    · exact Or.inl hmem
  | stop m broken => exact Or.inl (List.mem_of_mem_erase hmem)
  | add watcher =>
    rcases hpart watcher topic with hnone | hone
    · simpa [seat, hnone] using Or.inl hmem
    · have hcases : .other n ∈ ps ∨ n = watcher.listener := by simpa [seat, hone] using hmem
      exact hcases.imp_right fun hsame => ⟨watcher, rfl, hsame.symm⟩
  | remove watcher =>
    left
    rcases hpart watcher topic with hnone | hone
    · simpa [seat, hnone] using hmem
    · rw [seat, hone] at hmem
      exact List.mem_of_mem_erase hmem

lemma other_lt (hpart : OwnHandler part) {steps : List LifeStep} {first : Nat}
    (hothers : ∀ step ∈ steps, ∀ watcher ∈ step.watcher?, watcher.listener < first) {n : Nat}
    (hmem : .other n ∈ parties part key steps topic) : n < first := by
  induction steps using List.reverseRecOn with
  | nil => cases hmem
  | append_singleton steps step ih =>
    rw [parties_concat] at hmem
    rcases other_mem_seat hpart hmem with hbefore | ⟨watcher, hwatcher, rfl⟩
    · exact ih (fun other hin => hothers other (List.mem_append_left _ hin)) hbefore
    · exact hothers step (by simp) watcher hwatcher

end LifeStep

/-! ## Parties and their listeners -/

lemma map_erase_of_eq {α β : Type} [DecidableEq α] [DecidableEq β] {f : α → β} {a : α} {l : List α}
    (hinj : ∀ x ∈ l, f x = f a → x = a) : (l.erase a).map f = (l.map f).erase (f a) := by
  induction l with
  | nil => rfl
  | cons x rest ih =>
    by_cases hx : x = a
    · subst hx
      rw [List.erase_cons_head, List.map_cons, List.erase_cons_head]
    · have hne : f x ≠ f a := fun hsame => hx (hinj x List.mem_cons_self hsame)
      rw [List.erase_cons_tail (by simpa using hx), List.map_cons, List.map_cons,
        List.erase_cons_tail (by simpa using hne),
        ih fun y hy => hinj y (List.mem_cons_of_mem x hy)]

/-- Parties are told apart by their listeners: the others have the first ones, and each adapter has
a later one of its own. -/
structure TellsApart (first : Nat) (own : Nat → Nat) (ps : List Party) : Prop where
  others : ∀ n, .other n ∈ ps → n < first
  adapters : ∀ n, .adapter n ∈ ps → first ≤ own n
  distinct : ∀ n m, .adapter n ∈ ps → .adapter m ∈ ps → own n = own m → n = m

namespace TellsApart

variable {first : Nat} {own : Nat → Nat} {ps : List Party}

lemma eq_other (hps : TellsApart first own ps) {p : Party} (hp : p ∈ ps) {n : Nat} (hn : n < first)
    (hsame : p.listener own = n) : p = .other n := by
  cases p with
  | adapter m =>
    have hle := hps.adapters m hp
    have hown : own m = n := hsame
    omega
  | other m => exact congrArg Party.other hsame

lemma eq_adapter (hps : TellsApart first own ps) {p : Party} (hp : p ∈ ps) {n : Nat}
    (hn : .adapter n ∈ ps) (hsame : p.listener own = own n) : p = .adapter n := by
  cases p with
  | adapter m => exact congrArg Party.adapter (hps.distinct m n hp hn hsame)
  | other m =>
    have hlt := hps.others m hp
    have hle := hps.adapters n hn
    have hown : m = own n := hsame
    omega

lemma nodup_map (hps : TellsApart first own ps) (hnodup : ps.Nodup) :
    (ps.map (Party.listener own)).Nodup := by
  refine (List.nodup_map_iff_inj_on hnodup).2 fun p hp q hq hsame => ?_
  cases q with
  | adapter n => exact hps.eq_adapter hp hq hsame
  | other n => exact hps.eq_other hp (hps.others n hq) hsame

lemma map_erase_other (hps : TellsApart first own ps) {n : Nat} (hn : n < first) :
    (ps.erase (.other n)).map (Party.listener own) = (ps.map (Party.listener own)).erase n :=
  map_erase_of_eq fun _ hp hsame => hps.eq_other hp hn hsame

lemma map_erase_adapter (hps : TellsApart first own ps) {n : Nat} (hn : .adapter n ∈ ps) :
    (ps.erase (.adapter n)).map (Party.listener own) =
      (ps.map (Party.listener own)).erase (own n) :=
  map_erase_of_eq fun _ hp hsame => hps.eq_adapter hp hn hsame

end TellsApart

/-- The listeners of parties among whom an adapter is not do not depend on its own. -/
lemma map_listener_update {own : Nat → Nat} {ps : List Party} {n : Nat} (hn : .adapter n ∉ ps)
    (listener : Nat) :
    ps.map (Party.listener (Function.update own n listener)) = ps.map (Party.listener own) := by
  refine List.map_congr_left fun p hp => ?_
  cases p with
  | adapter m =>
    have hne : m ≠ n := fun hsame => hn (hsame ▸ hp)
    exact Function.update_of_ne hne _ _
  | other m => rfl

/-! ## The listeners of the parties after a step -/

section Seats

variable {part : Watcher → Interest Nat} {key topic : String} {own : Nat → Nat}
  {ps : List Party} {first n : Nat}

lemma map_seat_start (hnot : .adapter n ∉ ps) (listener : Nat) :
    (seat part key topic ps (.start n)).map
        (Party.listener (Function.update own n listener)) =
      ps.map (Party.listener own) ++ if key = topic then [listener] else [] := by
  rw [seat]
  by_cases hkey : key = topic
  · rw [if_pos ⟨hkey, hnot⟩, if_pos hkey, List.map_append, map_listener_update hnot]
    simp [Party.listener]
  · rw [if_neg fun h => hkey h.1, if_neg hkey, map_listener_update hnot, List.append_nil]

lemma map_seat_stop (hps : TellsApart first own ps) {on : Bool}
    (hmem : .adapter n ∈ ps ↔ key = topic ∧ on = true) (broken : List String) :
    (seat part key topic ps (.stop n broken)).map (Party.listener own) =
      (if on then (if key = topic then [own n] else []) else []).foldl List.erase
        (ps.map (Party.listener own)) := by
  rw [seat]
  by_cases hin : .adapter n ∈ ps
  · rw [if_pos (hmem.1 hin).2, if_pos (hmem.1 hin).1, hps.map_erase_adapter hin]
    rfl
  · rw [List.erase_of_not_mem hin]
    split
    · rename_i hon
      rw [if_neg fun hkey => hin (hmem.2 ⟨hkey, hon⟩)]
      rfl
    · rfl

lemma map_seat_add (watcher : Watcher) :
    (seat part key topic ps (.add watcher)).map (Party.listener own) =
      ps.map (Party.listener own) ++ (part watcher).handlers topic := by
  rw [seat, List.map_append, List.map_map]
  exact congrArg _ (List.map_id _)

lemma map_seat_remove (hpart : OwnHandler part) (hps : TellsApart first own ps) {watcher : Watcher}
    (hwatcher : watcher.listener < first) :
    (seat part key topic ps (.remove watcher)).map (Party.listener own) =
      ((part watcher).handlers topic).foldl List.erase (ps.map (Party.listener own)) := by
  rw [seat]
  rcases hpart watcher topic with hnone | hone
  · rw [hnone]
    rfl
  · rw [hone]
    exact hps.map_erase_other hwatcher

end Seats

end LanguageHost
