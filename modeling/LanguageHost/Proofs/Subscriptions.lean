import Mathlib.Data.List.Nodup
import Mathlib.Data.Nat.Basic
import Mathlib.Data.Nat.Bitwise
import LanguageHost.Proofs.Turn

/-!
# Whom a publication calls

A bus does not know the subscriptions that it is asked to take back: it takes away the oldest one of
an equal handler. So after any run of subscribing and taking back, a publication calls the handlers
whose subscriptions stand, in their order and each once, exactly as long as no step slips: no
subscription is taken back past an older one of the same handler with another handler's in between,
and none is taken back again while the same handler is subscribed anew.

What stands is kept in a list of grants here, with a mark for the calls of what they returned, and
compared with the bus step by step. A listener of a store or a workspace subscribes by one grant
each, to the topic of preferences or to one topic for each event type in its mask.

A handler may use the bus itself. Whom a publication calls is settled when it begins, so what is
done to the bus meanwhile are further steps of the run, and the next publication finds them done.
-/

namespace LanguageHost

variable {η : Type}

/-- What one call subscribes: at most one handler for each topic. -/
structure Interest (η : Type) where
  subscriptions : List (Subscription η)
  distinct : (subscriptions.map Subscription.topic).Nodup

namespace Interest

/-- One handler for one topic. -/
def one (topic : String) (handler : η) : Interest η :=
  ⟨[⟨topic, handler⟩], List.nodup_singleton _⟩

/-- An interest for nothing. -/
def nothing : Interest η :=
  ⟨[], List.nodup_nil⟩

/-- The handlers that are asked for on a topic. -/
def handlers (interest : Interest η) (topic : String) : List η :=
  (interest.subscriptions.filter fun s => s.topic = topic).map Subscription.handler

/-- Subscribes everything that it asks for. -/
def subscribe (interest : Interest η) (bus : Bus η) : Bus η :=
  interest.subscriptions.foldl (fun bus s => bus.subscribe s.topic s.handler) bus

/-- Takes everything that it asked for back. -/
def unsubscribe [DecidableEq η] (interest : Interest η) (bus : Bus η) : Bus η :=
  interest.subscriptions.foldl Bus.unsubscribe bus

end Interest

/-- An interest that was granted, and whether what it returned has been called. -/
structure Grant (η : Type) where
  interest : Interest η
  revoked : Bool

/-- The handlers that stand for a topic, in the order of their grants. -/
def standing (grants : List (Grant η)) (topic : String) : List η :=
  grants.flatMap fun grant => if grant.revoked then [] else grant.interest.handlers topic

/-- What is done to a bus. Whoever takes a grant back says how many there were before it. -/
inductive BusUse (η : Type) where
  | subscribe (interest : Interest η)
  | unsubscribe (n : Nat)

/-- A bus and all grants that were made on it. -/
structure GrantedBus (η : Type) where
  bus : Bus η
  grants : List (Grant η)

namespace BusUse

/-- The grants after a use. -/
def record : BusUse η → List (Grant η) → List (Grant η)
  | subscribe interest, grants => grants ++ [⟨interest, false⟩]
  | unsubscribe n, grants => grants.modify n fun grant => { grant with revoked := true }

/-- The bus after a use. -/
def apply [DecidableEq η] (grants : List (Grant η)) : BusUse η → Bus η → Bus η
  | subscribe interest, bus => interest.subscribe bus
  | unsubscribe n, bus =>
    match grants[n]? with
    | some grant => grant.interest.unsubscribe bus
    | none => bus

/-- An older subscription of the same handler stands, and one of another handler after it. -/
def Overtaken (handler : η) (older : List η) : Prop :=
  ∃ before between, older = before ++ handler :: between ∧ ∃ other ∈ between, other ≠ handler

/-- The use takes back another subscription than its own: its own stands behind one of the same
handler and one of another handler, or it does not stand any more and the handler is subscribed. -/
def Slips (grants : List (Grant η)) : BusUse η → Prop
  | subscribe _ => False
  | unsubscribe n => ∃ grant ∈ grants[n]?, ∃ s ∈ grant.interest.subscriptions,
    if grant.revoked then s.handler ∈ standing grants s.topic
    else Overtaken s.handler (standing (grants.take n) s.topic)

/-- No use slips, from some grants on. -/
def SlipFree : List (Grant η) → List (BusUse η) → Prop
  | _, [] => True
  | grants, use :: rest => ¬ use.Slips grants ∧ SlipFree (use.record grants) rest

/-- The grants after some uses. -/
def granted (uses : List (BusUse η)) : List (Grant η) :=
  uses.foldl (fun grants use => use.record grants) []

end BusUse

namespace GrantedBus

variable [DecidableEq η]

/-- Uses the bus. -/
def perform (s : GrantedBus η) (use : BusUse η) : GrantedBus η :=
  ⟨use.apply s.grants s.bus, use.record s.grants⟩

/-- What some uses lead to. -/
def performAll (s : GrantedBus η) (uses : List (BusUse η)) : GrantedBus η :=
  uses.foldl perform s

/-- The subscribers of each topic are the handlers that stand. -/
def Exact (s : GrantedBus η) : Prop :=
  ∀ topic, s.bus.subscribers topic = standing s.grants topic

end GrantedBus

/-- A publication on a topic calls these handlers: whatever a handler does and whether it fails, each
is called once, where the one before it left off. -/
def Bus.Calls (bus : Bus η) (topic : String) (handlers : List η) : Prop :=
  ∀ {σ : Type} (call : η → ExceptT Fault (StateM σ) Unit) (report : Fault → σ → σ) (s : σ),
    Bus.deliver call report (bus.subscribers topic) s =
      (.ok (), handlers.foldl (Bus.attempt call report) s)

/-! ## Publications -/

lemma Bus.calls_iff {bus : Bus η} {topic : String} {handlers : List η} :
    bus.Calls topic handlers ↔ bus.subscribers topic = handlers := by
  constructor
  · intro hcalls
    -- handlers that only note that they are called tell the two lists apart
    have hnoted : ∀ hs noted : List η, hs.foldl
        (Bus.attempt (fun handler => modify fun noted => noted ++ [handler]) fun _ noted => noted)
          noted = noted ++ hs := by
      intro hs
      induction hs with
      | nil => exact fun noted => (List.append_nil noted).symm
      | cons handler rest ih =>
        intro noted
        rw [List.foldl_cons, ih, List.append_cons]
        rfl
    have hsame := hcalls (fun handler => modify fun noted => noted ++ [handler])
      (fun _ noted => noted) []
    rw [Bus.deliver_eq, Prod.mk.injEq, hnoted, hnoted] at hsame
    exact hsame.2
  · rintro rfl σ call report s
    exact Bus.deliver_eq call report _ s

/-! ## Interests and buses -/

namespace Interest

lemma handlers_of_mem {interest : Interest η} {s : Subscription η}
    (hs : s ∈ interest.subscriptions) : interest.handlers s.topic = [s.handler] := by
  obtain ⟨subscriptions, hdistinct⟩ := interest
  induction subscriptions with
  | nil => cases hs
  | cons x rest ih =>
    obtain ⟨hx, hrest⟩ := List.nodup_cons.1 hdistinct
    rcases List.mem_cons.1 hs with rfl | hmem
    · have hnone : rest.filter (fun y => y.topic = s.topic) = [] :=
        List.filter_eq_nil_iff.2 fun y hy hsame =>
          hx (List.mem_map.2 ⟨y, hy, of_decide_eq_true hsame⟩)
      simp [handlers, hnone]
    · have hne : x.topic ≠ s.topic := fun hsame => hx (List.mem_map.2 ⟨s, hmem, hsame.symm⟩)
      have htail := ih hrest hmem
      simpa [handlers, hne] using htail

lemma handlers_of_forall_ne {interest : Interest η} {topic : String}
    (hnone : ∀ s ∈ interest.subscriptions, s.topic ≠ topic) : interest.handlers topic = [] := by
  have hempty : interest.subscriptions.filter (fun s => s.topic = topic) = [] :=
    List.filter_eq_nil_iff.2 fun s hs hsame => hnone s hs (of_decide_eq_true hsame)
  rw [handlers, hempty, List.map_nil]

lemma subscribers_subscribe (interest : Interest η) (bus : Bus η) (topic : String) :
    (interest.subscribe bus).subscribers topic =
      bus.subscribers topic ++ interest.handlers topic := by
  unfold subscribe handlers
  generalize interest.subscriptions = subscriptions
  induction subscriptions generalizing bus with
  | nil => exact (List.append_nil _).symm
  | cons s rest ih =>
    rw [List.foldl_cons, ih, Bus.subscribers_subscribe]
    by_cases htopic : s.topic = topic
    · simp [htopic]
    · simp [htopic]

lemma subscribers_unsubscribe [DecidableEq η] (interest : Interest η) (bus : Bus η)
    (topic : String) :
    (interest.unsubscribe bus).subscribers topic =
      (interest.handlers topic).foldl List.erase (bus.subscribers topic) := by
  unfold unsubscribe handlers
  generalize interest.subscriptions = subscriptions
  induction subscriptions generalizing bus with
  | nil => rfl
  | cons s rest ih =>
    rw [List.foldl_cons, ih, Bus.subscribers_unsubscribe]
    by_cases htopic : s.topic = topic
    · simp [htopic]
    · simp [htopic]

end Interest

/-! ## One use -/

lemma standing_append (grants grants' : List (Grant η)) (topic : String) :
    standing (grants ++ grants') topic = standing grants topic ++ standing grants' topic :=
  List.flatMap_append

lemma standing_cons (grant : Grant η) (grants : List (Grant η)) (topic : String) :
    standing (grant :: grants) topic =
      (if grant.revoked then [] else grant.interest.handlers topic) ++ standing grants topic :=
  List.flatMap_cons

namespace BusUse

/-- Moving an element to the front makes no difference exactly if it only passes equal ones. -/
lemma append_cons_eq_cons_append_iff (older : List η) (handler : η) (newer : List η) :
    older ++ handler :: newer = handler :: (older ++ newer) ↔ ∀ x ∈ older, x = handler := by
  induction older with
  | nil => exact iff_of_true rfl (List.forall_mem_nil _)
  | cons x older ih =>
    rw [List.cons_append, List.cons_append, List.cons.injEq, List.forall_mem_cons]
    refine and_congr_right ?_
    rintro rfl
    exact ih

lemma overtaken_cons {handler x : η} {older : List η} :
    Overtaken handler (x :: older) ↔
      (x = handler ∧ ∃ other ∈ older, other ≠ handler) ∨ Overtaken handler older := by
  constructor
  · rintro ⟨_ | ⟨y, before⟩, between, hsplit, hother⟩
    · cases hsplit
      exact Or.inl ⟨rfl, hother⟩
    · cases hsplit
      exact Or.inr ⟨before, between, rfl, hother⟩
  · rintro (⟨rfl, hother⟩ | ⟨before, between, rfl, hother⟩)
    · exact ⟨[], older, rfl, hother⟩
    · exact ⟨x :: before, between, rfl, hother⟩

lemma not_overtaken_of_forall_eq {handler : η} {older : List η} (h : ∀ x ∈ older, x = handler) :
    ¬ Overtaken handler older := by
  rintro ⟨before, between, rfl, other, hmem, hne⟩
  exact hne (h other (List.mem_append_right _ (List.mem_cons_of_mem _ hmem)))

/-- What stands before and after a grant is taken back. -/
lemma standing_revoke {grants : List (Grant η)} {n : Nat} {grant : Grant η}
    (hgrant : grants[n]? = some grant) (topic : String) :
    standing grants topic = standing (grants.take n) topic ++
      (if grant.revoked then [] else grant.interest.handlers topic) ++
        standing (grants.drop (n + 1)) topic ∧
    standing (record (.unsubscribe n) grants) topic =
      standing (grants.take n) topic ++ standing (grants.drop (n + 1)) topic := by
  obtain ⟨hn, rfl⟩ := List.getElem?_eq_some_iff.1 hgrant
  constructor
  · conv_lhs => rw [← List.take_append_drop n grants, List.drop_eq_getElem_cons hn]
    rw [standing_append, standing_cons, List.append_assoc]
  · rw [record, List.modify_eq_take_cons_drop hn, standing_append, standing_cons]
    rfl

/-- Only the topics of the interest have to be looked at when it is taken back. -/
lemma forall_topic_iff (interest : Interest η) {P : String → Prop}
    (hother : ∀ topic, interest.handlers topic = [] → P topic) :
    (∀ topic, P topic) ↔ ∀ s ∈ interest.subscriptions, P s.topic := by
  refine ⟨fun h s _ => h s.topic, fun h topic => ?_⟩
  by_cases hnone : ∀ s ∈ interest.subscriptions, s.topic ≠ topic
  · exact hother topic (Interest.handlers_of_forall_ne hnone)
  · push Not at hnone
    obtain ⟨s, hs, rfl⟩ := hnone
    exact h s hs

section

variable [DecidableEq η]

instance decidableOvertaken (handler : η) : (older : List η) → Decidable (Overtaken handler older)
  | [] => isFalse (not_overtaken_of_forall_eq (List.forall_mem_nil _))
  | x :: older =>
    have := decidableOvertaken handler older
    decidable_of_iff _ (overtaken_cons (x := x)).symm

instance decidableSlips (grants : List (Grant η)) : (use : BusUse η) → Decidable (use.Slips grants)
  | subscribe _ => isFalse not_false
  | unsubscribe n => inferInstanceAs (Decidable (∃ grant ∈ grants[n]?,
      ∃ s ∈ grant.interest.subscriptions, if grant.revoked then s.handler ∈ standing grants s.topic
        else Overtaken s.handler (standing (grants.take n) s.topic)))

instance decidableSlipFree : (grants : List (Grant η)) → (uses : List (BusUse η)) →
    Decidable (SlipFree grants uses)
  | _, [] => isTrue trivial
  | grants, use :: rest =>
    have := decidableSlipFree (use.record grants) rest
    inferInstanceAs (Decidable (¬ use.Slips grants ∧ SlipFree (use.record grants) rest))

/-- Taking the oldest equal handler away takes this one away exactly if it is not overtaken. -/
lemma erase_append_cons_iff (older : List η) (handler : η) (newer : List η) :
    (older ++ handler :: newer).erase handler = older ++ newer ↔ ¬ Overtaken handler older := by
  induction older with
  | nil => exact iff_of_true (List.erase_cons_head _ _) (not_overtaken_of_forall_eq (by simp))
  | cons x older ih =>
    by_cases hx : x = handler
    · subst hx
      rw [List.cons_append, List.erase_cons_head, List.cons_append, append_cons_eq_cons_append_iff,
        overtaken_cons]
      constructor
      · rintro hall (⟨-, other, hmem, hne⟩ | hovertaken)
        · exact hne (hall other hmem)
        · exact not_overtaken_of_forall_eq hall hovertaken
      · intro hnot other hmem
        by_contra hne
        exact hnot (Or.inl ⟨rfl, other, hmem, hne⟩)
    · rw [List.cons_append, List.erase_cons_tail (by simpa using hx), List.cons_append,
        List.cons.injEq, overtaken_cons, ih]
      simp [hx]

lemma exact_unsubscribe_iff {s : GrantedBus η} (hexact : s.Exact) (n : Nat) :
    (s.perform (.unsubscribe n)).Exact ↔ ¬ Slips s.grants (.unsubscribe n) := by
  rcases hgrant : s.grants[n]? with _ | ⟨interest, revoked⟩
  · have hlength : s.grants.length ≤ n := List.getElem?_eq_none_iff.1 hgrant
    have hsame : s.perform (.unsubscribe n) = s := by
      rw [GrantedBus.perform, apply, record, hgrant, List.modify_eq_self hlength]
    refine iff_of_true (hsame.symm ▸ hexact) ?_
    rintro ⟨grant, hmem, -⟩
    rw [hgrant] at hmem
    cases hmem
  · have hbus : ∀ topic, (s.perform (.unsubscribe n)).bus.subscribers topic =
        (interest.handlers topic).foldl List.erase (standing s.grants topic) := by
      intro topic
      rw [← hexact topic, ← Interest.subscribers_unsubscribe, GrantedBus.perform, apply, hgrant]
    have hgrants : ∀ topic, standing (s.perform (.unsubscribe n)).grants topic =
        standing (s.grants.take n) topic ++ standing (s.grants.drop (n + 1)) topic :=
      fun topic => (standing_revoke hgrant topic).2
    have hbefore := fun topic => (standing_revoke hgrant topic).1
    simp only [GrantedBus.Exact, hbus, hgrants]
    rw [forall_topic_iff interest fun topic hnone => by
      rw [hbefore, hnone, List.foldl_nil, ite_self, List.append_nil]]
    have hslips : Slips s.grants (.unsubscribe n) ↔ ∃ x ∈ interest.subscriptions,
        if revoked then x.handler ∈ standing s.grants x.topic
        else Overtaken x.handler (standing (s.grants.take n) x.topic) := by
      simp [Slips, hgrant]
    rw [hslips, not_exists]
    refine forall_congr' fun x => ?_
    rw [not_and]
    refine imp_congr_right fun hx => ?_
    rw [Interest.handlers_of_mem hx, List.foldl_cons, List.foldl_nil]
    have hhere := hbefore x.topic
    rw [Interest.handlers_of_mem hx] at hhere
    cases revoked with
    | false =>
      rw [hhere]
      simp only [Bool.false_eq_true, if_false, List.append_assoc, List.singleton_append,
        erase_append_cons_iff]
    | true =>
      rw [if_pos rfl, List.append_nil] at hhere
      rw [hhere, List.erase_eq_self_iff, ← hhere]
      simp

/-- A use keeps to what stands exactly if it does not slip. -/
lemma exact_perform_iff {s : GrantedBus η} (hexact : s.Exact) (use : BusUse η) :
    (s.perform use).Exact ↔ ¬ use.Slips s.grants := by
  cases use with
  | subscribe interest =>
    refine iff_of_true (fun topic => ?_) not_false
    change (interest.subscribe s.bus).subscribers topic =
      standing (s.grants ++ [⟨interest, false⟩]) topic
    rw [Interest.subscribers_subscribe, hexact, standing_append, standing_cons]
    simp [standing]
  | unsubscribe n => exact exact_unsubscribe_iff hexact n

end

end BusUse

/-! ## Runs -/

namespace GrantedBus

variable [DecidableEq η]

lemma grants_performAll (s : GrantedBus η) (uses : List (BusUse η)) :
    (s.performAll uses).grants = uses.foldl (fun grants use => use.record grants) s.grants := by
  induction uses generalizing s with
  | nil => rfl
  | cons use rest ih => exact ih (s.perform use)

/-- A run keeps to what stands all along exactly if none of its uses slips. -/
theorem exact_along_iff {s : GrantedBus η} (hexact : s.Exact) (uses : List (BusUse η)) :
    (∀ before, before <+: uses → (s.performAll before).Exact) ↔
      BusUse.SlipFree s.grants uses := by
  have hclean : ∀ (s : GrantedBus η) use rest, s.Exact →
      (BusUse.SlipFree s.grants (use :: rest) ↔
        (s.perform use).Exact ∧ BusUse.SlipFree (s.perform use).grants rest) := by
    intro s use rest hs
    rw [BusUse.SlipFree, ← BusUse.exact_perform_iff hs]
    rfl
  exact forall_prefix_foldl_iff (fun _ => trivial) hclean hexact uses

/-- On a bus that nobody is subscribed to, publications call whoever stands all along exactly if no
use slips. -/
lemma calls_along_iff {bus : Bus η} (hquiet : ∀ topic, bus.subscribers topic = [])
    (uses : List (BusUse η)) :
    (∀ before, before <+: uses → ∀ topic, (performAll ⟨bus, []⟩ before).bus.Calls topic
      (standing (BusUse.granted before) topic)) ↔ BusUse.SlipFree [] uses := by
  have hexact : Exact ⟨bus, []⟩ := hquiet
  rw [← exact_along_iff hexact]
  simp only [Bus.calls_iff, Exact, grants_performAll, BusUse.granted]

end GrantedBus

/-! ## Listeners of a store and a workspace -/

/-- Which changes a listener wants to hear of: those of a store, or the events in a mask that happen
in a workspace. -/
inductive Watcher where
  | preferences (listener : Nat)
  | resources (mask : Int) (listener : Nat)

/-- A listener is added, or the registration before which there were so many is undone. -/
inductive WatchStep where
  | add (watcher : Watcher)
  | undo (n : Nat)

/-- A host, and all registrations that were made in it. -/
structure Watched (γ : Type) where
  host : Host γ
  registrations : List Registration

lemma resourceTopic_injective : Function.Injective resourceTopic := by
  intro m n hsame
  rw [resourceTopic, resourceTopic, String.append_right_inj] at hsame
  have hdigits : Nat.toDigits 10 m = Nat.toDigits 10 n := String.ofList_injective hsame
  rw [← Nat.ofDigitChars_toDigits (b := 10) (n := m) (by decide) (by decide), hdigits,
    Nat.ofDigitChars_toDigits (by decide) (by decide)]

/-- From one bit on, the bits that are set in a mask are found in increasing order. -/
lemma exists_bits_maskBitsFrom (mask : Int) (bit : Nat) (hbit : 0 < bit) :
    ∀ i, bit = 2 ^ i → ∃ bits : List Nat, bits.Pairwise (· < ·) ∧
      (∀ j, j ∈ bits ↔ i ≤ j ∧ mask.toNat.testBit j = true) ∧
      Workspace.maskBitsFrom mask bit hbit = bits.map (2 ^ ·) := by
  have hclears : ∀ k, mask.toNat &&& 2 ^ k = 0 ↔ mask.toNat.testBit k = false := by
    intro k
    rw [Nat.and_two_pow]
    cases mask.toNat.testBit k <;> simp
  fun_induction Workspace.maskBitsFrom mask bit hbit with
  | case1 bit hbit hle higher hclear ih =>
    rintro i rfl
    obtain ⟨bits, hsorted, hmem, heq⟩ := ih (i + 1) Nat.pow_succ'.symm
    refine ⟨bits, hsorted, fun j => ?_, heq⟩
    rw [hmem]
    refine ⟨fun h => ⟨by omega, h.2⟩, fun h => ⟨?_, h.2⟩⟩
    have hother : j ≠ i := by
      rintro rfl
      cases ((hclears j).1 hclear).symm.trans h.2
    omega
  | case2 bit hbit hle higher hset ih =>
    rintro i rfl
    obtain ⟨bits, hsorted, hmem, heq⟩ := ih (i + 1) Nat.pow_succ'.symm
    have hthere : mask.toNat.testBit i = true := by
      rwa [hclears, Bool.not_eq_false] at hset
    refine ⟨i :: bits, List.pairwise_cons.2 ⟨fun j hj => ((hmem j).1 hj).1, hsorted⟩, fun j => ?_,
      by rw [List.map_cons, ← heq]⟩
    rw [List.mem_cons, hmem]
    constructor
    · rintro (rfl | h)
      · exact ⟨Nat.le_refl j, hthere⟩
      · exact ⟨by omega, h.2⟩
    · rintro ⟨hfrom, hj⟩
      exact (Nat.eq_or_lt_of_le hfrom).imp Eq.symm fun hlater => ⟨hlater, hj⟩
  | case3 bit hbit hbeyond =>
    rintro i rfl
    refine ⟨[], .nil, fun j => iff_of_false List.not_mem_nil ?_, rfl⟩
    rintro ⟨hfrom, hj⟩
    have hpow : 2 ^ i ≤ 2 ^ j := Nat.pow_le_pow_right Nat.two_pos hfrom
    rw [Nat.testBit_lt_two_pow (by omega)] at hj
    cases hj

lemma nodup_maskBits (mask : Int) : (Workspace.maskBits mask).Nodup := by
  obtain ⟨bits, hsorted, -, heq⟩ := exists_bits_maskBitsFrom mask 1 Nat.one_pos 0 rfl
  rw [Workspace.maskBits, heq]
  exact List.Nodup.map (Nat.pow_right_injective (Nat.le_refl 2)) (hsorted.imp Nat.ne_of_lt)

/-- One listener for every event type in a mask. -/
def Interest.masked (mask : Int) (listener : Nat) : Interest Nat where
  subscriptions := Workspace.maskSubscriptions mask listener
  distinct := by
    rw [Workspace.maskSubscriptions, List.map_map]
    exact (nodup_maskBits mask).map resourceTopic_injective

namespace Watcher

variable {γ : Type}

/-- What is asked of the store's bus. -/
def onStore : Watcher → Interest Nat
  | preferences listener => .one preferenceTopic listener
  | resources _ _ => .nothing

/-- What is asked of the workspace's bus. -/
def onWorkspace : Watcher → Interest Nat
  | preferences _ => .nothing
  | resources mask listener => .masked mask listener

/-- Adds the listener. -/
def register (st ws : Nat) : Watcher → Act γ Registration
  | preferences listener => Host.subscribePreference st listener
  | resources mask listener => Host.subscribeResources ws mask listener

/-- What adding the listener returns. -/
def registration (st ws : Nat) : Watcher → Registration
  | preferences listener => .preference st ⟨preferenceTopic, listener⟩
  | resources mask listener => .resource ws (Workspace.maskSubscriptions mask listener)

end Watcher

namespace WatchStep

/-- The use of a bus, of which each listener asks so much. -/
def use (part : Watcher → Interest Nat) : WatchStep → BusUse Nat
  | add watcher => .subscribe (part watcher)
  | undo n => .unsubscribe n

end WatchStep

namespace Watched

variable {γ : Type}

/-- Adds a listener, or undoes a registration. -/
def perform (st ws : Nat) (s : Watched γ) : WatchStep → Watched γ
  | .add watcher =>
    let added := watcher.register st ws s.host
    ⟨added.2, s.registrations ++ added.1.toOption.toList⟩
  | .undo n =>
    match s.registrations[n]? with
    | some registration => ⟨(Host.unregisterListener registration s.host).2, s.registrations⟩
    | none => s

/-- What some steps in a host lead to. -/
def after (st ws : Nat) (h : Host γ) (steps : List WatchStep) : Watched γ :=
  steps.foldl (perform st ws) ⟨h, []⟩

end Watched

namespace Host

variable {γ : Type} {st ws : Nat} {h : Host γ} {a b : Bus Nat}

/-- A store and a workspace are there, and these are their buses. -/
structure HasBuses (st ws : Nat) (h : Host γ) (a b : Bus Nat) : Prop where
  store : st < h.stores.length
  workspace : ws < h.workspaces.length
  storeBus : (h.store st).bus = a
  workspaceBus : (h.workspace ws).bus = b

lemma HasBuses.setStore (hb : HasBuses st ws h a b) {store : PreferenceStore} :
    HasBuses st ws (h.setStore st store) store.bus b := by
  refine ⟨by simpa [Host.setStore] using hb.store, hb.workspace, ?_, hb.workspaceBus⟩
  rw [store_setStore, if_pos ⟨rfl, hb.store⟩]

lemma HasBuses.setWorkspace (hb : HasBuses st ws h a b) {w : Workspace} :
    HasBuses st ws (h.setWorkspace ws w) a w.bus := by
  refine ⟨hb.store, by simpa [Host.setWorkspace] using hb.workspace, hb.storeBus, ?_⟩
  rw [workspace_setWorkspace, if_pos ⟨rfl, hb.workspace⟩]

lemma register_fst (watcher : Watcher) (h : Host γ) :
    (watcher.register st ws h).1 = .ok (watcher.registration st ws) := by
  cases watcher <;> rfl

lemma HasBuses.register (hb : HasBuses st ws h a b) (watcher : Watcher) :
    HasBuses st ws (watcher.register st ws h).2 (watcher.onStore.subscribe a)
      (watcher.onWorkspace.subscribe b) := by
  obtain ⟨hstore, hworkspace, rfl, rfl⟩ := hb
  cases watcher with
  | preferences listener => exact HasBuses.setStore ⟨hstore, hworkspace, rfl, rfl⟩
  | resources mask listener => exact HasBuses.setWorkspace ⟨hstore, hworkspace, rfl, rfl⟩

lemma HasBuses.unregister (hb : HasBuses st ws h a b) (watcher : Watcher) :
    HasBuses st ws (unregisterListener (watcher.registration st ws) h).2
      (watcher.onStore.unsubscribe a) (watcher.onWorkspace.unsubscribe b) := by
  obtain ⟨hstore, hworkspace, rfl, rfl⟩ := hb
  cases watcher with
  | preferences listener => exact HasBuses.setStore ⟨hstore, hworkspace, rfl, rfl⟩
  | resources mask listener => exact HasBuses.setWorkspace ⟨hstore, hworkspace, rfl, rfl⟩

/-- The registrations are those of some listeners, in whose order both buses hold their grants. -/
structure Tracks (st ws : Nat) (s : Watched γ) (a b : GrantedBus Nat) : Prop where
  buses : HasBuses st ws s.host a.bus b.bus
  watchers : ∃ watchers : List Watcher,
    s.registrations = watchers.map (Watcher.registration st ws) ∧
    a.grants.map Grant.interest = watchers.map Watcher.onStore ∧
    b.grants.map Grant.interest = watchers.map Watcher.onWorkspace

lemma interests_record (n : Nat) (grants : List (Grant Nat)) :
    (BusUse.record (.unsubscribe n) grants).map Grant.interest = grants.map Grant.interest := by
  rw [BusUse.record]
  induction grants generalizing n with
  | nil => cases n <;> rfl
  | cons grant grants ih => cases n <;> simp [ih]

lemma apply_of_none {grants : List (Grant Nat)} {n : Nat}
    (hnone : (grants[n]?).map Grant.interest = none) (bus : Bus Nat) :
    BusUse.apply grants (.unsubscribe n) bus = bus := by
  rw [BusUse.apply, Option.map_eq_none_iff.1 hnone]

lemma apply_of_some {grants : List (Grant Nat)} {n : Nat} {interest : Interest Nat}
    (hsome : (grants[n]?).map Grant.interest = some interest) (bus : Bus Nat) :
    BusUse.apply grants (.unsubscribe n) bus = interest.unsubscribe bus := by
  obtain ⟨grant, hgrant, rfl⟩ := Option.map_eq_some_iff.1 hsome
  rw [BusUse.apply, hgrant]

/-- A step in the host is one use of either bus. -/
lemma Tracks.perform {s : Watched γ} {a b : GrantedBus Nat} (hm : Tracks st ws s a b)
    (step : WatchStep) :
    Tracks st ws (s.perform st ws step) (a.perform (step.use Watcher.onStore))
      (b.perform (step.use Watcher.onWorkspace)) := by
  obtain ⟨hbuses, watchers, hregistrations, hstore, hworkspace⟩ := hm
  cases step with
  | add watcher =>
    refine ⟨hbuses.register watcher, watchers ++ [watcher], ?_, ?_, ?_⟩
    · rw [Watched.perform, register_fst, hregistrations, List.map_append]
      rfl
    · rw [List.map_append, ← hstore]
      exact List.map_append
    · rw [List.map_append, ← hworkspace]
      exact List.map_append
  | undo n =>
    have hinterests : ∀ {grants : List (Grant Nat)} {part : Watcher → Interest Nat},
        grants.map Grant.interest = watchers.map part →
          (grants[n]?).map Grant.interest = (watchers[n]?).map part := by
      intro grants part hsame
      rw [← List.getElem?_map, hsame, List.getElem?_map]
    have hstoreAt := hinterests hstore
    have hworkspaceAt := hinterests hworkspace
    refine ⟨?_, watchers, ?_, (interests_record n _).trans hstore,
      (interests_record n _).trans hworkspace⟩
    · rw [Watched.perform, hregistrations, List.getElem?_map, GrantedBus.perform, WatchStep.use,
        GrantedBus.perform, WatchStep.use]
      cases hwatcher : watchers[n]? with
      | none =>
        rw [hwatcher] at hstoreAt hworkspaceAt
        rw [apply_of_none hstoreAt, apply_of_none hworkspaceAt]
        exact hbuses
      | some watcher =>
        rw [hwatcher] at hstoreAt hworkspaceAt
        rw [apply_of_some hstoreAt, apply_of_some hworkspaceAt]
        exact hbuses.unregister watcher
    · rw [← hregistrations, Watched.perform]
      split <;> rfl

lemma Tracks.foldl {s : Watched γ} {a b : GrantedBus Nat} (hm : Tracks st ws s a b)
    (steps : List WatchStep) :
    Tracks st ws (steps.foldl (Watched.perform st ws) s)
      (a.performAll (steps.map (WatchStep.use Watcher.onStore)))
      (b.performAll (steps.map (WatchStep.use Watcher.onWorkspace))) := by
  induction steps generalizing s a b with
  | nil => exact hm
  | cons step rest ih => exact ih (hm.perform step)

/-- A property of all parts of a run concerns the uses of a bus that its steps are. -/
lemma forall_prefix_map_iff {α β : Type} (f : α → β) {P : List β → Prop} (l : List α) :
    (∀ before, before <+: l → P (before.map f)) ↔ ∀ before, before <+: l.map f → P before := by
  simp only [List.prefix_map_iff]
  exact ⟨fun h before ⟨part, hpart, hsame⟩ => hsame ▸ h part hpart,
    fun h before hbefore => h _ ⟨before, hbefore, rfl⟩⟩

end Host

/-- **Publications call whoever is subscribed.** After every part of a run of subscribing and taking
back on one bus, a publication on any topic calls the handlers whose grants stand, in their order
and each once, exactly if nothing in the run slips. The same holds for the listeners that are added
to a store and a workspace, to which nobody listens before. -/
theorem publications_exact_iff {η γ : Type} [DecidableEq η] (uses : List (BusUse η)) (st ws : Nat)
    (h : Host γ) (steps : List WatchStep) :
    ((∀ before, before <+: uses → ∀ topic,
      (GrantedBus.performAll ⟨.empty, []⟩ before).bus.Calls topic
        (standing (BusUse.granted before) topic)) ↔
      BusUse.SlipFree [] uses) ∧
    (st < h.stores.length → ws < h.workspaces.length →
      (∀ topic, (h.store st).bus.subscribers topic = []) →
      (∀ topic, (h.workspace ws).bus.subscribers topic = []) →
        ((∀ before, before <+: steps → ∀ topic,
          let host := (Watched.after st ws h before).host
          (host.store st).bus.Calls topic
            (standing (BusUse.granted (before.map (WatchStep.use Watcher.onStore))) topic) ∧
          (host.workspace ws).bus.Calls topic
            (standing (BusUse.granted (before.map (WatchStep.use Watcher.onWorkspace))) topic)) ↔
          BusUse.SlipFree [] (steps.map (WatchStep.use Watcher.onStore)) ∧
            BusUse.SlipFree [] (steps.map (WatchStep.use Watcher.onWorkspace)))) := by
  refine ⟨GrantedBus.calls_along_iff Bus.subscribers_empty uses, ?_⟩
  intro hstore hworkspace hquiet hquiet'
  have htracks := fun before => Host.Tracks.foldl (s := ⟨h, []⟩)
    (a := ⟨(h.store st).bus, []⟩) (b := ⟨(h.workspace ws).bus, []⟩)
    ⟨⟨hstore, hworkspace, rfl, rfl⟩, [], rfl, rfl, rfl⟩ before
  have hstoreBus := fun before => (htracks before).buses.storeBus
  have hworkspaceBus := fun before => (htracks before).buses.workspaceBus
  simp only [Watched.after, hstoreBus, hworkspaceBus]
  rw [← GrantedBus.calls_along_iff hquiet, ← GrantedBus.calls_along_iff hquiet',
    ← Host.forall_prefix_map_iff, ← Host.forall_prefix_map_iff]
  simp only [forall_and]

/-- Listeners come and go, one of them is taken back twice, and one hears of two types of events. -/
def listeners : List WatchStep :=
  [.add (.preferences 0), .add (.resources 3 1), .add (.preferences 1), .add (.resources 1 0),
    .undo 0, .undo 0, .undo 1, .add (.resources 2 1)]

/-- At the end of a run in which nothing slips, the listeners that were not taken back are called. -/
theorem publications_exact_in_run :
    let host := (Watched.after 0 0 Host.small listeners).host
    BusUse.SlipFree [] (listeners.map (WatchStep.use Watcher.onStore)) ∧
      BusUse.SlipFree [] (listeners.map (WatchStep.use Watcher.onWorkspace)) ∧
      (host.store 0).bus.Calls preferenceTopic [1] ∧
      (host.workspace 0).bus.Calls (resourceTopic 1) [0] ∧
      (host.workspace 0).bus.Calls (resourceTopic 2) [1] := by
  intro host
  have hfree : BusUse.SlipFree [] (listeners.map (WatchStep.use Watcher.onStore)) := by decide
  have hfree' : BusUse.SlipFree [] (listeners.map (WatchStep.use Watcher.onWorkspace)) := by decide
  have htheorem := publications_exact_iff (listeners.map (WatchStep.use Watcher.onStore)) 0 0
    Host.small listeners
  have hcalls := (htheorem.2 (by decide) (by decide) (fun _ => rfl) (fun _ => rfl)).2
    ⟨hfree, hfree'⟩ listeners (List.prefix_refl _)
  exact ⟨hfree, hfree', (hcalls preferenceTopic).1, (hcalls (resourceTopic 1)).2,
    (hcalls (resourceTopic 2)).2⟩

/-- Where nothing keeps a run from slipping, publications call others than whoever stands: after the
last of three subscriptions was taken back, the second and the third one are left instead of the
first two, and a subscription ends when an older one of its handler is taken back again. -/
theorem publications_inexact :
    let passed : List (BusUse String) :=
      [.subscribe (.one "t" "a"), .subscribe (.one "t" "b"), .subscribe (.one "t" "a"),
        .unsubscribe 2]
    let repeated : List (BusUse String) :=
      [.subscribe (.one "t" "a"), .unsubscribe 0, .subscribe (.one "t" "a"), .unsubscribe 0]
    standing (BusUse.granted passed) "t" = ["a", "b"] ∧
      (GrantedBus.performAll ⟨.empty, []⟩ passed).bus.Calls "t" ["b", "a"] ∧
      ¬ (GrantedBus.performAll ⟨.empty, []⟩ passed).bus.Calls "t" ["a", "b"] ∧
      standing (BusUse.granted repeated) "t" = ["a"] ∧
      (GrantedBus.performAll ⟨.empty, []⟩ repeated).bus.Calls "t" [] ∧
      ¬ (GrantedBus.performAll ⟨.empty, []⟩ repeated).bus.Calls "t" ["a"] := by
  simp only [Bus.calls_iff]
  decide

end LanguageHost
