import Mathlib.Data.Int.Bitwise
import Mathlib.Data.List.Basic
import LanguageHost.Proofs.Subscriptions

/-!
# Listeners to the events in a mask

A mask is scanned from its lowest bit on, and the listener is subscribed once for each bit that is
set. A mask that is not positive has no bits to find, whatever its sign says about them.

To take the listener back is to take one subscription of it off the topic of each bit. Whatever
other listeners do to these topics in the meantime, it does to the same subscribers less the
listener, so they are left as if the listener had never been there.
-/

namespace LanguageHost

/-- Another listener is added for the events in a mask, or what adding it returned is called. -/
inductive ListenerStep where
  | add (mask : Int) (listener : Nat)
  | remove (mask : Int) (listener : Nat)

namespace ListenerStep

variable {γ : Type}

/-- Whose step it is. -/
def listener : ListenerStep → Nat
  | add _ listener => listener
  | remove _ listener => listener

/-- Takes a step at a workspace. -/
def perform (ws : Nat) (h : Host γ) : ListenerStep → Host γ
  | add mask listener => (Host.subscribeResources ws mask listener h).2
  | remove mask listener =>
    (Host.unregisterListener (.resource ws (Workspace.maskSubscriptions mask listener)) h).2

/-- What some steps lead to. -/
def after (ws : Nat) (steps : List ListenerStep) (h : Host γ) : Host γ :=
  steps.foldl (perform ws) h

/-- What a step does to the bus of the workspace. -/
def apply (bus : Bus Nat) : ListenerStep → Bus Nat
  | add mask listener => (Interest.masked mask listener).subscribe bus
  | remove mask listener => (Interest.masked mask listener).unsubscribe bus

end ListenerStep

/-! ## The bits of a mask -/

namespace Interest

variable {bits : List Nat} {mask : Int} {listener : Nat}

lemma eq_of_mem_handlers_masked {topic : String} {other : Nat}
    (h : other ∈ (masked mask listener).handlers topic) : other = listener := by
  obtain ⟨s, hs, rfl⟩ := List.mem_map.1 h
  obtain ⟨bit, -, rfl⟩ := List.mem_map.1 (List.mem_filter.1 hs).1
  rfl

end Interest

/-! ## With the listener and without it -/

/-- On some topics a listener is subscribed to one bus and not to the other; all other subscribers
are the same. -/
structure Bus.Besides (topics : String → Prop) (listener : Nat) (bus bus' : Bus Nat) : Prop where
  there : ∀ topic, topics topic → listener ∈ bus.subscribers topic
  erased : ∀ topic, topics topic →
    (bus.subscribers topic).erase listener = bus'.subscribers topic
  elsewhere : ∀ topic, ¬ topics topic → bus.subscribers topic = bus'.subscribers topic

namespace Bus.Besides

variable {topics : String → Prop} {listener : Nat} {bus bus' : Bus Nat}

/-- **One step.** What another listener does, it does beside the listener as without it. -/
lemma step (h : Besides topics listener bus bus') {step : ListenerStep}
    (hother : step.listener ≠ listener) :
    Besides topics listener (step.apply bus) (step.apply bus') := by
  have hnot : ∀ mask topic, listener ∉ (Interest.masked mask step.listener).handlers topic :=
    fun mask topic hmem => hother (Interest.eq_of_mem_handlers_masked hmem).symm
  cases step with
  | add mask other =>
    constructor
    · intro topic htopic
      rw [ListenerStep.apply, Interest.subscribers_subscribe]
      exact List.mem_append_left _ (h.there topic htopic)
    · intro topic htopic
      rw [ListenerStep.apply, ListenerStep.apply, Interest.subscribers_subscribe,
        Interest.subscribers_subscribe, List.erase_append_left _ (h.there topic htopic),
        h.erased topic htopic]
    · intro topic htopic
      rw [ListenerStep.apply, ListenerStep.apply, Interest.subscribers_subscribe,
        Interest.subscribers_subscribe, h.elsewhere topic htopic]
  | remove mask other =>
    constructor
    · intro topic htopic
      rw [ListenerStep.apply, Interest.subscribers_unsubscribe, ← List.diff_eq_foldl]
      exact List.mem_diff_of_mem (h.there topic htopic) (hnot mask topic)
    · intro topic htopic
      rw [ListenerStep.apply, ListenerStep.apply, Interest.subscribers_unsubscribe,
        Interest.subscribers_unsubscribe, ← List.diff_eq_foldl, ← List.diff_eq_foldl,
        List.diff_erase, h.erased topic htopic]
    · intro topic htopic
      rw [ListenerStep.apply, ListenerStep.apply, Interest.subscribers_unsubscribe,
        Interest.subscribers_unsubscribe, h.elsewhere topic htopic]

/-- **Runs.** -/
lemma run (h : Besides topics listener bus bus') {steps : List ListenerStep}
    (hothers : ∀ step ∈ steps, step.listener ≠ listener) :
    Besides topics listener (steps.foldl ListenerStep.apply bus)
      (steps.foldl ListenerStep.apply bus') := by
  induction steps generalizing bus bus' with
  | nil => exact h
  | cons step rest ih =>
    obtain ⟨hother, hrest⟩ := List.forall_mem_cons.1 hothers
    exact ih (h.step hother) hrest

end Bus.Besides

namespace Host

variable {γ : Type} {ws : Nat} {h : Host γ}

end Host

end LanguageHost
