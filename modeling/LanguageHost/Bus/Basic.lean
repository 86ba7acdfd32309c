import LanguageHost.Journal.Basic

/-!
# Event bus

A bus keeps, for each topic, its subscribers in the order of their subscriptions. The same handler
may be subscribed several times. Unsubscribing takes one occurrence of an equal handler away, the
oldest.

Publishing calls the handlers that were subscribed when it began, one after another. A handler
that fails is reported and does not keep the event from the others; whatever handlers do to the
bus meanwhile takes effect for later events only.
-/

namespace LanguageHost

/-- Subscribers by topic. -/
structure Bus (η : Type) where
  topics : List (String × List η)
  deriving Inhabited

/-- A topic and a handler that was subscribed to it. -/
structure Subscription (η : Type) where
  topic : String
  handler : η
  deriving DecidableEq, Repr

namespace Bus

variable {η : Type}

/-- The bus without subscribers. -/
def empty : Bus η := ⟨[]⟩

/-- The subscribers of a topic, oldest first. -/
def subscribers (bus : Bus η) (topic : String) : List η :=
  (findMember? topic bus.topics).getD []

/-- Adds a handler behind the subscribers of a topic. -/
def subscribe (bus : Bus η) (topic : String) (handler : η) : Bus η :=
  ⟨putMember topic (bus.subscribers topic ++ [handler]) bus.topics⟩

/-- Takes the oldest subscription of an equal handler away; nothing happens without one. -/
def unsubscribe [DecidableEq η] (bus : Bus η) (subscription : Subscription η) : Bus η :=
  match findMember? subscription.topic bus.topics with
  | none => bus
  | some handlers =>
    ⟨putMember subscription.topic (handlers.erase subscription.handler) bus.topics⟩

@[simp] theorem subscribers_empty (topic : String) : (empty : Bus η).subscribers topic = [] := rfl

theorem subscribers_subscribe (bus : Bus η) (topic other : String) (handler : η) :
    (bus.subscribe topic handler).subscribers other =
      if topic = other then bus.subscribers other ++ [handler] else bus.subscribers other := by
  simp only [subscribe, subscribers, findMember?_putMember]
  split
  · subst_vars
    rfl
  · rfl

theorem subscribers_unsubscribe [DecidableEq η] (bus : Bus η) (subscription : Subscription η)
    (topic : String) :
    (bus.unsubscribe subscription).subscribers topic =
      if subscription.topic = topic then (bus.subscribers topic).erase subscription.handler
      else bus.subscribers topic := by
  simp only [unsubscribe, subscribers]
  split
  · rename_i absent
    split
    · subst_vars
      simp [absent]
    · rfl
  · rename_i handlers found
    simp only [findMember?_putMember]
    split
    · subst_vars
      simp [found]
    · rfl

/-- Calls handlers in order; a failure is handed to `report`, and the next handler is called. -/
def deliver {σ : Type} (call : η → ExceptT Fault (StateM σ) Unit) (report : Fault → σ → σ) :
    List η → ExceptT Fault (StateM σ) Unit
  | [] => pure ()
  | handler :: rest => do
    tryCatch (call handler) fun fault => modify (report fault)
    deliver call report rest

/-- What a call of one handler leaves behind, whether it fails or not. -/
def attempt {σ : Type} (call : η → ExceptT Fault (StateM σ) Unit) (report : Fault → σ → σ) (s : σ)
    (handler : η) : σ :=
  match call handler s with
  | (.ok (), s') => s'
  | (.error fault, s') => report fault s'

/-- A delivery never fails, and each handler is called once, where the one before it left off. -/
theorem deliver_eq {σ : Type} (call : η → ExceptT Fault (StateM σ) Unit) (report : Fault → σ → σ)
    (handlers : List η) (s : σ) :
    deliver call report handlers s = (.ok (), handlers.foldl (attempt call report) s) := by
  induction handlers generalizing s with
  | nil => rfl
  | cons handler rest ih =>
    have hcaught : (tryCatch (call handler) fun fault => modify (report fault) :
        ExceptT Fault (StateM σ) Unit) s = (.ok (), attempt call report s handler) := by
      rcases hcall : call handler s with ⟨_ | _, s'⟩ <;>
        simp only [tryCatch, tryCatchThe, MonadExceptOf.tryCatch, ExceptT.tryCatch, ExceptT.mk,
          bind, StateT.bind, attempt, hcall] <;> rfl
    rw [List.foldl_cons, ← ih]
    simp only [deliver, bind, ExceptT.bind, ExceptT.mk, StateT.bind, hcaught]
    rfl

/-- The log line about a handler that failed. -/
def reportFailure (service topic : String) (fault : Fault) (p : Platform) : Platform :=
  p.log service .error "Event handler failed" [("event", topic), ("error", .str fault.message)]

end Bus

end LanguageHost
