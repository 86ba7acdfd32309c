import LanguageHost.Bus.Basic

/-!
# A bus with scripted handlers

Handlers are named and follow scripts: a handler that is called notes the delivery and then takes
its actions in order, which may subscribe, unsubscribe and publish on the same bus, or fail. At
most four handlers take actions inside one another; a handler called deeper only notes the
delivery. Unsubscribing goes by the name that was given to the subscription.
-/

namespace LanguageHost.ScriptedBus

/-- What a handler, or the user of the bus, does. -/
inductive Action where
  | subscribe (token topic handler : String)
  | unsubscribe (token : String)
  | publish (topic property : String)
  | subscribers (topic : String)
  | fail (message : String)
  deriving DecidableEq, Repr

/-- The bus, the handlers' scripts, the named subscriptions, and the deliveries so far. -/
structure State where
  platform : Platform
  service : String
  bus : Bus String
  scripts : List (String × List Action)
  tokens : List (String × Subscription String)
  seen : List (String × String)

/-- An action on the bus that may fail. -/
abbrev Act := ExceptT Fault (StateM State)

/-- How many handlers take actions inside one another. -/
def maxNesting : Nat := 4

/-- What a token or a handler's name stands for. -/
def lookUp {α : Type} (name : String) (table : List (String × α)) : Act α :=
  match findMember? name table with
  | some x => pure x
  | none => throw (.missingKey name)

/-- Notes a delivery, then lets `react` take the handler's actions. -/
def receive (react : List Action → Act Unit) (property handler : String) : Act Unit := do
  modify fun s => { s with seen := s.seen ++ [(handler, property)] }
  react ((findMember? handler (← get).scripts).getD [])

/-- Publishes to the handlers that are subscribed now. -/
def publish (react : List Action → Act Unit) (topic property : String) : Act Unit := do
  let s ← get
  Bus.deliver (receive react property)
    (fun fault s => { s with platform := Bus.reportFailure s.service topic fault s.platform })
    (s.bus.subscribers topic)

/-- Takes one action; the result is the list of handler names that it asks for, if it does. -/
def perform (react : List Action → Act Unit) : Action → Act (Option (List String))
  | .subscribe token topic handler => do
    let _ ← lookUp handler (← get).scripts
    modify fun s =>
      { s with
        bus := s.bus.subscribe topic handler
        tokens := putMember token ⟨topic, handler⟩ s.tokens }
    return none
  | .unsubscribe token => do
    let subscription ← lookUp token (← get).tokens
    modify fun s => { s with bus := s.bus.unsubscribe subscription }
    return none
  | .publish topic property => do
    publish react topic property
    return none
  | .subscribers topic => return some ((← get).bus.subscribers topic)
  | .fail message => throw (.raised message)

/-- Takes actions in order until one fails. -/
def performAll (react : List Action → Act Unit) : List Action → Act Unit
  | [] => pure ()
  | action :: rest => do
    let _ ← perform react action
    performAll react rest

/-- What a handler's actions do when so many more handlers may take actions inside it. -/
def reactWithin : Nat → List Action → Act Unit
  | 0, _ => pure ()
  | nesting + 1, actions => performAll (reactWithin nesting) actions

/-- Takes one action from outside. -/
def step (action : Action) : Act (Option (List String)) :=
  perform (reactWithin maxNesting) action

end LanguageHost.ScriptedBus
