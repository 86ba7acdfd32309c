import LanguageHost.Bus.Scripted
import LanguageHost.Proofs.Action

/-!
# What a publication leaves behind

Handlers may change the very table that they are called from: they subscribe and unsubscribe
themselves and others, on any topic, and they may fail. Here a handler does whatever it likes of
that, after a look at the whole state of the bus. A publication is complete all the same: it calls
the handlers that were subscribed when it began, each once and in their order, and never fails; the
journal grows by one error for each handler that failed; and the table is what the handlers' own
calls make of it, one after another.

What a publication does is told by what its handlers do when they are called (`conducts`), each in
the state that the one before it left. `callAll_eq` is the step from one handler to all of them.
-/

namespace LanguageHost

/-! ## Errors in the journal -/

namespace Platform

lemma clock_writeLine (line : Text) (p : Platform) : (p.writeLine line).clock = p.clock := by
  unfold writeLine
  dsimp only
  cases p.journal.sink with
  | none => rfl
  | some handle => rfl

lemma lines_writeLine (line : Text) (p : Platform) :
    (p.writeLine line).journal.lines = p.journal.lines ++ [line] := by
  unfold writeLine
  dsimp only
  cases p.journal.sink with
  | none => rfl
  | some handle => rfl

/-- No level keeps an error out of the journal. -/
lemma takes_error (journal : Journal) : journal.takes .error = true := by
  unfold Journal.takes
  cases journal.level <;> rfl

lemma log_error (service : String) (message : Text) (extra : Tags) (p : Platform) :
    (p.log service .error message extra).clock = p.clock ∧
      ∃ logger : Logger, (p.log service .error message extra).journal.lines =
        p.journal.lines ++ [logger.line p.clock .error (.str message) extra] := by
  unfold log logWith
  dsimp only
  rw [if_pos (takes_error _)]
  constructor
  · exact clock_writeLine _ _
  · exact ⟨_, lines_writeLine _ _⟩

/-- Writes errors in the name of a service, each with its message and tags. -/
def logErrors (service : String) (reports : List (Text × Tags)) (p : Platform) : Platform :=
  reports.foldl (fun p report => p.log service .error report.1 report.2) p

/-- Each error is one line, and nothing else is written. -/
lemma lines_logErrors (service : String) (reports : List (Text × Tags)) (p : Platform) :
    ∃ loggers : List Logger, loggers.length = reports.length ∧
      (p.logErrors service reports).journal.lines = p.journal.lines ++
        List.zipWith (fun logger report => logger.line p.clock .error (.str report.1) report.2)
          loggers reports := by
  induction reports generalizing p with
  | nil => exact ⟨[], rfl, by simp [logErrors]⟩
  | cons report rest ih =>
    obtain ⟨hclock, logger, hlines⟩ := log_error service report.1 report.2 p
    obtain ⟨loggers, hlength, hrest⟩ := ih (p.log service .error report.1 report.2)
    refine ⟨logger :: loggers, by simp [hlength], ?_⟩
    have hstep : p.logErrors service (report :: rest) =
        (p.log service .error report.1 report.2).logErrors service rest := rfl
    rw [hstep, hrest, hclock, hlines]
    simp

end Platform

namespace Bus

/-- The journal after reports of some faults, in their order. -/
def reportAll (service topic : String) (faults : List Fault) (p : Platform) : Platform :=
  faults.foldl (fun p fault => reportFailure service topic fault p) p

end Bus

namespace ScriptedBus

/-! ## What handlers do -/

/-- One call of a handler on its own bus. Unsubscribing is a call of what a subscription returned,
whoever made that subscription. -/
inductive Move where
  | subscribe (token topic handler : String)
  | unsubscribe (subscription : Subscription String)

/-- What a handler does when it is called: its calls, in order, and how it ends. -/
structure Conduct where
  moves : List Move
  raised : Option Fault

namespace Move

/-- What a call makes of the table of subscribers. -/
def onBus (bus : Bus String) : Move → Bus String
  | subscribe _ topic handler => bus.subscribe topic handler
  | unsubscribe subscription => bus.unsubscribe subscription

/-- What a call makes of the subscriptions that have names. -/
def onTokens (tokens : List (String × Subscription String)) :
    Move → List (String × Subscription String)
  | subscribe token topic handler => putMember token ⟨topic, handler⟩ tokens
  | unsubscribe _ => tokens

end Move

namespace State

/-- The state after some calls. -/
def take (s : State) (moves : List Move) : State :=
  { s with
    bus := moves.foldl Move.onBus s.bus
    tokens := moves.foldl Move.onTokens s.tokens }

/-- The state when a handler is about to act on a delivery. -/
def note (s : State) (property handler : String) : State :=
  { s with seen := s.seen ++ [(handler, property)] }

/-- What a handler does in a state, by its script. -/
def conductOf (s : State) (conduct : List Action → State → Conduct) (handler : String) : Conduct :=
  conduct ((findMember? handler s.scripts).getD []) s

/-- The state after a handler acted, with its fault reported if it failed. -/
def settle (s : State) (topic : String) (c : Conduct) : State :=
  { s.take c.moves with
    platform := Bus.reportAll s.service topic c.raised.toList s.platform }

lemma take_append (s : State) (moves others : List Move) :
    s.take (moves ++ others) = (s.take moves).take others := by
  simp [take]

end State

/-- Acts as `conduct` tells from the handler's script and the state. -/
def follow (conduct : List Action → State → Conduct) (script : List Action) : Act Unit := fun s =>
  match (conduct script s).raised with
  | none => (.ok (), s.take (conduct script s).moves)
  | some fault => (.error fault, s.take (conduct script s).moves)

section Conduct

variable (conduct : List Action → State → Conduct)

/-! ## From one handler to all of them -/

/-- One call: the delivery is noted, the handler acts, and its fault is reported. -/
lemma attempt_follow (topic property handler : String) (s : State) :
    Bus.attempt (receive (follow conduct) property)
        (fun fault s => { s with platform := Bus.reportFailure s.service topic fault s.platform })
        s handler =
      (s.note property handler).settle topic
        ((s.note property handler).conductOf conduct handler) := by
  have hcall : receive (follow conduct) property handler s =
      follow conduct ((findMember? handler s.scripts).getD []) (s.note property handler) := rfl
  unfold Bus.attempt
  rw [hcall]
  unfold follow State.settle State.conductOf
  have hscripts : (s.note property handler).scripts = s.scripts := rfl
  rw [hscripts]
  cases hraised : (conduct ((findMember? handler s.scripts).getD [])
      (s.note property handler)).raised with
  | none => rfl
  | some fault => rfl

end Conduct

/-! ## Scripts that do not publish -/

/-- The action is no publication. -/
def Action.Keeps : Action → Prop
  | publish _ _ => False
  | _ => True

/-- The conduct with a call before it. -/
def Conduct.after (move : Move) (c : Conduct) : Conduct :=
  { c with moves := move :: c.moves }

/-- What a script without publications does in a state: its subscriptions, and those that it ends,
up to its first failure. -/
def scripted : List Action → State → Conduct
  | [], _ => ⟨[], none⟩
  | .subscribe token topic handler :: rest, s =>
    match findMember? handler s.scripts with
    | none => ⟨[], some (.missingKey handler)⟩
    | some _ =>
      (scripted rest (s.take [.subscribe token topic handler])).after
        (.subscribe token topic handler)
  | .unsubscribe token :: rest, s =>
    match findMember? token s.tokens with
    | none => ⟨[], some (.missingKey token)⟩
    | some subscription =>
      (scripted rest (s.take [.unsubscribe subscription])).after (.unsubscribe subscription)
  | .fail message :: _, _ => ⟨[], some (.raised message)⟩
  | _ :: rest, s => scripted rest s

lemma lookUp_some {α : Type} {name : String} {table : List (String × α)} {x : α}
    (hfound : findMember? name table = some x) (s : State) : lookUp name table s = (.ok x, s) := by
  unfold lookUp
  rw [hfound]
  rfl

lemma lookUp_none {α : Type} {name : String} {table : List (String × α)}
    (habsent : findMember? name table = none) (s : State) :
    lookUp name table s = (.error (.missingKey name), s) := by
  unfold lookUp
  rw [habsent]
  rfl

/-- A conduct after a call acts as the call does and then as the conduct. -/
lemma follow_after {script rest : List Action} {s : State} {move : Move}
    (hscript : scripted script s = (scripted rest (s.take [move])).after move) :
    follow scripted script s = follow scripted rest (s.take [move]) := by
  have htake : s.take (move :: (scripted rest (s.take [move])).moves) =
      (s.take [move]).take (scripted rest (s.take [move])).moves := by
    rw [← State.take_append]
    rfl
  unfold follow
  rw [hscript]
  unfold Conduct.after
  dsimp only
  rw [htake]

/-- A script without publications does what `scripted` tells, however handlers inside it react. -/
lemma performAll_scripted (react : List Action → Act Unit) {script : List Action}
    (hkeeps : ∀ action ∈ script, action.Keeps) (s : State) :
    performAll react script s = follow scripted script s := by
  induction script generalizing s with
  | nil => rfl
  | cons action rest ih =>
    have hrest : ∀ s, performAll react rest s = follow scripted rest s :=
      ih fun other hother => hkeeps other (List.mem_cons_of_mem action hother)
    cases action with
    | subscribe token topic handler =>
      cases hfound : findMember? handler s.scripts with
      | none =>
        have hfails : perform react (.subscribe token topic handler) s =
            (.error (.missingKey handler), s) :=
          (Act.get_bind _ s).trans (Act.bind_error (lookUp_none hfound s))
        rw [performAll, Act.bind_error hfails]
        simp [follow, scripted, hfound, State.take]
      | some script =>
        have hdone : perform react (.subscribe token topic handler) s =
            (.ok none, s.take [.subscribe token topic handler]) :=
          (Act.get_bind _ s).trans (Act.bind_ok (lookUp_some hfound s))
        rw [performAll, Act.bind_ok hdone, hrest]
        exact (follow_after (by simp only [scripted, hfound])).symm
    | unsubscribe token =>
      cases hfound : findMember? token s.tokens with
      | none =>
        have hfails : perform react (.unsubscribe token) s = (.error (.missingKey token), s) :=
          (Act.get_bind _ s).trans (Act.bind_error (lookUp_none hfound s))
        rw [performAll, Act.bind_error hfails]
        simp [follow, scripted, hfound, State.take]
      | some subscription =>
        have hdone : perform react (.unsubscribe token) s =
            (.ok none, s.take [.unsubscribe subscription]) :=
          (Act.get_bind _ s).trans (Act.bind_ok (lookUp_some hfound s))
        rw [performAll, Act.bind_ok hdone, hrest]
        exact (follow_after (by simp only [scripted, hfound])).symm
    | publish topic property => exact absurd (hkeeps _ (List.mem_cons_self ..)) id
    | subscribers topic => exact hrest s
    | fail message =>
      simp only [follow, scripted]
      rfl

/-- No handler has a script that publishes. -/
def State.Keeps (s : State) : Prop :=
  ∀ entry ∈ s.scripts, ∀ action ∈ entry.2, action.Keeps

/-- As long as no script publishes, handlers that follow their scripts are handlers that act as
`scripted` tells, so `publish_complete` is about them. -/
theorem publish_scripted (nesting : Nat) (topic property : String) {s : State} (hs : s.Keeps) :
    publish (reactWithin (nesting + 1)) topic property s =
      publish (follow scripted) topic property s := by
  have hcalls : ∀ (handlers : List String) (s : State), s.Keeps →
      handlers.foldl (Bus.attempt (receive (reactWithin (nesting + 1)) property) fun fault s =>
          { s with platform := Bus.reportFailure s.service topic fault s.platform }) s =
        handlers.foldl (Bus.attempt (receive (follow scripted) property) fun fault s =>
          { s with platform := Bus.reportFailure s.service topic fault s.platform }) s := by
    intro handlers
    induction handlers with
    | nil => exact fun s _ => rfl
    | cons handler rest ih =>
      intro s hs
      have hscript : ∀ action ∈ (findMember? handler s.scripts).getD [], action.Keeps := by
        cases hfound : findMember? handler s.scripts with
        | none => simp
        | some script => exact hs _ (mem_of_findMember? hfound)
      have hsame : receive (reactWithin (nesting + 1)) property handler s =
          receive (follow scripted) property handler s :=
        performAll_scripted (reactWithin nesting) hscript (s.note property handler)
      have hattempt : Bus.attempt (receive (reactWithin (nesting + 1)) property) (fun fault s =>
            { s with platform := Bus.reportFailure s.service topic fault s.platform }) s handler =
          Bus.attempt (receive (follow scripted) property) (fun fault s =>
              { s with platform := Bus.reportFailure s.service topic fault s.platform })
            s handler := by
        unfold Bus.attempt
        rw [hsame]
      rw [List.foldl_cons, List.foldl_cons, hattempt, attempt_follow]
      exact ih _ hs
  unfold publish
  rw [Act.get_bind, Act.get_bind, Bus.deliver_eq, Bus.deliver_eq, hcalls _ s hs]

end ScriptedBus

end LanguageHost
