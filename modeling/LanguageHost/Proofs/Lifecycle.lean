import LanguageHost.Proofs.Attendance
import LanguageHost.Proofs.Link

/-!
# Lifecycles of adapters

Adapters that share a store and a workspace are started and stopped in any order, while other
listeners come and go. `Host.Seated` says what this leaves behind: the adapters that run hold the
registrations of two new listeners each, and the buses are attended by those whom `parties` tells.

Stopping goes on after a failure. `stopAdapterBy` undoes registrations by functions that do and
raise whatever they like, and is told by `Bus.attempt` for each of them, the last one first.
-/

namespace LanguageHost

open Act Host LifeStep

variable {γ : Type}

/-! ## Calls of which each is made whatever became of the others -/

/-- The fault that a call ended with. -/
def Act.fault? {α : Type} : Except Fault α → Option Fault
  | .ok _ => none
  | .error fault => some fault

/-- The faults of some calls, each made in the state that the one before it left. -/
def Bus.faults {η σ : Type} (call : η → ExceptT Fault (StateM σ) Unit) (report : Fault → σ → σ) :
    List η → σ → List Fault
  | [], _ => []
  | x :: rest, s =>
    (Act.fault? (call x s).1).toList ++ faults call report rest (Bus.attempt call report s x)

namespace Host

/-- Notes that a registration cannot be undone. -/
def noteStuck (fault : Fault) (h : Host γ) : Host γ :=
  h.log "yaml.adapter" .error "Failed to remove listener" [("error", .str fault.message)]

/-- Undoes registrations one after another by a function of its own; the result is the first
failure. -/
def undoAllBy (undo : Registration → Act γ Unit) (first : Option Fault) :
    List Registration → Act γ (Option Fault)
  | [] => return first
  | registration :: rest => do
    let failure ← tryCatch
      (do
        undo registration
        return none)
      (fun fault => do
        Act.log "yaml.adapter" .error "Failed to remove listener" [("error", .str fault.message)]
        return some fault)
    undoAllBy undo (first.or failure) rest

/-- Stops an adapter whose registrations are undone by a function of their own. -/
def stopAdapterBy (undo : Registration → Act γ Unit) (n : Nat) : Act γ Unit := do
  let a := (← get).adapter n
  modify (setAdapter n { a with registrations := [] })
  let failure ← undoAllBy undo none a.registrations.reverse
  noteServer a "Listeners removed"
  failure.elim (pure ()) throw

lemma undoAll_eq (first : Option Fault) (registrations : List Registration) :
    (undoAll first registrations : Act γ (Option Fault)) =
      undoAllBy unregisterListener first registrations := by
  induction registrations generalizing first with
  | nil => rfl
  | cons registration rest ih =>
    rw [undoAll, undoAllBy]
    simp only [ih]

lemma stopAdapter_eq (n : Nat) :
    (stopAdapter n : Act γ Unit) = stopAdapterBy unregisterListener n := by
  unfold stopAdapter stopAdapterBy
  simp only [undoAll_eq]
  refine bind_congr fun h => bind_congr fun _ => bind_congr fun failure => bind_congr fun _ => ?_
  cases failure <;> rfl

/-- What an adapter holds when its registrations are taken from it. -/
def releasing (n : Nat) (h : Host γ) : Host γ :=
  h.setAdapter n { h.adapter n with registrations := [] }

lemma undoAllBy_run (undo : Registration → Act γ Unit) (first : Option Fault)
    (registrations : List Registration) (h : Host γ) :
    undoAllBy undo first registrations h =
      (.ok (first.or (Bus.faults undo noteStuck registrations h).head?),
        registrations.foldl (Bus.attempt undo noteStuck) h) := by
  induction registrations generalizing first h with
  | nil =>
    rw [Bus.faults, List.head?_nil, Option.or_none]
    rfl
  | cons registration rest ih =>
    have hcaught : (tryCatch (do undo registration; return none) (fun fault => do
          Act.log "yaml.adapter" .error "Failed to remove listener" [("error", .str fault.message)]
          return some fault) : Act γ (Option Fault)) h =
        (.ok (Act.fault? (undo registration h).1), Bus.attempt undo noteStuck h registration) := by
      rcases hundo : undo registration h with ⟨_ | _, h'⟩
      · refine (tryCatch_error (bind_error hundo)).trans ?_
        rw [Bus.attempt, hundo]
        rfl
      · have hdone :
            (do undo registration; return none : Act γ (Option Fault)) h = (.ok none, h') :=
          bind_ok hundo
        rw [tryCatch_ok hdone, Bus.attempt, hundo]
        rfl
    rw [undoAllBy, bind_ok hcaught, ih, List.foldl_cons, Bus.faults]
    cases first <;> cases Act.fault? (undo registration h).1 <;> simp

/-- Stopping undoes each registration once, the last one first, and ends with the first failure. -/
lemma stopAdapterBy_run (undo : Registration → Act γ Unit) {n d : Nat} {h : Host γ}
    (hdefinition : (h.adapter n).definition = some d) :
    stopAdapterBy undo n h =
      let registrations := (h.adapter n).registrations.reverse
      let undone := registrations.foldl (Bus.attempt undo noteStuck) (h.releasing n)
      ((Bus.faults undo noteStuck registrations (h.releasing n)).head?.elim (.ok ()) .error,
        undone.log "yaml.adapter" .info "Listeners removed"
          [("server", (undone.definition d).id)]) := by
  extract_lets registrations undone
  have hundone := undoAllBy_run undo none registrations (h.releasing n)
  unfold stopAdapterBy
  rw [get_bind, modify_bind]
  change (undoAllBy undo none registrations >>= _) (h.releasing n) = _
  rw [bind_ok hundone, Option.none_or]
  have hnoted : noteServer (h.adapter n) "Listeners removed" undone =
      (.ok (), undone.log "yaml.adapter" .info "Listeners removed"
        [("server", (undone.definition d).id)]) := by
    rw [noteServer, get_bind, hdefinition]
    rfl
  rw [bind_ok hnoted]
  cases (Bus.faults undo noteStuck registrations (h.releasing n)).head? <;> rfl

end Host

namespace Host

end Host

/-! ## Steps of adapters and listeners -/

/-- Gives an adapter some more registrations, which cannot be undone. -/
def Host.burden (n : Nat) (broken : List String) (h : Host γ) : Host γ :=
  let a := h.adapter n
  h.setAdapter n { a with registrations := a.registrations ++ broken.map .broken }

namespace LifeStep

/-- Takes the step. -/
def perform (st ws : Nat) : LifeStep → Act γ Unit
  | start n => startAdapter n
  | stop n broken => do
    modify (burden n broken)
    stopAdapter n
  | add watcher => do
    let _ ← watcher.register st ws
  | remove watcher => unregisterListener (watcher.registration st ws)

/-- What some steps in a host lead to. -/
def after (st ws : Nat) (h : Host γ) (steps : List LifeStep) : Host γ :=
  steps.foldl (fun h step => (step.perform st ws h).2) h

lemma after_concat (st ws : Nat) (h : Host γ) (steps : List LifeStep) (step : LifeStep) :
    after st ws h (steps ++ [step]) = (step.perform st ws (after st ws h steps)).2 := by
  rw [after, after, List.foldl_append]
  rfl

end LifeStep

/-- An adapter of a definition over a store and a workspace that is not started yet. -/
structure Adapter.Fresh (st ws : Nat) (a : Adapter) : Prop where
  definition : a.definition.isSome
  store : a.store = st
  workspace : a.workspace = ws
  registrations : a.registrations = []

/-- What a started adapter has to undo. -/
def ownRegistrations (st ws listener : Nat) : List Registration :=
  [(Watcher.preferences listener).registration st ws,
    (Watcher.resources postChange (listener + 1)).registration st ws]

/-! ## Adapters by number -/

namespace Host

lemma adapter_setAdapter (n other : Nat) (a : Adapter) (h : Host γ) :
    (h.setAdapter n a).adapter other =
      if other = n ∧ n < h.adapters.length then a else h.adapter other := by
  simp only [adapter, setAdapter, List.getD_eq_getElem?_getD, List.getElem?_set]
  by_cases hother : n = other
  · subst hother
    by_cases hlt : n < h.adapters.length
    · simp [hlt]
    · simp [hlt]
  · simp [hother, Ne.symm hother]

/-- An adapter with a definition is there. -/
lemma lt_of_definition {n : Nat} {h : Host γ} (hdefinition : (h.adapter n).definition.isSome) :
    n < h.adapters.length := by
  by_contra hle
  have hnone : h.adapters[n]? = none := List.getElem?_eq_none (Nat.le_of_not_lt hle)
  rw [adapter, List.getD_eq_getElem?_getD, hnone] at hdefinition
  cases hdefinition

/-- The listeners, the adapters and the registered sessions stay as they are. -/
structure Unstaffed (h h' : Host γ) : Prop where
  listeners : h'.listeners = h.listeners
  adapters : h'.adapters = h.adapters
  active : h'.active = h.active

lemma Unstaffed.adapter {h h' : Host γ} (hsame : Unstaffed h h') (n : Nat) :
    h'.adapter n = h.adapter n := by
  rw [Host.adapter, Host.adapter, hsame.adapters]

lemma unstaffed_register (watcher : Watcher) (st ws : Nat) (h : Host γ) :
    Unstaffed h (watcher.register st ws h).2 := by
  cases watcher <;> exact ⟨rfl, rfl, rfl⟩

lemma unstaffed_unregister (registration : Registration) (h : Host γ) :
    Unstaffed h (unregisterListener registration h).2 := by
  cases registration <;> exact ⟨rfl, rfl, rfl⟩

/-! ## What one step does -/

section Steps

variable {st ws n : Nat} {h : Host γ} {a b : Bus Nat}

/-- A new listener is added that an adapter keeps the registration of. -/
def enlist (st ws n : Nat) (listener : Listener γ) (watcher : Nat → Watcher) (h : Host γ) :
    Host γ :=
  let watcher := watcher h.listeners.length
  let added := (watcher.register st ws (h.addListener listener).2).2
  let adapter := added.adapter n
  added.setAdapter n
    { adapter with registrations := adapter.registrations ++ [watcher.registration st ws] }

lemma HasBuses.enlist (hb : HasBuses st ws h a b) (n : Nat) (listener : Listener γ)
    (watcher : Nat → Watcher) :
    HasBuses st ws (h.enlist st ws n listener watcher)
      ((watcher h.listeners.length).onStore.subscribe a)
      ((watcher h.listeners.length).onWorkspace.subscribe b) := by
  have hadded : HasBuses st ws (h.addListener listener).2 a b :=
    ⟨hb.store, hb.workspace, hb.storeBus, hb.workspaceBus⟩
  have hregistered := hadded.register (watcher h.listeners.length)
  exact ⟨hregistered.store, hregistered.workspace, hregistered.storeBus, hregistered.workspaceBus⟩

lemma listeners_enlist (listener : Listener γ) (watcher : Nat → Watcher) (h : Host γ) :
    (h.enlist st ws n listener watcher).listeners = h.listeners ++ [listener] :=
  (unstaffed_register (watcher h.listeners.length) st ws (h.addListener listener).2).listeners

lemma adapter_enlist (st ws : Nat) (hdefinition : (h.adapter n).definition.isSome)
    (listener : Listener γ) (watcher : Nat → Watcher) (other : Nat) :
    (h.enlist st ws n listener watcher).adapter other =
      if other = n then { h.adapter n with
        registrations := (h.adapter n).registrations ++
          [(watcher h.listeners.length).registration st ws] }
      else h.adapter other := by
  have hsame := unstaffed_register (watcher h.listeners.length) st ws (h.addListener listener).2
  have hlt : n < ((watcher h.listeners.length).register st ws
      (h.addListener listener).2).2.adapters.length := by
    rw [hsame.adapters]
    exact lt_of_definition hdefinition
  rw [enlist, adapter_setAdapter, hsame.adapter, hsame.adapter]
  simp only [hlt, and_true]
  rfl

/-- Starting an adapter adds its two listeners, one after the other. -/
lemma startAdapter_fresh (hfresh : (h.adapter n).Fresh st ws) :
    ∃ platform, startAdapter n h = (.ok (), { (h.enlist st ws n
        (.settings (h.adapter n).definition st schemaKey (h.adapter n).accessFault)
        .preferences).enlist st ws n
        (.folders (h.adapter n).definition (h.adapter n).accessFault) (.resources postChange) with
      platform }) := by
  generalize ha : h.adapter n = a at hfresh ⊢
  obtain ⟨definition, store, workspace, accessFault, registrations⟩ := a
  obtain ⟨hdefinition, rfl, rfl, rfl⟩ := hfresh
  obtain ⟨d, rfl⟩ := Option.isSome_iff_exists.1 hdefinition
  unfold startAdapter
  rw [get_bind, ha]
  exact ⟨_, rfl⟩

lemma startAdapter_running (hrunning : (h.adapter n).isRunning = true) :
    startAdapter n h = (.ok (), h) := by
  unfold startAdapter
  rw [get_bind]
  simp only [hrunning]
  rfl

lemma unstaffed_undone (registrations : List Registration) (h : Host γ) :
    Unstaffed h (registrations.foldl (Bus.attempt unregisterListener noteStuck) h) := by
  induction registrations generalizing h with
  | nil => exact ⟨rfl, rfl, rfl⟩
  | cons registration rest ih =>
    have hfirst : Unstaffed h (Bus.attempt unregisterListener noteStuck h registration) := by
      cases registration <;> exact ⟨rfl, rfl, rfl⟩
    have hrest := ih (Bus.attempt unregisterListener noteStuck h registration)
    exact ⟨hrest.listeners.trans hfirst.listeners, hrest.adapters.trans hfirst.adapters,
      hrest.active.trans hfirst.active⟩

lemma HasBuses.stuck (hb : HasBuses st ws h a b) (broken : List String) :
    HasBuses st ws ((broken.map Registration.broken).foldl
      (Bus.attempt unregisterListener noteStuck) h) a b := by
  induction broken generalizing h with
  | nil => exact hb
  | cons message rest ih => exact ih ⟨hb.store, hb.workspace, hb.storeBus, hb.workspaceBus⟩

lemma HasBuses.undone (hb : HasBuses st ws h a b) (watchers : List Watcher) :
    HasBuses st ws ((watchers.map (Watcher.registration st ws)).foldl
        (Bus.attempt unregisterListener noteStuck) h)
      (watchers.foldl (fun bus watcher => watcher.onStore.unsubscribe bus) a)
      (watchers.foldl (fun bus watcher => watcher.onWorkspace.unsubscribe bus) b) := by
  induction watchers generalizing h a b with
  | nil => exact hb
  | cons watcher rest ih =>
    have hfirst : Bus.attempt unregisterListener noteStuck h (watcher.registration st ws) =
        (unregisterListener (watcher.registration st ws) h).2 := by
      cases watcher <;> rfl
    rw [List.map_cons, List.foldl_cons, hfirst]
    exact ih (hb.unregister watcher)

/-- The host in which an adapter is stopped that some more registrations were given to. -/
lemma stop_run (broken : List String) {watchers : List Watcher}
    (hdefinition : (h.adapter n).definition.isSome)
    (hregistrations : (h.adapter n).registrations = watchers.map (Watcher.registration st ws)) :
    ∃ platform, ((LifeStep.stop n broken).perform st ws h).2 =
      { (watchers.reverse.map (Watcher.registration st ws)).foldl
          (Bus.attempt unregisterListener noteStuck)
          ((broken.reverse.map Registration.broken).foldl
            (Bus.attempt unregisterListener noteStuck) ((h.burden n broken).releasing n)) with
        platform } := by
  obtain ⟨d, hd⟩ := Option.isSome_iff_exists.1 hdefinition
  have hburdened : (h.burden n broken).adapter n =
      { h.adapter n with
        registrations := (h.adapter n).registrations ++ broken.map .broken } := by
    rw [burden, adapter_setAdapter, if_pos ⟨rfl, lt_of_definition hdefinition⟩]
  have hdefinition' : ((h.burden n broken).adapter n).definition = some d := by
    rw [hburdened]
    exact hd
  rw [LifeStep.perform, modify_bind, stopAdapter_eq, stopAdapterBy_run _ hdefinition', hburdened]
  dsimp only
  rw [List.reverse_append, ← List.map_reverse, hregistrations, ← List.map_reverse,
    List.foldl_append]
  exact ⟨_, rfl⟩

lemma adapter_released (broken : List String) (hdefinition : (h.adapter n).definition.isSome)
    (other : Nat) : ((h.burden n broken).releasing n).adapter other =
      if other = n then { h.adapter n with registrations := [] } else h.adapter other := by
  have hlt := lt_of_definition hdefinition
  have hlt' : n < (h.burden n broken).adapters.length := by simpa [burden, setAdapter] using hlt
  have hburdened := fun other => adapter_setAdapter n other { h.adapter n with
    registrations := (h.adapter n).registrations ++ broken.map .broken } h
  rw [releasing, adapter_setAdapter]
  by_cases hother : other = n
  · subst hother
    rw [if_pos ⟨rfl, hlt'⟩, if_pos rfl, burden, hburdened, if_pos ⟨rfl, hlt⟩]
  · rw [if_neg fun hboth => hother hboth.1, if_neg hother, burden, hburdened,
      if_neg fun hboth => hother hboth.1]

end Steps

end Host

/-! ## What all steps lead to -/

section Run

variable {part : Watcher → Interest Nat} {key topic : String} {own : Nat → Nat}
  {ps : List Party} {first n : Nat}

/-- The other listeners that come and go are among the first ones. -/
def OthersBelow (first : Nat) (steps : List LifeStep) : Prop :=
  ∀ step ∈ steps, ∀ watcher ∈ step.watcher?, watcher.listener < first

/-- Each running adapter has two listeners of its own, one after the other, behind those that were
there before. -/
structure Numbered (h₀ : Host γ) (steps : List LifeStep) (own : Nat → Nat)
    (listeners : List (Listener γ)) : Prop where
  grown : h₀.listeners.length ≤ listeners.length
  late : ∀ n, runs n steps = true → h₀.listeners.length ≤ own n
  present : ∀ n, runs n steps = true →
    listeners[own n]? = some (.settings (h₀.adapter n).definition (h₀.adapter n).store schemaKey
      (h₀.adapter n).accessFault) ∧
    listeners[own n + 1]? = some (.folders (h₀.adapter n).definition (h₀.adapter n).accessFault)
  distinct : ∀ n m, runs n steps = true → runs m steps = true → own n = own m → n = m

namespace Numbered

variable {h₀ : Host γ} {steps : List LifeStep} {listeners : List (Listener γ)}

lemma mono (hn : Numbered h₀ steps own listeners) {steps' : List LifeStep}
    (hruns : ∀ m, runs m steps' = true → runs m steps = true) :
    Numbered h₀ steps' own listeners :=
  ⟨hn.grown, fun m hm => hn.late m (hruns m hm), fun m hm => hn.present m (hruns m hm),
    fun m m' hm hm' => hn.distinct m m' (hruns m hm) (hruns m' hm')⟩

lemma own_lt (hn : Numbered h₀ steps own listeners) (hruns : runs n steps = true) :
    own n < listeners.length :=
  (List.getElem?_eq_some_iff.1 (hn.present n hruns).1).1

lemma tellsApart (hn : Numbered h₀ steps own listeners) (hpart : OwnHandler part)
    (hothers : OthersBelow h₀.listeners.length steps) (offset : Nat) :
    TellsApart h₀.listeners.length (fun n => own n + offset) (parties part key steps topic) where
  others _ hmem := other_lt hpart hothers hmem
  adapters n hmem := Nat.le_add_right_of_le (hn.late n ((adapter_mem_parties hpart).1 hmem).2)
  distinct n m hmem hmem' hsame := hn.distinct n m ((adapter_mem_parties hpart).1 hmem).2
    ((adapter_mem_parties hpart).1 hmem').2 (Nat.add_right_cancel hsame)

/-- An adapter that starts gets the next two listeners. -/
lemma start (hn : Numbered h₀ steps own listeners) (hruns : runs n steps = false) :
    Numbered h₀ (steps ++ [.start n]) (Function.update own n listeners.length)
      (listeners ++ [.settings (h₀.adapter n).definition (h₀.adapter n).store schemaKey
          (h₀.adapter n).accessFault,
        .folders (h₀.adapter n).definition (h₀.adapter n).accessFault]) := by
  have hturned : ∀ m, runs m (steps ++ [.start n]) = true → m = n ∨
      runs m steps = true ∧ m ≠ n := by
    intro m hm
    rw [runs_concat, turns] at hm
    by_cases hsame : n = m
    · exact Or.inl hsame.symm
    · rw [if_neg hsame] at hm
      exact Or.inr ⟨hm, Ne.symm hsame⟩
  refine ⟨by simpa using Nat.le_add_right_of_le hn.grown, fun m hm => ?_, fun m hm => ?_,
    fun m m' hm hm' hsame => ?_⟩
  · rcases hturned m hm with rfl | ⟨hm, hne⟩
    · rw [Function.update_self]
      exact hn.grown
    · rw [Function.update_of_ne hne]
      exact hn.late m hm
  · rcases hturned m hm with rfl | ⟨hm, hne⟩
    · rw [Function.update_self]
      simp
    · rw [Function.update_of_ne hne]
      have hsecond := (List.getElem?_eq_some_iff.1 (hn.present m hm).2).1
      rw [List.getElem?_append_left (hn.own_lt hm), List.getElem?_append_left hsecond]
      exact hn.present m hm
  · rcases hturned m hm with rfl | ⟨hold, hne⟩
    · rcases hturned m' hm' with rfl | ⟨hold', hne'⟩
      · rfl
      · rw [Function.update_self, Function.update_of_ne hne'] at hsame
        exact absurd hsame (Nat.ne_of_gt (hn.own_lt hold'))
    · rcases hturned m' hm' with rfl | ⟨hold', hne'⟩
      · rw [Function.update_self, Function.update_of_ne hne] at hsame
        exact absurd hsame (Nat.ne_of_lt (hn.own_lt hold))
      · rw [Function.update_of_ne hne, Function.update_of_ne hne'] at hsame
        exact hn.distinct m m' hold hold' hsame

end Numbered

/-- The adapters and the two buses are as the steps tell. -/
structure Host.Seated (st ws : Nat) (h₀ : Host γ) (steps : List LifeStep) (own : Nat → Nat)
    (h : Host γ) : Prop where
  store : st < h.stores.length
  workspace : ws < h.workspaces.length
  numbered : Numbered h₀ steps own h.listeners
  adapters : ∀ n, (h₀.adapter n).Fresh st ws → h.adapter n = { h₀.adapter n with
    registrations := if runs n steps then ownRegistrations st ws (own n) else [] }
  storeBus : ∀ topic, (h.store st).bus.subscribers topic =
    (parties Watcher.onStore preferenceTopic steps topic).map (Party.listener own)
  workspaceBus : ∀ topic, (h.workspace ws).bus.subscribers topic =
    (parties Watcher.onWorkspace (resourceTopic postChange) steps topic).map
      (Party.listener fun n => own n + 1)

namespace Host.Seated

variable {st ws : Nat} {h₀ h : Host γ} {steps : List LifeStep}

lemma hasBuses (ha : Seated st ws h₀ steps own h) :
    HasBuses st ws h (h.store st).bus (h.workspace ws).bus :=
  ⟨ha.store, ha.workspace, rfl, rfl⟩

lemma tellsStore (ha : Seated st ws h₀ steps own h)
    (hothers : OthersBelow h₀.listeners.length steps) (topic : String) :
    TellsApart h₀.listeners.length own (parties Watcher.onStore preferenceTopic steps topic) :=
  ha.numbered.tellsApart ownHandler_onStore hothers 0

lemma tellsWorkspace (ha : Seated st ws h₀ steps own h)
    (hothers : OthersBelow h₀.listeners.length steps) (topic : String) :
    TellsApart h₀.listeners.length (fun n => own n + 1)
      (parties Watcher.onWorkspace (resourceTopic postChange) steps topic) :=
  ha.numbered.tellsApart ownHandler_onWorkspace hothers 1

/-- Nothing happens when an adapter is started that runs. -/
lemma start_again (ha : Seated st ws h₀ steps own h) (hfresh : (h₀.adapter n).Fresh st ws)
    (hruns : runs n steps = true) :
    Seated st ws h₀ (steps ++ [.start n]) own ((LifeStep.start n).perform st ws h).2 := by
  have hrunning : (h.adapter n).isRunning = true := by
    rw [ha.adapters n hfresh, hruns]
    rfl
  have hsame : ∀ m, runs m (steps ++ [.start n]) = runs m steps := by
    intro m
    rw [runs_concat, turns]
    split
    · rename_i hm
      rw [← hm, hruns]
    · rfl
  have hseated : ∀ {part : Watcher → Interest Nat} {key : String}, OwnHandler part → ∀ topic,
      parties part key (steps ++ [.start n]) topic = parties part key steps topic := by
    intro part key hpart topic
    rw [parties_concat, seat]
    exact if_neg fun hnew => hnew.2 ((adapter_mem_parties hpart).2 ⟨hnew.1, hruns⟩)
  rw [LifeStep.perform, startAdapter_running hrunning]
  refine ⟨ha.store, ha.workspace, ha.numbered.mono fun m hm => hsame m ▸ hm, ?_, ?_, ?_⟩
  · simpa only [hsame] using ha.adapters
  · simpa only [hseated ownHandler_onStore] using ha.storeBus
  · simpa only [hseated ownHandler_onWorkspace] using ha.workspaceBus

/-- An adapter that is started subscribes the next two listeners. -/
lemma start_anew (ha : Seated st ws h₀ steps own h) (hfresh : (h₀.adapter n).Fresh st ws)
    (hruns : runs n steps = false) :
    Seated st ws h₀ (steps ++ [.start n]) (Function.update own n h.listeners.length)
      ((LifeStep.start n).perform st ws h).2 := by
  have hadapter : h.adapter n = h₀.adapter n := by
    rw [ha.adapters n hfresh, hruns]
    simp [← hfresh.registrations]
  have hfresh' : (h.adapter n).Fresh st ws := hadapter ▸ hfresh
  obtain ⟨platform, hrun⟩ := startAdapter_fresh hfresh'
  rw [LifeStep.perform, hrun, hadapter]
  set settings : Listener γ := .settings (h₀.adapter n).definition st schemaKey
    (h₀.adapter n).accessFault
  set folders : Listener γ := .folders (h₀.adapter n).definition (h₀.adapter n).accessFault
  have hlength : (h.enlist st ws n settings .preferences).listeners.length =
      h.listeners.length + 1 := by
    rw [listeners_enlist, List.length_append]
    rfl
  have hlisteners : ((h.enlist st ws n settings .preferences).enlist st ws n folders
      (.resources postChange)).listeners = h.listeners ++ [settings, folders] := by
    rw [listeners_enlist, listeners_enlist, List.append_assoc]
    rfl
  have hbuses := (ha.hasBuses.enlist n settings .preferences).enlist n folders
    (.resources postChange)
  rw [hlength] at hbuses
  have hnot : ∀ {part : Watcher → Interest Nat} {key topic : String}, OwnHandler part →
      .adapter n ∉ parties part key steps topic := by
    intro part key topic hpart hmem
    rw [((adapter_mem_parties hpart).1 hmem).2] at hruns
    cases hruns
  refine ⟨hbuses.store, hbuses.workspace, ?_, ?_, fun topic => ?_, fun topic => ?_⟩
  · have hnumbered := ha.numbered.start hruns
    rw [hfresh.store] at hnumbered
    exact hlisteners.symm ▸ hnumbered
  · intro m hm
    have hfirst := adapter_enlist st ws hfresh'.definition settings .preferences
    have hdefinition : ((h.enlist st ws n settings .preferences).adapter n).definition.isSome := by
      rw [hfirst, if_pos rfl]
      exact hfresh'.definition
    rw [runs_concat, turns]
    change ((h.enlist st ws n settings .preferences).enlist st ws n folders
      (.resources postChange)).adapter m = _
    rw [adapter_enlist st ws hdefinition, hfirst, hfirst, hlength]
    by_cases hsame : m = n
    · subst hsame
      rw [if_pos rfl, if_pos rfl, if_pos rfl, if_pos rfl, Function.update_self, hadapter,
        hfresh.registrations]
      rfl
    · rw [if_neg hsame, if_neg hsame, if_neg (Ne.symm hsame), Function.update_of_ne hsame]
      exact ha.adapters m hm
  · rw [parties_concat, map_seat_start (hnot ownHandler_onStore), ← ha.storeBus topic,
      ← handlers_one, ← Interest.subscribers_subscribe]
    exact congrArg (fun bus => bus.subscribers topic) hbuses.storeBus
  · have hown : (fun m => Function.update own n h.listeners.length m + 1) =
        Function.update (fun m => own m + 1) n (h.listeners.length + 1) := by
      funext m
      by_cases hm : m = n
      · rw [hm, Function.update_self, Function.update_self]
      · rw [Function.update_of_ne hm, Function.update_of_ne hm]
    rw [parties_concat, hown, map_seat_start (hnot ownHandler_onWorkspace), ← ha.workspaceBus topic,
      ← handlers_postChange, ← Interest.subscribers_subscribe]
    exact congrArg (fun bus => bus.subscribers topic) hbuses.workspaceBus

/-- An adapter that is stopped takes the subscriptions back that it has. -/
lemma stop (ha : Seated st ws h₀ steps own h) (hfresh : (h₀.adapter n).Fresh st ws)
    (hothers : OthersBelow h₀.listeners.length steps) (broken : List String) :
    Seated st ws h₀ (steps ++ [.stop n broken]) own
      ((LifeStep.stop n broken).perform st ws h).2 := by
  set watchers : List Watcher := if runs n steps then
    [.preferences (own n), .resources postChange (own n + 1)] else [] with hwatchers
  have hadapter := ha.adapters n hfresh
  have hdefinition : (h.adapter n).definition.isSome := by
    rw [hadapter]
    exact hfresh.definition
  have hregistrations : (h.adapter n).registrations =
      watchers.map (Watcher.registration st ws) := by
    rw [hadapter, hwatchers]
    cases runs n steps <;> rfl
  obtain ⟨platform, hrun⟩ := stop_run broken hdefinition hregistrations
  have hreleased := adapter_released broken hdefinition
  have hbuses := ((show HasBuses st ws ((h.burden n broken).releasing n) _ _ from
    ⟨ha.store, ha.workspace, rfl, rfl⟩).stuck broken.reverse).undone watchers.reverse
  have hstuck := unstaffed_undone (broken.reverse.map Registration.broken)
    ((h.burden n broken).releasing n)
  have hundone := unstaffed_undone (watchers.reverse.map (Watcher.registration st ws))
    ((broken.reverse.map Registration.broken).foldl (Bus.attempt unregisterListener noteStuck)
      ((h.burden n broken).releasing n))
  rw [hrun]
  refine ⟨hbuses.store, hbuses.workspace, ?_, ?_, fun topic => ?_, fun topic => ?_⟩
  · have hnumbered : Numbered h₀ (steps ++ [.stop n broken]) own h.listeners := by
      refine ha.numbered.mono fun m hm => ?_
      rw [runs_concat, turns] at hm
      by_cases hsame : n = m
      · rw [if_pos hsame] at hm
        cases hm
      · rwa [if_neg hsame] at hm
    have hsame := hundone.listeners.trans hstuck.listeners
    exact hsame.symm ▸ hnumbered
  · intro m hm
    have hsame := (hundone.adapter m).trans (hstuck.adapter m)
    refine hsame.trans ?_
    rw [hreleased, runs_concat, turns]
    by_cases hmn : m = n
    · subst hmn
      rw [if_pos rfl, if_pos rfl, hadapter]
      rfl
    · rw [if_neg hmn, if_neg (Ne.symm hmn), ha.adapters m hm]
  · rw [parties_concat, map_seat_stop (ha.tellsStore hothers topic)
      (adapter_mem_parties ownHandler_onStore), ← handlers_one]
    refine (congrArg (fun bus => bus.subscribers topic) hbuses.storeBus).trans ?_
    rw [← ha.storeBus topic, hwatchers]
    cases runs n steps with
    | true => exact Interest.subscribers_unsubscribe (.one preferenceTopic (own n)) _ topic
    | false => rfl
  · rw [parties_concat, map_seat_stop (ha.tellsWorkspace hothers topic)
      (adapter_mem_parties ownHandler_onWorkspace), ← handlers_postChange]
    refine (congrArg (fun bus => bus.subscribers topic) hbuses.workspaceBus).trans ?_
    rw [← ha.workspaceBus topic, hwatchers]
    cases runs n steps with
    | true => exact Interest.subscribers_unsubscribe (.masked postChange (own n + 1)) _ topic
    | false => rfl

/-- Others that come and go leave the adapters and their listeners as they are. -/
lemma of_others (ha : Seated st ws h₀ steps own h) {step : LifeStep} {h' : Host γ} {a b : Bus Nat}
    (hstep : ∀ m, ¬ step.Calls m) (hsame : Unstaffed h h') (hbuses : HasBuses st ws h' a b)
    (hstoreBus : ∀ topic, a.subscribers topic =
      (seat Watcher.onStore preferenceTopic topic
        (parties Watcher.onStore preferenceTopic steps topic) step).map (Party.listener own))
    (hworkspaceBus : ∀ topic, b.subscribers topic =
      (seat Watcher.onWorkspace (resourceTopic postChange) topic
        (parties Watcher.onWorkspace (resourceTopic postChange) steps topic) step).map
          (Party.listener fun n => own n + 1)) :
    Seated st ws h₀ (steps ++ [step]) own h' := by
  have hruns : ∀ m, runs m (steps ++ [step]) = runs m steps := by
    intro m
    rw [runs_concat]
    cases step with
    | start k => exact absurd rfl (hstep k)
    | stop k broken => exact absurd rfl (hstep k)
    | add watcher => rfl
    | remove watcher => rfl
  refine ⟨hbuses.store, hbuses.workspace, ?_, fun m hm => ?_, fun topic => ?_, fun topic => ?_⟩
  · rw [hsame.listeners]
    exact ha.numbered.mono fun m hm => hruns m ▸ hm
  · rw [hsame.adapter, hruns]
    exact ha.adapters m hm
  · rw [hbuses.storeBus, parties_concat]
    exact hstoreBus topic
  · rw [hbuses.workspaceBus, parties_concat]
    exact hworkspaceBus topic

lemma add (ha : Seated st ws h₀ steps own h) (watcher : Watcher) :
    Seated st ws h₀ (steps ++ [.add watcher]) own
      ((LifeStep.add watcher).perform st ws h).2 := by
  have hbuses := ha.hasBuses.register watcher
  have hrun : ((LifeStep.add watcher).perform st ws h).2 = (watcher.register st ws h).2 :=
    bind_pure_snd _ _ h
  rw [hrun]
  refine ha.of_others (fun m => id) (unstaffed_register watcher st ws h) hbuses
    (fun topic => ?_) fun topic => ?_
  · rw [map_seat_add, Interest.subscribers_subscribe, ha.storeBus]
  · rw [map_seat_add, Interest.subscribers_subscribe, ha.workspaceBus]

lemma remove (ha : Seated st ws h₀ steps own h)
    (hothers : OthersBelow h₀.listeners.length steps) {watcher : Watcher}
    (hwatcher : watcher.listener < h₀.listeners.length) :
    Seated st ws h₀ (steps ++ [.remove watcher]) own
      ((LifeStep.remove watcher).perform st ws h).2 := by
  have hbuses := ha.hasBuses.unregister watcher
  refine ha.of_others (fun m => id) (unstaffed_unregister _ h) hbuses
    (fun topic => ?_) fun topic => ?_
  · rw [map_seat_remove ownHandler_onStore (ha.tellsStore hothers topic) hwatcher,
      Interest.subscribers_unsubscribe, ha.storeBus]
  · rw [map_seat_remove ownHandler_onWorkspace (ha.tellsWorkspace hothers topic) hwatcher,
      Interest.subscribers_unsubscribe, ha.workspaceBus]

/-- One step, whatever it is. -/
theorem step (ha : Seated st ws h₀ steps own h) {step : LifeStep}
    (hfresh : ∀ n, step.Calls n → (h₀.adapter n).Fresh st ws)
    (hothers : OthersBelow h₀.listeners.length (steps ++ [step])) :
    ∃ own', Seated st ws h₀ (steps ++ [step]) own' (step.perform st ws h).2 := by
  have hbefore : OthersBelow h₀.listeners.length steps :=
    fun other hin => hothers other (List.mem_append_left _ hin)
  cases step with
  | start n =>
    cases hruns : runs n steps with
    | true => exact ⟨own, ha.start_again (hfresh n rfl) hruns⟩
    | false => exact ⟨_, ha.start_anew (hfresh n rfl) hruns⟩
  | stop n broken => exact ⟨own, ha.stop (hfresh n rfl) hbefore broken⟩
  | add watcher => exact ⟨own, ha.add watcher⟩
  | remove watcher =>
    exact ⟨own, ha.remove hbefore (hothers (.remove watcher) (by simp) watcher rfl)⟩

end Host.Seated

/-- The buses are attended by whom the steps tell, if the others come and go one at a time. -/
lemma Host.Seated.attended {st ws : Nat} {h₀ h : Host γ} {steps : List LifeStep}
    (ha : Seated st ws h₀ steps own h) (hothers : OthersBelow h₀.listeners.length steps)
    (hfair : FairFrom [] steps) :
    (h.store st).bus.Attended Watcher.onStore preferenceTopic steps own ∧
      (h.workspace ws).bus.Attended Watcher.onWorkspace (resourceTopic postChange) steps
        fun n => own n + 1 where
  left :=
    { calls topic := Bus.calls_iff.2 (ha.storeBus topic)
      distinct _ := (ha.tellsStore hothers _).nodup_map
        (nodup_parties ownHandler_onStore hfair)
      running _ n := count_parties ownHandler_onStore steps n
      others := (others_parties ownHandler_onStore _ hfair).2 }
  right :=
    { calls topic := Bus.calls_iff.2 (ha.workspaceBus topic)
      distinct _ := (ha.tellsWorkspace hothers _).nodup_map
        (nodup_parties ownHandler_onWorkspace hfair)
      running _ n := count_parties ownHandler_onWorkspace steps n
      others := (others_parties ownHandler_onWorkspace _ hfair).2 }

end Run

end LanguageHost
