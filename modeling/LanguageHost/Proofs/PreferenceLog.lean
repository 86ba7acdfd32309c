import Mathlib.Logic.Function.Basic
import LanguageHost.Proofs.Audience
import LanguageHost.Proofs.Turn

/-!
# The changes of preferences are a log

What a key shows is its stored value, else its default, else nothing, and setting a value sometimes
stores it and sometimes erases one. The changes that are announced know nothing of that: replayed
over what the keys showed at first, they give what the keys show now.

A call writes first and announces then, so each announced change tells what its key showed before
the call. Values that were loaded may equal their defaults; a value that is set is never stored
beside an equal default.
-/

namespace LanguageHost

open Act Host

variable {γ : Type}

/-- A call on a store: a preference is set, or it is set to its default. -/
inductive PreferenceCall where
  | set (key value : Text)
  | reset (key : Text)

/-- What is shown after a change: its key shows the new value. -/
def PreferenceChange.replay (shown : Text → Text) (change : PreferenceChange) : Text → Text :=
  Function.update shown change.key (change.new.getD [])

/-- What the keys of a store show. -/
def Host.shown (st : Nat) (h : Host γ) (key : Text) : Text :=
  (h.store st).get key

/-- Announces a change of a store. -/
def Host.announceChange (react : List γ → Act γ Unit) (st : Nat) (change : PreferenceChange)
    (h : Host γ) : Host γ :=
  (publish react "preferences.bus" preferenceTopic (.preference change)
    ((h.store st).bus.subscribers preferenceTopic) h).2

/-- A recorder is subscribed once to the changes of a store, and whoever else is subscribed changes
neither the stores nor the listeners nor the records. -/
structure Host.Tracked (react : List γ → Act γ Unit) (st r : Nat) (name : String) (h : Host γ) :
    Prop where
  store : st < h.stores.length
  recorder : ∃ reaction, h.listeners[r]? = some (.recorder name reaction) ∧
    Lasts (Steady Host.stores) (react reaction)
  once : ((h.store st).bus.subscribers preferenceTopic).count r = 1
  others : ∀ n ∈ (h.store st).bus.subscribers preferenceTopic, n ≠ r →
    ∀ listener, h.listeners[n]? = some listener →
      ∀ change, Lasts (Steady Host.stores) (Listener.receive react (.preference change) listener)

/-- Whoever is subscribed to a store leaves the stores and the listeners alone. -/
def Host.Unmeddled (react : List γ → Act γ Unit) (st : Nat) (h : Host γ) : Prop :=
  ∀ n ∈ (h.store st).bus.subscribers preferenceTopic, ∀ listener, h.listeners[n]? = some listener →
    ∀ change, Lasts (Spared Host.stores) (Listener.receive react (.preference change) listener)

namespace PreferenceStore

variable {store : PreferenceStore}

/-- No stored value is the default of its key. -/
def Overriding (store : PreferenceStore) : Prop :=
  ∀ key value, findMember? key store.values = some value → value ≠ store.getDefault key

/-- A value that equals its default is not stored. -/
lemma Overriding.write (hstore : store.Overriding) (key value : Text) :
    (store.write key value).Overriding := by
  intro other stored hstored
  rw [getDefault_write]
  unfold PreferenceStore.write at hstored
  split at hstored
  · rw [findMember?_dropMember] at hstored
    split at hstored
    · cases hstored
    · exact hstore other stored hstored
  · rename_i hvalue
    rw [findMember?_putMember] at hstored
    split at hstored
    · rename_i hother
      cases hstored
      rwa [← hother]
    · exact hstore other stored hstored

lemma changeOf_eq_none {key value : Text} :
    store.changeOf key value = none ↔ store.get key = value := by
  simp only [changeOf]
  split <;> simp_all

lemma changeOf_eq_some {key value : Text} {change : PreferenceChange} :
    store.changeOf key value = some change ↔
      store.get key ≠ value ∧ change = ⟨key, some (store.get key), some value⟩ := by
  simp only [changeOf]
  split <;> simp_all [eq_comm]

/-- Replaying the change that a write has to announce gives what is shown after the write. -/
lemma get_write_eq_replay (store : PreferenceStore) (key value : Text) :
    (fun other => (store.write key value).get other) =
      (store.changeOf key value).toList.foldl PreferenceChange.replay fun other =>
        store.get other := by
  funext other
  rw [get_write]
  rcases hchange : store.changeOf key value with _ | change
  · rw [changeOf_eq_none] at hchange
    split
    · rename_i hother
      rw [← hchange, hother]
      rfl
    · rfl
  · obtain ⟨-, rfl⟩ := changeOf_eq_some.1 hchange
    by_cases hother : key = other
    · subst hother
      simp [PreferenceChange.replay]
    · simp [PreferenceChange.replay, hother, Function.update_of_ne (Ne.symm hother)]

end PreferenceStore

namespace PreferenceCall

/-- Makes the call. -/
def perform (react : List γ → Act γ Unit) (st : Nat) : PreferenceCall → Act γ Unit
  | set key value => setPreference react st key value
  | reset key => resetPreference react st key

/-- The key that the call is about. -/
def key : PreferenceCall → Text
  | set key _ => key
  | reset key => key

/-- What the key is to show. -/
def value (store : PreferenceStore) : PreferenceCall → Text
  | set _ value => value
  | reset key => store.getDefault key

/-- The change that a call announces, if there is one. -/
def event? (store : PreferenceStore) (call : PreferenceCall) : Option PreferenceChange :=
  store.changeOf call.key (call.value store)

/-- The host in which the value is written and nothing is announced yet. -/
def written (st : Nat) (h : Host γ) (call : PreferenceCall) : Host γ :=
  h.setStore st ((h.store st).write call.key (call.value (h.store st)))

/-- What some calls lead to. -/
def after (react : List γ → Act γ Unit) (st : Nat) (h : Host γ) (calls : List PreferenceCall) :
    Host γ :=
  calls.foldl (fun h call => (call.perform react st h).2) h

/-- The changes that some calls announce, in their order. -/
def log (react : List γ → Act γ Unit) (st : Nat) :
    List PreferenceCall → Host γ → List PreferenceChange
  | [], _ => []
  | call :: rest, h =>
    (call.event? (h.store st)).toList ++ log react st rest (call.perform react st h).2

/-! ## One call -/

/-- A call writes its value, announces its change if it has one, and never fails. -/
theorem perform_eq (react : List γ → Act γ Unit) (st : Nat) (h : Host γ) (call : PreferenceCall) :
    call.perform react st h =
      (.ok (), (call.event? (h.store st)).elim id (announceChange react st) (call.written st h)) := by
  have hset : ∀ key value, setPreference react st key value h =
      (.ok (), ((h.store st).changeOf key value).elim id (announceChange react st)
        (h.setStore st ((h.store st).write key value))) := by
    intro key value
    unfold setPreference
    rw [get_bind, modify_bind]
    cases (h.store st).changeOf key value with
    | none => rfl
    | some change => exact Prod.ext (Change.publish_fst react _ _ _ _ _) rfl
  cases call with
  | set key value => exact hset key value
  | reset key => exact hset key _

lemma store_written {st : Nat} {h : Host γ} (hst : st < h.stores.length) (call : PreferenceCall) :
    (call.written st h).store st =
      (h.store st).write call.key (call.value (h.store st)) := by
  rw [written, store_setStore, if_pos ⟨rfl, hst⟩]

/-- If no listener meddles with the stores, a call leaves the stores as it wrote them. -/
lemma spared_perform {react : List γ → Act γ Unit} {st : Nat} {h : Host γ}
    (hst : st < h.stores.length) (hh : h.Unmeddled react st) (call : PreferenceCall) :
    Spared Host.stores (call.written st h) (call.perform react st h).2 := by
  have hbus : ((call.written st h).store st).bus = (h.store st).bus := by
    rw [store_written hst, Change.bus_write]
  rw [perform_eq]
  rcases call.event? (h.store st) with _ | change
  · exact refl_of (Spared Host.stores) _
  · have hbeside : Beside (Host.stores (γ := γ)) := fun _ _ _ => rfl
    exact spared_publish "preferences.bus" preferenceTopic (.preference change) hbeside _
      fun n hn listener hl => hh n (hbus ▸ hn) listener hl change

lemma store_perform_unmeddled {react : List γ → Act γ Unit} {st : Nat} {h : Host γ}
    (hst : st < h.stores.length) (hh : h.Unmeddled react st) (call : PreferenceCall) :
    (call.perform react st h).2.store st =
      (h.store st).write call.key (call.value (h.store st)) := by
  rw [← store_written hst, Host.store, Host.store]
  exact congrArg (·.getD st default) (spared_perform hst hh call).part

end PreferenceCall

namespace Host.Tracked

variable {react : List γ → Act γ Unit} {st r : Nat} {name : String} {h : Host γ}

lemma transport (ht : h.Tracked react st r name) {h' : Host γ}
    (hlength : h'.stores.length = h.stores.length) (hlisteners : h'.listeners = h.listeners)
    (hbus : (h'.store st).bus = (h.store st).bus) : h'.Tracked react st r name := by
  refine ⟨hlength ▸ ht.store, ?_, ?_, ?_⟩
  · rw [hlisteners]
    exact ht.recorder
  · rw [hbus]
    exact ht.once
  · rw [hbus, hlisteners]
    exact ht.others

lemma written (ht : h.Tracked react st r name) (call : PreferenceCall) :
    (call.written st h).Tracked react st r name := by
  refine ht.transport (by simp [PreferenceCall.written, setStore]) rfl ?_
  rw [PreferenceCall.store_written ht.store, Change.bus_write]

/-- The recorder keeps an announced change once, and the stores stay as they are. -/
lemma collects (ht : h.Tracked react st r name) (change : PreferenceChange) :
    Collects Host.stores name (.preference change) 1 h (h.announceChange react st change) := by
  obtain ⟨reaction, hlistener, hreaction⟩ := ht.recorder
  have hbeside : Beside (Host.stores (γ := γ)) := fun _ _ _ => rfl
  have a := collects_publish "preferences.bus" preferenceTopic (.preference change) hbeside
    hreaction ((h.store st).bus.subscribers preferenceTopic) hlistener
    fun n hn hne listener hl => ht.others n hn hne listener hl change
  rwa [ht.once] at a

/-- After a call the stores are as they were written, and the recorder kept the change if there was
one. -/
lemma perform_run (ht : h.Tracked react st r name) (call : PreferenceCall) :
    let h' := (call.perform react st h).2
    h'.stores = (call.written st h).stores ∧ h'.listeners = h.listeners ∧
      h'.recorded = h.recorded ++ (call.event? (h.store st)).toList.map fun change =>
        ⟨name, (Event.preference change).toJson⟩ := by
  intro h'
  have hh' : h' = (call.event? (h.store st)).elim id (Host.announceChange react st)
      (call.written st h) := congrArg Prod.snd (call.perform_eq react st h)
  rcases hevent : call.event? (h.store st) with _ | change
  · rw [hh', hevent]
    exact ⟨rfl, rfl, (List.append_nil _).symm⟩
  · have a := (ht.written call).collects change
    rw [hh', hevent]
    exact ⟨a.part, a.listeners, a.recorded⟩

lemma store_perform (ht : h.Tracked react st r name) (call : PreferenceCall) :
    (call.perform react st h).2.store st =
      (h.store st).write call.key (call.value (h.store st)) := by
  rw [← PreferenceCall.store_written ht.store, Host.store, (ht.perform_run call).1]
  rfl

lemma perform (ht : h.Tracked react st r name) (call : PreferenceCall) :
    (call.perform react st h).2.Tracked react st r name := by
  obtain ⟨hstores, hlisteners, -⟩ := ht.perform_run call
  refine (ht.written call).transport (by rw [hstores]) hlisteners ?_
  rw [ht.store_perform, PreferenceCall.store_written ht.store]

/-- A key shows what a call sets it to; the other keys show what they did. -/
lemma shown_perform (ht : h.Tracked react st r name) (call : PreferenceCall) (other : Text) :
    (call.perform react st h).2.shown st other =
      if call.key = other then call.value (h.store st) else h.shown st other := by
  rw [shown, ht.store_perform, PreferenceStore.get_write]
  rfl

end Host.Tracked

namespace PreferenceCall

variable {react : List γ → Act γ Unit} {st r : Nat} {name : String} {h : Host γ}

/-! ## Runs -/

lemma after_concat (calls : List PreferenceCall) (call : PreferenceCall) :
    after react st h (calls ++ [call]) = (call.perform react st (after react st h calls)).2 := by
  rw [after, after, List.foldl_append]
  rfl

lemma log_concat (calls : List PreferenceCall) (call : PreferenceCall) :
    log react st (calls ++ [call]) h =
      log react st calls h ++ (call.event? ((after react st h calls).store st)).toList := by
  induction calls generalizing h with
  | nil => simp [log, after]
  | cons first rest ih =>
    rw [List.cons_append, log, log, ih, List.append_assoc]
    rfl

/-- Each change tells what its key showed just before, and that is not what it shows then. -/
def Faithful (shown : Text → Text) (changes : List PreferenceChange) : Prop :=
  ∀ earlier change later, changes = earlier ++ change :: later →
    change.old = some (earlier.foldl PreferenceChange.replay shown change.key) ∧
      change.old ≠ change.new

lemma Faithful.concat {shown : Text → Text} {changes : List PreferenceChange}
    (hchanges : Faithful shown changes) {last : PreferenceChange}
    (hold : last.old = some (changes.foldl PreferenceChange.replay shown last.key))
    (hnew : last.old ≠ last.new) : Faithful shown (changes ++ [last]) := by
  intro earlier change later hsplit
  rcases List.eq_nil_or_concat later with rfl | ⟨front, other, rfl⟩
  · obtain ⟨rfl, hlast⟩ := List.append_inj' hsplit rfl
    cases hlast
    exact ⟨hold, hnew⟩
  · rw [List.concat_eq_append, ← List.cons_append, ← List.append_assoc] at hsplit
    exact hchanges earlier change front (List.append_inj' hsplit rfl).1

/-- The recorder kept a log of changes that tells how the keys of the store came to show what they
do. -/
structure Replays (react : List γ → Act γ Unit) (st r : Nat) (name : String) (h₀ : Host γ)
    (changes : List PreferenceChange) (h : Host γ) : Prop where
  tracked : h.Tracked react st r name
  recorded : h.recorded =
    h₀.recorded ++ changes.map fun change => ⟨name, (Event.preference change).toJson⟩
  shown : h.shown st = changes.foldl PreferenceChange.replay (h₀.shown st)
  faithful : Faithful (h₀.shown st) changes
  overriding : (h₀.store st).Overriding → (h.store st).Overriding

/-- One call: what is shown and the log change alike. -/
lemma Replays.step {h₀ : Host γ} {changes : List PreferenceChange}
    (hr : Replays react st r name h₀ changes h) (call : PreferenceCall) :
    Replays react st r name h₀ (changes ++ (call.event? (h.store st)).toList)
      (call.perform react st h).2 := by
  have hstore := hr.tracked.store_perform call
  refine ⟨hr.tracked.perform call, ?_, ?_, ?_, fun hstart => ?_⟩
  · rw [(hr.tracked.perform_run call).2.2, hr.recorded, List.map_append, List.append_assoc]
  · rw [List.foldl_append, ← hr.shown]
    have hwritten := PreferenceStore.get_write_eq_replay (h.store st) call.key
      (call.value (h.store st))
    rw [← hstore] at hwritten
    exact hwritten
  · rcases hevent : call.event? (h.store st) with _ | change
    · rw [Option.toList_none, List.append_nil]
      exact hr.faithful
    · obtain ⟨hchanged, rfl⟩ := PreferenceStore.changeOf_eq_some.1 hevent
      refine hr.faithful.concat ?_ fun hsame => hchanged (Option.some.inj hsame)
      rw [← hr.shown]
      rfl
  · rw [hstore]
    exact (hr.overriding hstart).write _ _

/-- All calls, by induction on them. -/
theorem replays (ht : h.Tracked react st r name) (calls : List PreferenceCall) :
    Replays react st r name h (log react st calls h) (after react st h calls) := by
  induction calls using List.reverseRecOn with
  | nil =>
    refine ⟨ht, (List.append_nil _).symm, rfl, fun earlier change later hsplit => ?_, id⟩
    exact absurd hsplit (by simp [log])
  | append_singleton calls call ih =>
    rw [log_concat, after_concat]
    exact ih.step call

end PreferenceCall

/-- **The changes of preferences are a log of what the keys show.** From any store, with any values
and defaults, a listener that is subscribed receives one change for every call that changes what
its key shows, and none for the others. Replayed over what the keys showed at first, the changes
give what every key shows at the end; each tells what its key showed just before it, which is not
what it shows then. A call never fails and leaves what other keys show alone. If no stored value
was the default of its key at first, then none is at the end. -/
theorem preference_changes_replay (react : List γ → Act γ Unit) (st r : Nat) (name : String)
    (h : Host γ) (htracked : h.Tracked react st r name) (calls : List PreferenceCall) :
    let h' := PreferenceCall.after react st h calls
    let log := PreferenceCall.log react st calls h
    h'.recorded =
      h.recorded ++ log.map (fun change => ⟨name, (Event.preference change).toJson⟩) ∧
    log.foldl PreferenceChange.replay (h.shown st) = h'.shown st ∧
    (∀ earlier change later, log = earlier ++ change :: later →
      change.old = some (earlier.foldl PreferenceChange.replay (h.shown st) change.key) ∧
        change.old ≠ change.new) ∧
    ((∀ key value, findMember? key (h.store st).values = some value →
        value ≠ (h.store st).getDefault key) →
      ∀ key value, findMember? key (h'.store st).values = some value →
        value ≠ (h'.store st).getDefault key) ∧
    ∀ call : PreferenceCall,
      let event := call.event? (h'.store st)
      let called := call.perform react st h'
      called = (.ok (), event.elim id (announceChange react st) (call.written st h')) ∧
      called.2.recorded = h'.recorded ++
        event.toList.map (fun change => ⟨name, (Event.preference change).toJson⟩) ∧
      (event.isSome = true ↔ called.2.shown st call.key ≠ h'.shown st call.key) ∧
      called.2.shown st call.key = call.value (h'.store st) ∧
      ∀ other, other ≠ call.key → called.2.shown st other = h'.shown st other := by
  intro h' log
  have hr : PreferenceCall.Replays react st r name h log h' :=
    PreferenceCall.replays htracked calls
  refine ⟨hr.recorded, hr.shown.symm, hr.faithful, hr.overriding, fun call => ?_⟩
  intro event called
  have hshown := hr.tracked.shown_perform call
  refine ⟨PreferenceCall.perform_eq react st h' call,
    (hr.tracked.perform_run call).2.2, ?_, ?_, fun other hother => ?_⟩
  · rw [hshown, if_pos rfl, Option.isSome_iff_ne_none]
    exact not_congr (PreferenceStore.changeOf_eq_none.trans eq_comm)
  · rw [hshown, if_pos rfl]
  · rw [hshown, if_neg (Ne.symm hother)]

/-- The small host whose store holds a value that equals its default, with a recorder on the store
and behind it a listener that sends settings to the attached session. -/
def Host.loaded : Host Empty :=
  { Host.small with
    stores := [⟨⟨.root, []⟩, [("a", "one"), ("c", "two")], [("a", "one"), ("b", "x")],
      (Bus.empty.subscribe preferenceTopic 0).subscribe preferenceTopic 1⟩]
    listeners := [.recorder "log" [], .settings (some 0) 0 schemaKey none]
    active := [0] }

lemma Host.tracked_loaded : Host.loaded.Tracked (fun _ => pure ()) 0 0 "log" := by
  refine ⟨by decide, ⟨[], rfl, fun _ => ⟨rfl, rfl, rfl⟩⟩, by decide, fun n hn hne listener hl => ?_⟩
  have hlistener : listener = .settings (some 0) 0 schemaKey none := by
    rcases n with _ | _ | n
    · exact absurd rfl hne
    · exact (Option.some.inj hl).symm
    · cases hl
  intro change
  rw [hlistener]
  exact steady_receive (fun hu => hu.stores) fun name reaction hrecorder => by cases hrecorder

/-- A stored value is set to its default, which erases it and shows nothing new; a preference with a
default is changed and reset, one without is set, and one is set to what it shows. -/
def preferenceCalls : List PreferenceCall :=
  [.set "a" "one", .set "b" "y", .set schemaKey "\x7b\x7d", .reset "b", .set "d" "", .set "c" ""]

/-- Of six calls four announce a change. Replaying them tells what is shown at the end. -/
theorem replay_after_preference_calls :
    let log := PreferenceCall.log (fun _ => pure ()) 0 preferenceCalls Host.loaded
    let h' := PreferenceCall.after (fun _ => pure ()) 0 Host.loaded preferenceCalls
    Host.loaded.Tracked (fun _ => pure ()) 0 0 "log" ∧ log.length = 4 ∧
      h'.recorded = log.map (fun change => ⟨"log", (Event.preference change).toJson⟩) ∧
      h'.shown 0 "b" = "x" ∧ h'.shown 0 schemaKey = "\x7b\x7d" ∧ h'.shown 0 "c" = "" := by
  intro log h'
  obtain ⟨hrecorded, hshown, -⟩ := preference_changes_replay (fun _ => pure ()) 0 0 "log"
    Host.loaded Host.tracked_loaded preferenceCalls
  have hview : ∀ key, h'.shown 0 key = log.foldl PreferenceChange.replay (Host.loaded.shown 0) key :=
    fun key => congrFun hshown.symm key
  refine ⟨Host.tracked_loaded, by decide +kernel, hrecorded, ?_, ?_, ?_⟩
  · rw [hview]
    decide +kernel
  · rw [hview]
    decide +kernel
  · rw [hview]
    decide +kernel

end LanguageHost
