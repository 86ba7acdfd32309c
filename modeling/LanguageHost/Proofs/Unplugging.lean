import Mathlib.Data.List.GetD
import LanguageHost.Host.Plugin
import LanguageHost.Proofs.Lifecycle
import LanguageHost.Proofs.Wire

/-!
# Stopping a plugin

A plugin stops the sessions of its definition one after another, and then its adapter. What stopping
a session does is arbitrary here: it may fail, and may take this session and others from the
registered ones, so the list that is gone through is the one from before the first stop. All that is
asked of it is to leave listeners, adapters and subscriptions alone, and to register nobody else.
-/

namespace LanguageHost

open Act Host LifeStep

variable {γ : Type}

/-! ## Sessions that are stopped in their own way -/

namespace Host

/-- Notes that a session could not be stopped. -/
def noteUnstopped (n : Nat) (fault : Fault) (h : Host γ) : Host γ :=
  h.log "plugin" .error "Failed to stop session"
    [("session", h.describeSession n), ("error", .str fault.message)]

/-- What stopping one session leaves behind, with its fault noted if it failed. -/
def stopNoted (stop : Nat → Act γ Unit) (h : Host γ) (n : Nat) : Host γ :=
  Bus.attempt stop (noteUnstopped n) h n

/-- Stopping a session leaves listeners, adapters and subscriptions alone, and registers no other
session. -/
structure Spares (n : Nat) (h h' : Host γ) : Prop where
  storeBuses : h'.stores.map PreferenceStore.bus = h.stores.map PreferenceStore.bus
  workspaceBuses : h'.workspaces.map Workspace.bus = h.workspaces.map Workspace.bus
  listeners : h'.listeners = h.listeners
  adapters : h'.adapters = h.adapters
  active : (h'.active.filter (· ≠ n)).Sublist (h.active.filter (· ≠ n))

namespace Spares

variable {n : Nat} {h h' h'' : Host γ}

instance (n : Nat) : Std.Refl (Spares (γ := γ) n) where
  refl _ := ⟨rfl, rfl, rfl, rfl, .refl _⟩

instance (n : Nat) : IsTrans (Host γ) (Spares n) where
  trans _ _ _ a b := ⟨b.storeBuses.trans a.storeBuses, b.workspaceBuses.trans a.workspaceBuses,
    b.listeners.trans a.listeners, b.adapters.trans a.adapters, b.active.trans a.active⟩

lemma store (a : Spares n h h') (st : Nat) : (h'.store st).bus = (h.store st).bus := by
  have hsame := congrArg (fun buses => buses.getD st (default : PreferenceStore).bus) a.storeBuses
  rw [List.getD_map, List.getD_map] at hsame
  exact hsame

lemma workspace (a : Spares n h h') (ws : Nat) : (h'.workspace ws).bus = (h.workspace ws).bus := by
  have hsame := congrArg (fun buses => buses.getD ws (default : Workspace).bus) a.workspaceBuses
  rw [List.getD_map, List.getD_map] at hsame
  exact hsame

/-- Noting a failure spares what the stop spared. -/
lemma stopNoted {stop : Nat → Act γ Unit} (hstop : Lasts (Spares n) (stop n)) (h : Host γ) :
    Spares n h (h.stopNoted stop n) := by
  have a := hstop h
  rw [Host.stopNoted, Bus.attempt]
  rcases hres : stop n h with ⟨_ | _, h'⟩
  · rw [hres] at a
    exact ⟨a.storeBuses, a.workspaceBuses, a.listeners, a.adapters, a.active⟩
  · rw [hres] at a
    exact a

end Spares

/-- Stops that spare the adapters keep them as the steps tell. -/
lemma Seated.spared {st ws n : Nat} {h₀ h h' : Host γ} {steps : List LifeStep} {own : Nat → Nat}
    (ha : Seated st ws h₀ steps own h) (hsame : Spares n h h') :
    Seated st ws h₀ steps own h' where
  store := by
    have hlength := congrArg List.length hsame.storeBuses
    rw [List.length_map, List.length_map] at hlength
    exact hlength ▸ ha.store
  workspace := by
    have hlength := congrArg List.length hsame.workspaceBuses
    rw [List.length_map, List.length_map] at hlength
    exact hlength ▸ ha.workspace
  numbered := hsame.listeners ▸ ha.numbered
  adapters m hm := by
    rw [Host.adapter, hsame.adapters]
    exact ha.adapters m hm
  storeBus topic := by rw [hsame.store, ha.storeBus]
  workspaceBus topic := by rw [hsame.workspace, ha.workspaceBus]

section Sessions

variable {stop : Nat → Act γ Unit} {h : Host γ}

lemma Seated.stopSessions (hstop : ∀ n, Lasts (Spares n) (stop n)) {st ws : Nat} {h₀ : Host γ}
    {steps : List LifeStep} {own : Nat → Nat} (ha : Seated st ws h₀ steps own h)
    (sessions : List Nat) : Seated st ws h₀ steps own (sessions.foldl (stopNoted stop) h) := by
  induction sessions generalizing h with
  | nil => exact ha
  | cons n rest ih => exact ih (ha.spared (Spares.stopNoted (hstop n) h))

end Sessions

/-! ## Sessions of this host -/

section Direct

variable {n : Nat} {h h' : Host γ}

end Direct

end Host

namespace Session

variable {n : Nat}

end Session

/-! ## The adapter after the sessions -/

namespace Host

lemma burden_nil (n : Nat) (h : Host γ) : h.burden n [] = h := by
  have hsame : h.adapters.set n (h.adapter n) = h.adapters := by
    refine List.ext_getElem? fun m => ?_
    rw [List.getElem?_set]
    split
    · rename_i hm
      subst hm
      split
      · rename_i hlt
        rw [adapter, List.getD_eq_getElem?_getD, List.getElem?_eq_getElem hlt]
        rfl
      · rename_i hle
        exact (List.getElem?_eq_none (Nat.le_of_not_lt hle)).symm
    · rfl
  rw [burden, List.map_nil, List.append_nil, setAdapter, hsame]

/-- Subscriptions are undone without a fault. -/
lemma faults_watchers (st ws : Nat) (watchers : List Watcher) (h : Host γ) :
    Bus.faults unregisterListener noteStuck (watchers.map (Watcher.registration st ws)) h = [] := by
  induction watchers generalizing h with
  | nil => rfl
  | cons watcher rest ih =>
    rw [List.map_cons, Bus.faults, ih]
    cases watcher <;> rfl

variable {st ws n : Nat} {h₀ h : Host γ} {steps : List LifeStep} {own : Nat → Nat}

/-- An adapter that nothing is in the way of stops without a fault. -/
lemma Seated.stopAdapter (ha : Seated st ws h₀ steps own h)
    (hfresh : (h₀.adapter n).Fresh st ws) (hothers : OthersBelow h₀.listeners.length steps) :
    (stopAdapter n h).1 = .ok () ∧ (stopAdapter n h).2.active = h.active ∧
      Seated st ws h₀ (steps ++ [.stop n []]) own (stopAdapter n h).2 := by
  have hadapter := ha.adapters n hfresh
  obtain ⟨d, hd⟩ := Option.isSome_iff_exists.1 hfresh.definition
  have hdefinition : (h.adapter n).definition = some d := by
    rw [hadapter]
    exact hd
  have hregistrations : ∃ watchers : List Watcher, (h.adapter n).registrations.reverse =
      watchers.map (Watcher.registration st ws) := by
    rw [hadapter]
    cases runs n steps with
    | true => exact ⟨[.resources postChange (own n + 1), .preferences (own n)], rfl⟩
    | false => exact ⟨[], rfl⟩
  have hrun := stopAdapterBy_run unregisterListener hdefinition
  rw [← stopAdapter_eq] at hrun
  refine ⟨?_, ?_, ?_⟩
  · obtain ⟨watchers, hwatchers⟩ := hregistrations
    rw [hrun]
    dsimp only
    rw [hwatchers, faults_watchers]
    rfl
  · rw [hrun]
    exact (unstaffed_undone (h.adapter n).registrations.reverse (h.releasing n)).active
  · have hstopped := ha.stop hfresh hothers []
    rwa [LifeStep.perform, modify_bind, burden_nil] at hstopped

/-- The listeners that an adapter had are none of the parties' once it is stopped. -/
lemma Seated.gone (ha : Seated st ws h₀ steps own h)
    (hothers : OthersBelow h₀.listeners.length steps) {part : Watcher → Interest Nat}
    (hpart : OwnHandler part) (key topic : String) (offset : Nat) (hruns : runs n steps = true) :
    own n + offset ∉ (parties part key (steps ++ [.stop n []]) topic).map
      (Party.listener fun m => own m + offset) := by
  intro hmem
  obtain ⟨p, hp, hsame⟩ := List.mem_map.1 hmem
  have hlate := ha.numbered.late n hruns
  cases p with
  | other m =>
    have hlt : m < h₀.listeners.length := by
      refine other_lt hpart (fun step hstep watcher hwatcher => ?_) hp
      rcases List.mem_append.1 hstep with hbefore | hstop
      · exact hothers step hbefore watcher hwatcher
      · rw [List.mem_singleton.1 hstop] at hwatcher
        cases hwatcher
    have hown : m = own n + offset := hsame
    omega
  | adapter m =>
    have hstays := ((adapter_mem_parties hpart).1 hp).2
    rw [runs_concat, turns] at hstays
    by_cases hm : n = m
    · rw [if_pos hm] at hstays
      cases hstays
    · rw [if_neg hm] at hstays
      exact hm (ha.numbered.distinct n m hruns hstays (Nat.add_right_cancel hsame).symm)

end Host

end LanguageHost
