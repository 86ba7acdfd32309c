import LanguageHost.Host.Changes
import LanguageHost.Proofs.Link

/-!
# The audience of an event

Who is subscribed when an event is published hears it, one listener after another. The listeners
that keep servers informed leave everything alone that talking does not touch. A recorder keeps
the event as often as it is subscribed, if nobody in the audience moves the records or the
listeners.
-/

namespace LanguageHost

open Act

variable {γ α : Type}

namespace Host

/-! ## Listeners that keep servers informed -/

/-- Nothing is disturbed, and relative paths are seen from the same place. -/
structure Grounded (h h' : Host γ) : Prop extends Undisturbed h h' where
  cwd : h'.platform.cwd = h.platform.cwd

instance : Std.Refl (Grounded (γ := γ)) :=
  ⟨fun h => ⟨.refl h, rfl⟩⟩

instance : IsTrans (Host γ) Grounded :=
  ⟨fun _ _ _ a b => ⟨a.toUndisturbed.trans b.toUndisturbed, b.cwd.trans a.cwd⟩⟩

lemma grounded_log (service : String) (level : Level) (message : Text) (extra : Tags) :
    Lasts (Grounded (γ := γ)) (Act.log service level message extra) :=
  .modify fun h => ⟨⟨rfl, rfl, rfl, rfl, rfl, rfl, rfl, rfl, rfl, rfl⟩,
    Platform.cwd_log service level message extra h.platform⟩

lemma grounded_notify (n : Nat) (notice : Notice) :
    Lasts (Grounded (γ := γ)) (Wire.notify Wire.opened n notice) := by
  intro h
  rcases Wire.prompt_opened.hands n notice h with ⟨-, t⟩ | ⟨-, x, l, -, t, -⟩
  · exact ⟨t.undisturbed, t.cwd⟩
  · exact ⟨(undisturbed_noteSent n x h).trans t.undisturbed, t.cwd⟩

lemma grounded_tellEach (notice : Notice) (words : Text) (sessions : List Nat) :
    Lasts (Grounded (γ := γ)) (Listener.tellEach notice words sessions) := by
  induction sessions with
  | nil => exact .pure ()
  | cons n rest ih =>
    have htold := (grounded_notify (γ := γ) n notice).guarded fun fault =>
      .get_all fun h => grounded_log "yaml.listeners" .error words
        [("session", h.describeSession n), ("error", .str fault.message)]
    exact htold.bind fun _ => ih

lemma grounded_recipients (definition : Option Nat) (accessFault : Option String) :
    Lasts (Grounded (γ := γ)) (Listener.recipients definition accessFault) := by
  cases accessFault with
  | none => exact .get_all fun h => .pure _
  | some words => exact .throw _

lemma grounded_forwardPreference (definition : Option Nat) (store : Nat) (key : Text)
    (accessFault : Option String) (change : PreferenceChange) :
    Lasts (Grounded (γ := γ))
      (Listener.forwardPreference definition store key accessFault change) := by
  unfold Listener.forwardPreference
  split
  · have hsettings : Lasts (Grounded (γ := γ)) (Wire.buildSettings store) := fun h => by
      obtain ⟨platform, hcwd, hrun⟩ := Wire.buildSettings_run store h
      rw [hrun]
      exact ⟨⟨rfl, rfl, rfl, rfl, rfl, rfl, rfl, rfl, rfl, rfl⟩, hcwd⟩
    exact hsettings.bind fun settings =>
      (grounded_recipients definition accessFault).bind fun sessions =>
        grounded_tellEach _ _ sessions
  · exact .pure ()

lemma grounded_forwardProjects (definition : Option Nat) (accessFault : Option String)
    (delta : Delta) :
    Lasts (Grounded (γ := γ)) (Listener.forwardProjects definition accessFault delta) := by
  unfold Listener.forwardProjects
  split
  · exact .pure ()
  split
  · split
    · exact (Lasts.ofExcept _).bind fun extra => grounded_log _ _ _ extra
    · exact .throw _
  · exact .throw _
  · split
    · exact .pure ()
    exact (Lasts.ofExcept _).bind fun added => (Lasts.ofExcept _).bind fun removed =>
      (grounded_recipients definition accessFault).bind fun sessions =>
        grounded_tellEach _ _ sessions

/-- The listeners that keep servers informed leave everything else alone at every event. -/
theorem grounded_receive (react : List γ → Act γ Unit) (e : Event) {listener : Listener γ}
    (hinforms : ∀ name reaction, listener ≠ .recorder name reaction) :
    Lasts Grounded (Listener.receive react e listener) := by
  cases listener with
  | recorder name reaction => exact absurd rfl (hinforms name reaction)
  | settings definition store key accessFault =>
    cases e with
    | preference change =>
      exact (grounded_forwardPreference definition store key accessFault change).guarded fun _ =>
        grounded_log _ _ _ _
    | resource type delta => exact .pure ()
  | folders definition accessFault =>
    cases e with
    | preference change => exact .pure ()
    | resource type delta =>
      exact (grounded_forwardProjects definition accessFault delta).guarded fun _ =>
        grounded_log _ _ _ _

theorem undisturbed_receive (react : List γ → Act γ Unit) (e : Event) {listener : Listener γ}
    (hinforms : ∀ name reaction, listener ≠ .recorder name reaction) :
    Lasts Undisturbed (Listener.receive react e listener) :=
  fun h => (grounded_receive react e hinforms h).toUndisturbed

/-! ## A recorder in the audience -/

/-- A part of the host and the listeners stay as they are. -/
structure Spared (part : Host γ → α) (h h' : Host γ) : Prop where
  part : part h' = part h
  listeners : h'.listeners = h.listeners

instance (part : Host γ → α) : Std.Refl (Spared part) :=
  ⟨fun _ => ⟨rfl, rfl⟩⟩

instance (part : Host γ → α) : IsTrans (Host γ) (Spared part) :=
  ⟨fun _ _ _ a b => ⟨b.part.trans a.part, b.listeners.trans a.listeners⟩⟩

/-- A part of the host, the listeners and the records stay as they are. -/
structure Steady (part : Host γ → α) (h h' : Host γ) : Prop where
  part : part h' = part h
  listeners : h'.listeners = h.listeners
  recorded : h'.recorded = h.recorded

/-- The listeners that keep servers informed leave every part alone that talking leaves alone. -/
lemma steady_receive {part : Host γ → α}
    (hpart : ∀ {h h' : Host γ}, Undisturbed h h' → part h' = part h) {react : List γ → Act γ Unit}
    {e : Event} {listener : Listener γ}
    (hinforms : ∀ name reaction, listener ≠ .recorder name reaction) :
    Lasts (Steady part) (Listener.receive react e listener) := by
  intro h
  have hu := undisturbed_receive react e hinforms h
  exact ⟨hpart hu, hu.listeners, hu.recorded⟩

/-- A part of the host that tells neither what is noted in the journal nor what is recorded. -/
def Beside (part : Host γ → α) : Prop :=
  ∀ (h : Host γ) platform recorded, part { h with platform, recorded } = part h

/-- An event is kept so many times under a name, while a part of the host and the listeners stay
as they are. -/
structure Collects (part : Host γ → α) (name : String) (e : Event) (times : Nat) (h h' : Host γ) :
    Prop where
  part : part h' = part h
  listeners : h'.listeners = h.listeners
  recorded : h'.recorded = h.recorded ++ List.replicate times ⟨name, e.toJson⟩

namespace Collects

variable {part : Host γ → α} {name : String} {e : Event} {times times' : Nat}
  {h h' h'' : Host γ}

lemma of_steady (a : Steady part h h') : Collects part name e 0 h h' :=
  ⟨a.part, a.listeners, by rw [a.recorded, List.replicate_zero, List.append_nil]⟩

lemma trans (a : Collects part name e times h h') (b : Collects part name e times' h' h'') :
    Collects part name e (times + times') h h'' :=
  ⟨b.part.trans a.part, b.listeners.trans a.listeners, by
    rw [b.recorded, a.recorded, List.append_assoc, List.replicate_append_replicate]⟩

end Collects

section Delivery

variable {part : Host γ → α} {react : List γ → Act γ Unit} {r : Nat} {name : String} {h : Host γ}

/-- What one of the audience does, with its failure reported. -/
abbrev hear (react : List γ → Act γ Unit) (service topic : String) (e : Event) (h : Host γ)
    (n : Nat) : Host γ :=
  Bus.attempt (Listener.receiveAt react e)
    (fun fault h => { h with platform := Bus.reportFailure service topic fault h.platform }) h n

lemma publish_eq (react : List γ → Act γ Unit) (service topic : String) (e : Event)
    (audience : List Nat) (h : Host γ) : publish react service topic e audience h =
      (.ok (), audience.foldl (hear react service topic e) h) :=
  Bus.deliver_eq _ _ audience h

/-- Who is a listener receives the event; nobody else does anything. -/
lemma hear_eq (react : List γ → Act γ Unit) (service topic : String) (e : Event) (n : Nat)
    (h : Host γ) :
    (∃ listener platform, h.listeners[n]? = some listener ∧ hear react service topic e h n =
      { (Listener.receive react e listener h).2 with platform }) ∨
    h.listeners[n]? = none ∧ hear react service topic e h n = h := by
  rcases hlistener : h.listeners[n]? with _ | listener
  · have hnothing : Listener.receiveAt react e n h = (.ok (), h) := by
      unfold Listener.receiveAt
      rw [get_bind, hlistener]
      rfl
    exact .inr ⟨rfl, by rw [hear, Bus.attempt, hnothing]⟩
  · have hreceive : Listener.receiveAt react e n h = Listener.receive react e listener h := by
      unfold Listener.receiveAt
      rw [get_bind, hlistener]
    have hheard : ∃ platform, hear react service topic e h n =
        { (Listener.receive react e listener h).2 with platform } := by
      rw [hear, Bus.attempt, hreceive]
      rcases Listener.receive react e listener h with ⟨_ | _, h'⟩
      · exact ⟨_, rfl⟩
      · exact ⟨h'.platform, rfl⟩
    obtain ⟨platform, heq⟩ := hheard
    exact .inl ⟨listener, platform, rfl, heq⟩

lemma hear_recorder (service topic : String) (e : Event) {reaction : List γ}
    (hbeside : Beside part) (hlistener : h.listeners[r]? = some (.recorder name reaction))
    (hreaction : Lasts (Steady part) (react reaction)) :
    Collects part name e 1 h (hear react service topic e h r) := by
  obtain ⟨listener, platform, hl, heq⟩ | ⟨hnone, -⟩ := hear_eq react service topic e r h
  case inr => cases hlistener.symm.trans hnone
  cases hlistener.symm.trans hl
  have a := hreaction { h with recorded := h.recorded ++ [⟨name, e.toJson⟩] }
  rw [heq]
  refine ⟨?_, a.listeners, a.recorded⟩
  calc part { (Listener.receive react e (.recorder name reaction) h).2 with platform }
      = part (Listener.receive react e (.recorder name reaction) h).2 := hbeside _ _ _
    _ = part { h with recorded := h.recorded ++ [⟨name, e.toJson⟩] } := a.part
    _ = part h := hbeside h h.platform _

lemma hear_other (service topic name : String) (e : Event) {n : Nat} (hbeside : Beside part)
    (hother : ∀ listener, h.listeners[n]? = some listener →
      Lasts (Steady part) (Listener.receive react e listener)) :
    Collects part name e 0 h (hear react service topic e h n) := by
  obtain ⟨listener, platform, hl, heq⟩ | ⟨-, heq⟩ := hear_eq react service topic e n h
  · have a := hother listener hl h
    rw [heq]
    exact .of_steady ⟨(hbeside _ _ _).trans a.part, a.listeners, a.recorded⟩
  · rw [heq]
    exact .of_steady ⟨rfl, rfl, rfl⟩

section Relation

variable {R : Host γ → Host γ → Prop} [Std.Refl R] [IsTrans (Host γ) R]

lemma hear_leads (service topic : String) (e : Event)
    (hreport : ∀ fault h,
      R h { h with platform := Bus.reportFailure service topic fault h.platform })
    {n : Nat} (hn : ∀ listener, h.listeners[n]? = some listener →
      Lasts R (Listener.receive react e listener)) : R h (hear react service topic e h n) := by
  have hreceive : R h (Listener.receiveAt react e n h).2 := by
    unfold Listener.receiveAt
    rw [get_bind]
    cases hlistener : h.listeners[n]? with
    | none => exact refl_of R h
    | some listener => exact hn listener hlistener h
  rw [hear, Bus.attempt]
  rcases hrun : Listener.receiveAt react e n h with ⟨fault | _, h'⟩
  · rw [hrun] at hreceive
    exact trans_of R hreceive (hreport fault h')
  · rw [hrun] at hreceive
    exact hreceive

/-- What the whole audience and the journal keep to, a publication keeps to, by induction on the
audience. -/
theorem publish_leads (service topic : String) (e : Event)
    (hlisteners : ∀ {h h' : Host γ}, R h h' → h'.listeners = h.listeners)
    (hreport : ∀ fault h,
      R h { h with platform := Bus.reportFailure service topic fault h.platform })
    (audience : List Nat) (haudience : ∀ n ∈ audience, ∀ listener,
      h.listeners[n]? = some listener → Lasts R (Listener.receive react e listener)) :
    R h (publish react service topic e audience h).2 := by
  rw [publish_eq]
  induction audience generalizing h with
  | nil => exact refl_of R h
  | cons n rest ih =>
    obtain ⟨hn, hrest⟩ := List.forall_mem_cons.1 haudience
    have a : R h (hear react service topic e h n) := hear_leads service topic e hreport hn
    have b := ih fun m hm listener hl => hrest m hm listener (hlisteners a ▸ hl)
    exact trans_of R a b

end Relation

/-- What the whole audience leaves alone is left alone by the publication. -/
theorem spared_publish (service topic : String) (e : Event) (hbeside : Beside part)
    (audience : List Nat) (haudience : ∀ n ∈ audience, ∀ listener,
      h.listeners[n]? = some listener → Lasts (Spared part) (Listener.receive react e listener)) :
    Spared part h (publish react service topic e audience h).2 :=
  publish_leads service topic e Spared.listeners (fun _ h => ⟨hbeside h _ h.recorded, rfl⟩) audience
    haudience

/-- A recorder keeps an event as often as it is in the audience. -/
theorem collects_publish (service topic : String) (e : Event) {reaction : List γ}
    (hbeside : Beside part) (hreaction : Lasts (Steady part) (react reaction))
    (audience : List Nat) (hlistener : h.listeners[r]? = some (.recorder name reaction))
    (hothers : ∀ n ∈ audience, n ≠ r → ∀ listener, h.listeners[n]? = some listener →
      Lasts (Steady part) (Listener.receive react e listener)) :
    Collects part name e (audience.count r) h (publish react service topic e audience h).2 := by
  rw [publish_eq]
  induction audience generalizing h with
  | nil => exact .of_steady ⟨rfl, rfl, rfl⟩
  | cons n rest ih =>
    have hrest : ∀ {h'}, h'.listeners = h.listeners → Collects part name e (rest.count r) h'
        (rest.foldl (hear react service topic e) h') := by
      intro h' hsame
      refine ih (hsame ▸ hlistener) fun m hm hne listener hl => ?_
      exact hothers m (List.mem_cons_of_mem n hm) hne listener (hsame ▸ hl)
    by_cases hn : n = r
    · subst hn
      have a := hear_recorder service topic e hbeside hlistener hreaction
      rw [List.count_cons_self, Nat.add_comm]
      exact a.trans (hrest a.listeners)
    · have a := hear_other service topic name e hbeside (hothers n List.mem_cons_self hn)
      rw [List.count_cons_of_ne hn]
      have b := a.trans (hrest a.listeners)
      rwa [Nat.zero_add] at b

end Delivery

end Host

end LanguageHost
