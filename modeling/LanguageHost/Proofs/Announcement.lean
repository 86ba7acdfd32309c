import LanguageHost.Host.Changes
import LanguageHost.Proofs.Wire

/-!
# Announcements

When the sessions of a definition are told a notice, each of them that can be told hears it exactly
once, in front of whatever its own server answers; nobody else hears anything, and no session comes
or goes. `Host.Announced` says this of two hosts. It is shown by induction on the list of sessions,
each of which makes one talk.
-/

namespace LanguageHost

open Act Host

variable {γ : Type}

namespace Host

/-- What a session says when the sessions of a list are told a notice. -/
structure Hears (notice : Notice) (recipients : List Nat) (h : Host γ) (n : Nat)
    (l : List Sent) : Prop where
  quiet : n ∉ recipients ∨ (h.session n).takes notice.word = false → l = []
  told : n ∈ recipients → (h.session n).takes notice.word = true →
    ∃ x rest, l = x :: rest ∧ x.notice? = some notice ∧ Opened false rest ∧
      ((h.session n).isWired = false → rest = [])
  truthful : h.Truthful n (.message notice.message) → ∀ x ∈ l, h.Truthful n x

/-- From one host to another nothing happened but that the sessions of a list were told a
notice. -/
structure Announced (notice : Notice) (recipients : List Nat) (h h' : Host γ) : Prop where
  undisturbed : Undisturbed h h'
  cwd : h'.platform.cwd = h.platform.cwd
  ends : ∀ n, Session.SameEnd (h.session n) (h'.session n)
  active : h'.active = h.active
  said : ∀ n, ∃ l, h'.said n = h.said n ++ l ∧ Hears notice recipients h n l

/-- A single session that is told a notice hears it alone. -/
lemma Tells.hears {joins : Bool} {n : Nat} {notice : Notice} {h h' : Host γ}
    (a : Tells joins n notice h h') : ∃ l, Talk joins n h h' l ∧ Hears notice [n] h n l := by
  rcases a with ⟨hrefused, t⟩ | ⟨htakes, x, l, t, hx, hl, hwired⟩
  · refine ⟨[], t, fun _ => rfl, fun _ htakes => ?_, fun _ => t.truthful⟩
    rw [hrefused] at htakes
    cases htakes
  · refine ⟨x :: l, t, ?_, fun _ _ => ⟨x, l, rfl, hx, hl.opened, hwired⟩, fun _ => t.truthful⟩
    rintro (hout | hrefused)
    · exact absurd List.mem_cons_self hout
    · rw [hrefused] at htakes
      cases htakes

lemma Truthful.transport {h h' : Host γ} {n : Nat} {x : Sent} (hu : Undisturbed h h')
    (hs : Session.SameEnd (h.session n) (h'.session n)) : h'.Truthful n x ↔ h.Truthful n x := by
  simp only [Truthful, hs.endpoint, hs.hook, hu.store]

lemma hears_nil {notice : Notice} {recipients : List Nat} {h : Host γ} {n : Nat}
    (hn : n ∉ recipients) : Hears notice recipients h n [] :=
  ⟨fun _ => rfl, fun hmem => absurd hmem hn, by simp⟩

lemma announced_nil (notice : Notice) (h : Host γ) : Announced notice [] h h :=
  ⟨.refl h, rfl, fun _ => .refl _, rfl, fun n => ⟨[], by simp, hears_nil List.not_mem_nil⟩⟩

/-- A registered session that is handed a notice is the only one that hears it. -/
lemma Hands.announced {n : Nat} {notice : Notice} {h h' : Host γ} (hactive : n ∈ h.active)
    (a : Hands true n notice h h') : Announced notice [n] h h' := by
  have hother : ∀ {m : Nat}, m ≠ n → h'.said m = h.said m →
      ∃ l, h'.said m = h.said m ++ l ∧ Hears notice [n] h m l := fun hm hsaid =>
    ⟨[], by rw [hsaid, List.append_nil], hears_nil fun hmem => hm (List.mem_singleton.1 hmem)⟩
  rcases a with ⟨hrefused, t⟩ | ⟨htakes, x, l, hx, t, hl, hwired⟩
  · refine ⟨t.undisturbed, t.cwd, t.sameEnd, t.active_eq hactive, fun m => ?_⟩
    by_cases hm : m = n
    · subst hm
      refine ⟨[], t.said, fun _ => rfl, fun _ htakes => ?_, by simp⟩
      rw [hrefused] at htakes
      cases htakes
    · exact hother hm (t.said_other hm)
  · have hsaid : h'.said n = h.said n ++ x :: l := by
      rw [t.said, said_append (h := h) (l := [x]) rfl, List.append_assoc]
      rfl
    refine ⟨(undisturbed_noteSent n x h).trans t.undisturbed, t.cwd, t.sameEnd,
      t.active_eq hactive, fun m => ?_⟩
    by_cases hm : m = n
    · subst hm
      refine ⟨x :: l, hsaid, ?_, fun _ _ => ⟨x, l, rfl, hx, hl.opened, hwired⟩,
        fun htrue => List.forall_mem_cons.2 ⟨?_, t.truthful⟩⟩
      · rintro (hout | hrefused)
        · exact absurd List.mem_cons_self hout
        · rw [hrefused] at htakes
          cases htakes
      · exact htrue.congr (hx.trans (Sent.notice?_message notice).symm)
    · refine hother hm ?_
      rw [t.said_other hm, said_append_other (l := [x]) (Ne.symm hm) rfl]

/-- One session is told after the other. -/
lemma announced_cons {notice : Notice} {n : Nat} {rest : List Nat} {h h' h'' : Host γ}
    (hn : n ∉ rest) (a : Announced notice [n] h h') (b : Announced notice rest h' h'') :
    Announced notice (n :: rest) h h'' := by
  refine ⟨a.undisturbed.trans b.undisturbed, b.cwd.trans a.cwd,
    fun m => (a.ends m).trans (b.ends m), b.active.trans a.active, fun m => ?_⟩
  obtain ⟨l, hl, heard⟩ := a.said m
  obtain ⟨k, hk, hears⟩ := b.said m
  by_cases hm : m = n
  · -- its turn is over before the others are told
    subst hm
    have hnone : k = [] := hears.quiet (Or.inl hn)
    refine ⟨l, by rw [hk, hl, hnone, List.append_nil], ?_, ?_, heard.truthful⟩
    · rintro (hout | hrefused)
      · exact absurd List.mem_cons_self hout
      · exact heard.quiet (Or.inr hrefused)
    · exact fun _ htakes => heard.told List.mem_cons_self htakes
  · have hnone : l = [] := heard.quiet (Or.inl fun hmem => hm (List.mem_singleton.1 hmem))
    have htruthful := fun x => Truthful.transport (x := x) a.undisturbed (a.ends m)
    refine ⟨k, by rw [hk, hl, hnone, List.append_nil], ?_, ?_, fun htrue x hx => ?_⟩
    · rintro (hout | hrefused)
      · exact hears.quiet (Or.inl fun hmem => hout (List.mem_cons_of_mem n hmem))
      · exact hears.quiet (Or.inr (((a.ends m).takes _).trans hrefused))
    · intro hmem htakes
      have hmem' : m ∈ rest := (List.mem_cons.1 hmem).resolve_left hm
      obtain ⟨x, k', hk', hx, hopened, hwired⟩ :=
        hears.told hmem' (((a.ends m).takes _).trans htakes)
      exact ⟨x, k', hk', hx, hopened, fun hw => hwired ((a.ends m).isWired.trans hw)⟩
    · exact (htruthful x).1 (hears.truthful ((htruthful _).2 htrue) x hx)

end Host

namespace Listener

/-- Registered sessions are told a notice one after another. -/
theorem announced_tellEach (notice : Notice) (words : Text) (sessions : List Nat) (h : Host γ)
    (hdistinct : sessions.Nodup) (hactive : ∀ n ∈ sessions, n ∈ h.active) :
    Announced notice sessions h (tellEach notice words sessions h).2 := by
  induction sessions generalizing h with
  | nil => exact announced_nil notice h
  | cons n rest ih =>
    obtain ⟨hn, hrest⟩ := List.nodup_cons.1 hdistinct
    have hhands := Wire.prompt_opened.hands n notice h
    set told : Act γ Unit := Act.guarded (Wire.notify Wire.opened n notice) fun fault => do
      let name := (← get).describeSession n
      Act.log "yaml.listeners" .error words [("session", name), ("error", .str fault.message)]
    have hquiet : Talk true n (Wire.notify Wire.opened n notice h).2 (told h).2 [] :=
      Wire.quiet_guarded h fun fault h' => talk_log true n h' _ _ _ _
    have hstep := (hhands.quiet hquiet).announced (hactive n List.mem_cons_self)
    have hok : (told h).1 = .ok () := guarded_fst h fun fault h' => rfl
    have hrun : tellEach notice words (n :: rest) h = tellEach notice words rest (told h).2 :=
      bind_of_fst hok
    rw [hrun]
    refine announced_cons hn hstep (ih _ hrest fun m hm => ?_)
    rw [hstep.active]
    exact hactive m (List.mem_cons_of_mem n hm)

end Listener

end LanguageHost
