import LanguageHost.Proofs.Closing

/-!
# `initialized` comes first, if the answer is recognised

Nothing about settings and folders should be sent to a server before `initialized`. The session
itself keeps to this order, since it seeds its server only behind `initialized`. But a session is
registered by two ways: when an answer to the first request is recognised as such, which greets the
server, and when a start comes to its end, which any result of the first request allows.

So a session may be registered whose server was never greeted, and the next change is announced to
it all the same. The order holds for all changes exactly if every session that is registered has
read an answer that is recognised, over an open endpoint.
-/

namespace LanguageHost

open Act Host Session

variable {γ : Type} {n d st ws : Nat} {h h' : Host γ}

namespace Session

/-! ## What is read -/

/-- What a session reads while a session is started, as long as its endpoint is open. -/
def readAtStart (mail : Mail) (n m : Nat) : Except Fault Unit → Except Fault Unit →
    List (Nat × Json)
  | .error _, _ => []
  | .ok _, .ok _ => mail .connected ++ mail .asked ++ mail .answered
  | .ok _, .error _ =>
    mail .connected ++ mail .asked ++ mail .leaving ++ if m = n then [] else mail .closed

namespace Step

/-- What a session reads during a step, as long as its endpoint is open. -/
def read (h : Host γ) (m : Nat) : Step → List (Nat × Json)
  | start n timeout mail =>
    readAtStart mail n m (launch n h).1 (Session.start (.posted mail) n timeout h).1
  | stop n mail =>
    mail .leaving ++ (if (h.session n).endpoint.isSome then mail .asked else []) ++
      mail .dismissed ++ if m = n then [] else mail .closed
  | receive n message => [(n, message)]
  | tell _ _ => []

/-- The endpoint of a session is open during a step. -/
def opens (h : Host γ) (m : Nat) : Step → Bool
  | start n _ _ => decide (m = n) || (h.session m).endpoint.isSome
  | _ => (h.session m).endpoint.isSome

/-- During a step a session reads an answer to its first request. -/
def Hears (h : Host γ) (m : Nat) (step : Step) : Prop :=
  (h.session step.session).isWired = true ∧ step.opens h m = true ∧
    answered (step.read h m) m = true

/-- The step tells a server something without a change that would be announced. -/
def IsTold : Step → Prop
  | tell _ _ => True
  | _ => False

end Step

namespace Standing

/-- A registered session can be told things, or its server was greeted. -/
def Kept (s : Standing) : Prop :=
  s.isActive = true → s.isOpen = true ∨ s.isGreeted = true

lemma Kept.hear {s : Standing} (hs : s.Kept) (answer : Bool) : (s.hear answer).Kept := by
  rcases s with ⟨_ | _, _ | _, _ | _⟩ <;> cases answer <;> simp_all [Kept, Standing.hear]

lemma kept_of_open {s : Standing} (hopen : s.isOpen = true) : s.Kept :=
  fun _ => Or.inl hopen

/-- Whoever is registered by an answer is greeted for it. -/
lemma kept_shut_hear (s : Standing) (answer : Bool) : ((s.unregistered.hear answer).shut).Kept := by
  rcases s with ⟨_ | _, _ | _, _ | _⟩ <;> cases answer <;>
    simp [Kept, Standing.hear, unregistered, shut]

end Standing

/-- What a step does to the standing of a session: it stays kept, and it is greeted if it reads an
answer. -/
structure Greets (f : Standing → Standing) (isOpen : Standing → Bool) (answer : Bool) : Prop where
  kept : ∀ s : Standing, s.Kept → (f s).Kept
  greeted : ∀ s : Standing, (f s).isGreeted = (s.isGreeted || (isOpen s && answer))

end Session

namespace Host

/-- A session that is started, or any other one meanwhile. -/
lemma greets_start {mail : Mail} {result : Except Fault Unit}
    (hstarts : Starts mail n h result h') :
    ∃ f, Moves f h h' ∧ ∀ m, Greets (f m) (fun s => decide (m = n) || s.isOpen)
      (answered (readAtStart mail n m (launch n h).1 result) m) := by
  cases hstarts with
  | unlaunched hlaunch a =>
    refine ⟨_, a, fun m => ⟨fun s hs => hs, fun s => ?_⟩⟩
    simp [hlaunch, readAtStart]
  | started hlaunch a =>
    refine ⟨_, a, fun m => ?_⟩
    by_cases hmn : m = n
    · refine ⟨fun s _ => Standing.kept_of_open ?_, fun s => ?_⟩
      · simp [alone, hmn, hears, Standing.hear, Standing.registered, Standing.opened]
      · simp [alone, hmn, hears, Standing.hear, Standing.registered, Standing.opened, hlaunch,
          readAtStart]
    · refine ⟨fun s hs => ?_, fun s => ?_⟩
      · simp only [alone, if_neg hmn]
        exact hs.hear _
      · simp [alone, hmn, hears, Standing.hear, hlaunch, readAtStart]
  | abandoned hlaunch a =>
    refine ⟨_, a, fun m => ?_⟩
    by_cases hmn : m = n
    · subst hmn
      refine ⟨fun s _ => ?_, fun s => ?_⟩
      · simp only [alone, if_pos, hears, Standing.hear_shut]
        exact Standing.kept_shut_hear _ _
      · simp [alone, hears, Standing.hear, Standing.shut, Standing.unregistered, Standing.opened,
          hlaunch, readAtStart, Bool.or_assoc]
    · refine ⟨fun s hs => ?_, fun s => ?_⟩
      · simp only [alone, if_neg hmn]
        exact ((hs.hear _).hear _).hear _
      · simp only [alone, if_neg hmn, hears, Standing.hear_hear, ← answered_append, hlaunch]
        simp [Standing.hear, hmn, readAtStart]

lemma greets_close (mail : Mail) (hdistinct : h.active.Nodup)
    (hwired : (h.session n).isWired = true) :
    ∃ f, Moves f h (Session.close (.posted mail) n h).2 ∧ ∀ m, Greets (f m) Standing.isOpen
      (answered ((Step.stop n mail).read h m) m) := by
  refine ⟨_, moves_close mail hdistinct hwired, fun m => ?_⟩
  by_cases hmn : m = n
  · subst hmn
    refine ⟨fun s _ => ?_, fun s => ?_⟩
    · simp only [alone, if_pos, hears, Standing.hear_shut]
      exact Standing.kept_shut_hear _ _
    · simp [alone, hears, Standing.hear, Standing.shut, Standing.unregistered, Step.read]
  · refine ⟨fun s hs => ?_, fun s => ?_⟩
    · simp only [alone, if_neg hmn]
      exact (hs.hear _).hear _
    · simp only [alone, if_neg hmn, hears, Standing.hear_hear, ← answered_append, Step.read]
      simp [Standing.hear]

/-- **One step.** Sessions stay kept, and those are greeted that read an answer. -/
theorem greets_step (hdistinct : h.active.Nodup) {step : Step} (hquiet : ¬ step.IsTold) :
    ∃ f, Moves f h (step.perform h).2 ∧ ∀ m, (h.session m).isWired = true →
      ((h.standing m).Kept → (f m (h.standing m)).Kept) ∧
      ((f m (h.standing m)).isGreeted = true ↔ h.greeted m = true ∨ step.Hears h m) := by
  cases hwired : (h.session step.session).isWired with
  | false =>
    rw [Step.perform_standIn hwired]
    refine ⟨_, refl_of Still h, fun m _ => ⟨id, Iff.symm (or_iff_left fun hhears => ?_)⟩⟩
    exact Bool.eq_false_iff.1 hwired hhears.1
  | true =>
    rw [Step.perform_wired hwired]
    -- what is known of the flags of each session is what has to be shown
    have hread : ∀ (f : Nat → Standing → Standing) (isOpen : Nat → Standing → Bool),
        (∀ m, Greets (f m) (isOpen m) (answered (step.read h m) m)) →
        (∀ m, isOpen m (h.standing m) = step.opens h m) →
        ∀ m, (h.session m).isWired = true →
          ((h.standing m).Kept → (f m (h.standing m)).Kept) ∧
          ((f m (h.standing m)).isGreeted = true ↔ h.greeted m = true ∨ step.Hears h m) := by
      intro f isOpen hgreets hopens m _
      refine ⟨(hgreets m).kept _, ?_⟩
      rw [(hgreets m).greeted, hopens, Bool.or_eq_true, Bool.and_eq_true, Step.Hears,
        and_iff_right hwired]
      rfl
    cases step with
    | start n timeout mail =>
      obtain ⟨f, a, hgreets⟩ := greets_start (starts_start mail timeout hdistinct hwired)
      exact ⟨f, a, hread f _ hgreets fun m => rfl⟩
    | stop n mail =>
      obtain ⟨f, a, hgreets⟩ := greets_close mail hdistinct hwired
      rw [← Step.stop_wired (.posted mail) hwired] at a
      exact ⟨f, a, hread f _ hgreets fun m => rfl⟩
    | receive n message =>
      refine ⟨_, moves_consume n message h, hread _ (fun _ => Standing.isOpen) (fun m => ?_)
        fun m => rfl⟩
      exact ⟨fun s hs => hs.hear _, fun s => rfl⟩
    | tell n notice => exact absurd trivial hquiet

/-! ## Runs of steps -/

/-- What a run of steps leaves behind: nothing is disturbed, sessions keep where they come from,
what they said is in the right order, and those were greeted that read an answer. -/
structure Passed (steps : List Step) (h h' : Host γ) : Prop where
  undisturbed : Undisturbed h h'
  origins : ∀ m, SameOrigin (h.session m) (h'.session m)
  distinct : h'.active.Nodup
  said : ∀ m, (h.session m).isWired = true → ∃ l, h'.said m = h.said m ++ l ∧ Opened false l
  kept : ∀ m, (h.session m).isWired = true → (h.standing m).Kept → (h'.standing m).Kept
  greeted : ∀ m, (h.session m).isWired = true → (h'.greeted m = false ↔
    h.greeted m = false ∧ ∀ past step, past ++ [step] <+: steps → ¬ step.Hears (after past h) m)

/-- **A run of steps.** -/
theorem passed_after (hdistinct : h.active.Nodup) {steps : List Step}
    (hquiet : ∀ step ∈ steps, ¬ step.IsTold) : Passed steps h (after steps h) := by
  induction steps generalizing h with
  | nil =>
    exact ⟨.refl h, fun m => .refl _, hdistinct, fun m _ => ⟨[], by simp [after], trivial⟩,
      fun m _ hk => hk, fun m _ => by simp [after]⟩
  | cons first rest ih =>
    obtain ⟨f, a, hfirst⟩ := greets_step hdistinct (hquiet first List.mem_cons_self)
    have b := ih (a.distinct hdistinct) fun step hstep => hquiet step (List.mem_cons_of_mem _ hstep)
    have hnext : ∀ m, (h.session m).isWired = true →
        ((first.perform h).2.session m).isWired = true := fun m hm =>
      (a.origins m).isWired.trans hm
    refine ⟨a.undisturbed.trans b.undisturbed, fun m => (a.origins m).trans (b.origins m),
      b.distinct, fun m hm => ?_, fun m hm hk => ?_, fun m hm => ?_⟩
    · obtain ⟨l, hl, hopened⟩ := a.said m hm
      obtain ⟨l', hl', hopened'⟩ := b.said m (hnext m hm)
      exact ⟨l ++ l', by rw [← List.append_assoc, ← hl]; exact hl', hopened.append hopened'⟩
    · refine b.kept m (hnext m hm) ?_
      rw [a.standing hdistinct m hm]
      exact (hfirst m hm).1 hk
    · have hgreeted : (first.perform h).2.greeted m = false ↔
          h.greeted m = false ∧ ¬ first.Hears h m := by
        have hflag : (first.perform h).2.greeted m = (f m (h.standing m)).isGreeted :=
          congrArg Standing.isGreeted (a.standing hdistinct m hm)
        rw [← Bool.not_eq_true, hflag, (hfirst m hm).2, not_or, Bool.not_eq_true]
      rw [forall_steps_cons (P := fun h step => ¬ step.Hears h m), ← and_assoc, ← hgreeted]
      exact b.greeted m (hnext m hm)

/-! ## Changes -/

/-- The servers of all wired sessions were told things in the right order. -/
def Ordered (h : Host γ) : Prop :=
  ∀ m, (h.session m).isWired = true → Opened false (h.said m)

/-- The registered sessions of a definition that talk over a wire have greeted their servers. -/
def Greeted (d : Nat) (h : Host γ) : Prop :=
  ∀ m ∈ h.active, (h.session m).isWired = true → (h.session m).definition = some d →
    h.greeted m = true

lemma not_ordered {m : Nat} (hwired : (h.session m).isWired = true)
    (hbroken : ¬ Opened false (h.said m)) : ¬ Ordered h :=
  fun hordered => hbroken (hordered m hwired)

lemma opened_append_of_greeted {m : Nat} {l : List Sent} (hgreeted : h.greeted m = true)
    (hl : Opened false (h.said m)) : Opened false (h.said m ++ l) := by
  refine (opened_append false _ _).2 ⟨hl, ?_⟩
  have htold : (false || (h.said m).any Sent.starts) = true := hgreeted
  rw [htold]
  exact opened_true l

/-- A change is told to registered sessions only, and so keeps the order if these are greeted. -/
lemma Ordered.of_performed {change : Change} (hperformed : Change.Performed d st ws change h h')
    (hordered : Ordered h) (hgreeted : Greeted d h) : Ordered h' ∧ Greeted d h' := by
  have hedited := Change.edited st ws change h
  rcases hnews : change.news st ws h with _ | notice
  · obtain ⟨platform, rfl⟩ := hperformed.silent hnews
    have hsaid : ∀ m, Host.said m { change.edit st ws h with platform } = h.said m := hedited.said
    have hsession : ∀ m, Host.session m { change.edit st ws h with platform } = h.session m :=
      hedited.session
    refine ⟨fun m hm => ?_, fun m hm hwired hdefinition => ?_⟩
    · rw [hsaid]
      exact hordered m (hsession m ▸ hm)
    · rw [greeted, hsaid]
      exact hgreeted m (hedited.active ▸ hm) (hsession m ▸ hwired) (hsession m ▸ hdefinition)
  · obtain ⟨platform, htold⟩ := hperformed.told notice hnews
    have hends : ∀ m, SameEnd (h.session m) (h'.session m) := fun m =>
      hedited.session m ▸ htold.ends m
    have hsaid : ∀ m, ∃ l, h'.said m = h.said m ++ l ∧ (m ∉ h.matching (some d) → l = []) := by
      intro m
      obtain ⟨l, hl, hears⟩ := htold.said m
      have hsaid := hl.trans (congrArg (· ++ l) (hedited.said m))
      exact ⟨l, hsaid, fun hout => hears.quiet (Or.inl hout)⟩
    refine ⟨fun m hm => ?_, fun m hm hwired hdefinition => ?_⟩
    · have hwired : (h.session m).isWired = true := (hends m).isWired.symm.trans hm
      obtain ⟨l, hl, hout⟩ := hsaid m
      rw [hl]
      by_cases hin : m ∈ h.matching (some d)
      · obtain ⟨hactive, hdefinition⟩ := mem_matching.1 hin
        exact opened_append_of_greeted (hgreeted m hactive hwired hdefinition) (hordered m hwired)
      · rw [hout hin, List.append_nil]
        exact hordered m hwired
    · obtain ⟨l, hl, -⟩ := hsaid m
      have hbefore := hgreeted m (hedited.active ▸ htold.active ▸ hm)
        ((hends m).isWired.symm.trans hwired) ((hends m).definition.symm.trans hdefinition)
      rw [greeted] at hbefore
      rw [greeted, hl, List.any_append, hbefore, Bool.true_or]

/-- Where all registered sessions are greeted, no change breaks the order. -/
theorem Ordered.of_changes (react : List γ → Act γ Unit) (hlinked : Linked d st ws h)
    (hordered : Ordered h) (hgreeted : Greeted d h) (changes : List Change) :
    Ordered (run react d st ws (changes.map .change) h) := by
  induction changes generalizing h with
  | nil => exact hordered
  | cons change rest ih =>
    have hperformed := Change.performed react hlinked.toSubscribed change
    obtain ⟨hordered', hgreeted'⟩ := hordered.of_performed hperformed hgreeted
    exact ih (hlinked.of_performed hperformed) hordered' hgreeted'

/-- Where a registered session can be told things but was never greeted, a change of the settings
breaks the order. -/
lemma not_ordered_after_set (react : List γ → Act γ Unit) (hlinked : Linked d st ws h) {m : Nat}
    (hactive : m ∈ h.active) (hwired : (h.session m).isWired = true)
    (hdefinition : (h.session m).definition = some d)
    (hopen : (h.session m).endpoint.isSome = true) (hungreeted : h.greeted m = false)
    {value : Text} (hvalue : (h.store st).get schemaKey ≠ value) :
    ¬ Ordered (run react d st ws [.change (.set schemaKey value)] h) := by
  have hperformed := Change.performed react hlinked.toSubscribed (.set schemaKey value)
  have hedited := Change.edited st ws (.set schemaKey value) h
  have hnews : (Change.set schemaKey value).news st ws h = some (.configuration
      (Settings.build ((h.store st).write schemaKey value)).1) := by
    simp [Change.news, Change.settingsNews, PreferenceStore.changeOf, hvalue]
  obtain ⟨platform, htold⟩ := hperformed.told _ hnews
  obtain ⟨l, hl, hears⟩ := htold.said m
  have htakes : (((Change.set schemaKey value).edit st ws h).session m).takes "config" = true := by
    rw [hedited.session, takes_of_isWired hwired]
    exact hopen
  obtain ⟨x, rest, rfl, hx, -⟩ := hears.told (mem_matching.2 ⟨hactive, hdefinition⟩) htakes
  have hinforms : x.informs = true := by
    simp [Sent.informs, Sent.settings?, hx, Notice.settings?]
  set h' := run react d st ws [.change (.set schemaKey value)] h
  have hwired' : (h'.session m).isWired = true :=
    (htold.ends m).isWired.trans (hedited.session m ▸ hwired)
  have hstream : h'.said m = h.said m ++ x :: rest :=
    hl.trans (congrArg (· ++ x :: rest) (hedited.said m))
  refine not_ordered hwired' fun hopened => ?_
  rw [hstream, opened_append] at hopened
  have htold' : (false || (h.said m).any Sent.starts) = true := hopened.2.1 hinforms
  rw [Bool.false_or] at htold'
  rw [greeted, htold'] at hungreeted
  cases hungreeted

/-! ## The order -/

/-- **`initialized` comes first if the answer is recognised.** An adapter is started in a host in
which nothing was sent and no session is registered, and then sessions are started, stopped and
written to by their servers. Whatever is changed then, all servers are told `initialized` before
settings and folders, exactly if each session of the definition that is registered by then has read
an answer to its first request over an open endpoint. -/
theorem ordered_iff_answered (react : List γ → Act γ Unit) {k : Nat}
    (hprep : Prepared k d st ws h) (hnone : h.active = []) (hunsent : h.sent = [])
    (hseeds : ∀ n, (h.session n).definition = some d → (h.session n).hook = .seed st ws)
    {steps : List Step} (hquiet : ∀ step ∈ steps, ¬ step.IsTold) :
    let ready := (startAdapter k h).2
    let reached := after steps ready
    (∀ changes : List Change, Ordered (run react d st ws (changes.map .change) reached)) ↔
      ∀ n ∈ reached.active, (reached.session n).isWired = true →
        (reached.session n).definition = some d →
        ∃ past step, past ++ [step] <+: steps ∧ step.Hears (after past ready) n := by
  intro ready reached
  obtain ⟨hsessions, hactive, hsent, -⟩ := hprep.left
  have hready : ∀ n, ready.session n = h.session n := fun n => by
    rw [session, session, hsessions]
  have hsaid : ∀ n, ready.said n = [] := fun n => by
    rw [said, hsent, hunsent]
    rfl
  have hungreeted : ∀ n, ready.greeted n = false := fun n => by
    rw [greeted, hsaid]
    rfl
  have a : Passed steps ready reached :=
    passed_after (by rw [hactive, hnone]; exact List.nodup_nil) hquiet
  have hlinked : Linked d st ws reached := by
    refine hprep.linked.transport a.undisturbed (fun n hdefinition _ => ?_) a.distinct
    rw [(a.origins n).hook, hready]
    exact hseeds n ((hready n) ▸ (a.origins n).definition.symm.trans hdefinition)
  have hordered : Ordered reached := by
    intro n hn
    obtain ⟨l, hl, hopened⟩ := a.said n ((a.origins n).isWired.symm.trans hn)
    rw [hl, hsaid]
    exact hopened
  -- whoever reads an answer is greeted, and nobody else is
  have hgreeted : ∀ n, (reached.session n).isWired = true → (reached.greeted n = true ↔
      ∃ past step, past ++ [step] <+: steps ∧ step.Hears (after past ready) n) := by
    intro n hn
    have hflag := a.greeted n ((a.origins n).isWired.symm.trans hn)
    rw [and_iff_right (hungreeted n)] at hflag
    rw [← Bool.not_eq_false, hflag]
    simp only [not_forall, not_not, exists_prop]
  constructor
  · intro hall n hn hwired hdefinition
    rw [← hgreeted n hwired]
    by_contra hnot
    have hnot' : reached.greeted n = false := Bool.eq_false_iff.2 hnot
    have hkept : (reached.standing n).Kept := by
      refine a.kept n ((a.origins n).isWired.symm.trans hwired) fun hisActive => ?_
      have hin : n ∈ ready.active := of_decide_eq_true hisActive
      rw [hactive, hnone] at hin
      cases hin
    have hopen : (reached.session n).endpoint.isSome = true :=
      (hkept (decide_eq_true hn)).resolve_right fun hg => hnot hg
    have hvalue : (reached.store st).get schemaKey ≠ 0 :: (reached.store st).get schemaKey :=
      fun hsame => by simpa using congrArg List.length hsame
    exact not_ordered_after_set react hlinked hn hwired hdefinition hopen hnot' hvalue
      (hall [.set schemaKey _])
  · intro hheard changes
    refine hordered.of_changes react hlinked (fun n hn hwired hdefinition => ?_) changes
    exact (hgreeted n hwired).2 (hheard n hn hwired hdefinition)

/-- A server that answers the first request as expected is told everything in the right order. -/
theorem ordered_after_answer :
    let react : List Empty → Act Empty Unit := fun _ => pure ()
    let reached := after [.receive 0 StartResult.plain.1] (startAdapter 0 small).2
    Prepared 0 0 0 0 small ∧ reached.active = [0] ∧
      ∀ changes : List Change, Ordered (run react 0 0 0 (changes.map .change) reached) := by
  intro react reached
  have hactive : reached.active = [0] := by decide +kernel
  refine ⟨prepared_small, hactive, (ordered_iff_answered react prepared_small rfl rfl hooks_small
    (by simp [Step.IsTold])).2 fun n hn _ _ => ⟨[], _, List.prefix_refl _, ?_⟩⟩
  change n ∈ reached.active at hn
  rw [hactive, List.mem_singleton] at hn
  subst hn
  exact ⟨by decide +kernel, by decide +kernel, by decide +kernel⟩

/-- A machine with one program, which a session can launch as its server. -/
def launchable : Host Empty :=
  { small with
    platform := { (default : Platform) with
      files := ⟨.folder 0 [("cat", .file 0)], [(0, ⟨Executable.programMark, 0o755, 0⟩)], 1, 0, [],
        ⟨.root, []⟩⟩ }
    sessions := [{ Session.attached with provider := .make ["/cat"] none, endpoint := none }] }

/-- A server answers the first request without capabilities. The start succeeds, the session is
registered, and the next change is announced to a server that was never told `initialized`. -/
theorem settings_before_initialized :
    let react : List Empty → Act Empty Unit := fun _ => pure ()
    let answer := Message.response "1" (Json.object [])
    let mail : Mail := fun moment => if moment = .asked then [(0, answer)] else []
    let start := Step.start 0 startTimeout mail
    let reached := after [start] (startAdapter 0 launchable).2
    let changed := run react 0 0 0 [.change (.set schemaKey "x")] reached
    (start.perform (startAdapter 0 launchable).2).1.isOk = true ∧ reached.active = [0] ∧
      reached.greeted 0 = false ∧ ¬ Ordered changed := by
  intro react answer mail start reached changed
  have hwired : (changed.session 0).isWired = true := by decide +kernel
  have hbroken : ¬ Opened false (changed.said 0) := by decide +kernel
  exact ⟨by decide +kernel, by decide +kernel, by decide +kernel, not_ordered hwired hbroken⟩

end Host

end LanguageHost
