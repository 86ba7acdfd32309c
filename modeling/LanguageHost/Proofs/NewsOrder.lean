import LanguageHost.Proofs.Reentry

/-!
# In which order servers hear of projects

A server hears of a step when the folders listener of its definition is called. The listeners ahead
of that one are called before, and what they change in reaction is announced in the middle of the
announcement of the step: the server hears of it first. What listeners behind it change comes later.

`Host.Passes` says which steps were made from one host to another and what a session was sent of
them, and `Host.Course` adds in which order. A reaction takes its course if the reactions nested in
it do (`Host.Charted`): first one listener, then all of them, one call, a plan, and so any depth.
-/

namespace LanguageHost

open Act Host Workspace

variable {γ : Type} {d ws n f : Nat} {h h' h'' : Host γ} {step : Step}

/-! ## One call -/

namespace Workspace

lemma Step.workspace_note (step : Step) (h : Host γ) (m : Nat) :
    (step.note h).workspace m = h.workspace m := by
  unfold Step.note
  split <;> rfl

lemma Step.bus_made (ws : Nat) (step : Step) (h : Host γ) :
    ((step.made ws h).workspace ws).bus = (h.workspace ws).bus := by
  rw [Step.made, Step.workspace_note, workspace_setWorkspace]
  split <;> rfl

lemma Step.projects_made (hws : ws < h.workspaces.length) (step : Step) :
    ((step.made ws h).workspace ws).projects = step.apply (h.workspace ws).projects := by
  rw [Step.made, Step.workspace_note, workspace_setWorkspace, if_pos ⟨rfl, hws⟩]

/-- A step that was made is announced to the subscribers one after another. -/
lemma Step.announce_made (react : List γ → Act γ Unit) (ws : Nat) (step : Step) (h : Host γ) :
    (announce react ws step.delta 0 (step.made ws h)).2 =
      ((h.workspace ws).bus.subscribers (resourceTopic postChange)).foldl (tell react step)
        (step.made ws h) := by
  unfold announce
  rw [get_bind, step.bus_made]
  exact congrArg Prod.snd (Bus.deliver_eq _ _ _ _)

namespace Edit

/-- A call that is refused changes nothing. -/
lemma perform_refused (react : List γ → Act γ Unit) {edit : Edit}
    (hrefused : edit.step? ws h = none) : (edit.perform react ws h).2 = h := by
  cases edit with
  | create name location hidden isOpen =>
    rcases hfind : (h.workspace ws).find? name with _ | p
    · simp only [step?, hfind, reduceCtorEq] at hrefused
    · have hcreate : (h.workspace ws).create name (Change.project location hidden isOpen h) =
          .error (.projectExists name) := by
        rw [Workspace.create, hfind]
      rw [perform]
      unfold createProject
      rw [get_bind]
      change ((Act.ofProblem ((h.workspace ws).create name
        (Change.project location hidden isOpen h)) >>= _) h).2 = h
      rw [hcreate]
      rfl
  | delete name =>
    have hfind : (h.workspace ws).find? name = none := Option.map_eq_none_iff.1 hrefused
    have hdelete : (h.workspace ws).delete name = .error (.projectUnknown name) := by
      rw [Workspace.delete, Workspace.require, hfind]
    rw [perform]
    unfold deleteProject
    rw [get_bind, hdelete]
    rfl

/-- A call that is not refused makes its step and announces it. -/
lemma perform_run (react : List γ → Act γ Unit) {edit : Edit}
    (hstep : edit.step? ws h = some step) :
    (edit.perform react ws h).2 = ((h.workspace ws).bus.subscribers
      (resourceTopic postChange)).foldl (tell react step) (step.made ws h) := by
  rw [← step.announce_made react ws h]
  cases edit with
  | create name location hidden isOpen =>
    set p := Change.project location hidden isOpen h with hp
    rcases hfind : (h.workspace ws).find? name with _ | old
    · obtain rfl : ⟨true, name, p⟩ = step := by
        simpa only [step?, hfind, Option.some.injEq] using hstep
      have hcreate : (h.workspace ws).create name p = .ok (.leaf (p.resource name) addedKind 0,
          { h.workspace ws with projects := (h.workspace ws).projects ++ [(name, p)] }) := by
        rw [Workspace.create, hfind]
      rw [perform]
      unfold createProject
      rw [get_bind]
      change ((Act.ofProblem ((h.workspace ws).create name p) >>= _) h).2 = _
      rw [hcreate]
      exact bind_pure_snd _ _ _
    · simp only [step?, hfind, reduceCtorEq] at hstep
  | delete name =>
    obtain ⟨p, hfind, rfl⟩ := Option.map_eq_some_iff.1 hstep
    have hdelete : (h.workspace ws).delete name = .ok (.leaf (p.resource name) removedKind 0,
        { h.workspace ws with projects := dropMember name (h.workspace ws).projects }) := by
      rw [Workspace.delete, Workspace.require, hfind]
    rw [perform]
    unfold deleteProject
    rw [get_bind, hdelete]
    exact bind_pure_snd _ _ _

end Edit

end Workspace

/-! ## What a session sees meanwhile -/

lemma stepsMade_append (l l' : List Happening) :
    stepsMade (l ++ l') = stepsMade l ++ stepsMade l' :=
  List.filterMap_append

lemma stepsHeard_append (l l' : List Happening) :
    stepsHeard (l ++ l') = stepsHeard l ++ stepsHeard l' :=
  List.filterMap_append

namespace Host

/-- The folders listener of a definition is subscribed to the changes of a workspace behind some
listeners and ahead of others, and none of these listens for the same definition. -/
structure Hub (d ws f : Nat) (ahead behind : List Nat) (h : Host γ) : Prop where
  workspace : ws < h.workspaces.length
  listener : h.listeners[f]? = some (.folders (some d) none)
  subscribers : (h.workspace ws).bus.subscribers (resourceTopic postChange) =
    ahead ++ f :: behind
  others : ∀ m ∈ ahead ++ behind, h.listeners[m]? ≠ some (.folders (some d) none)
  distinct : h.active.Nodup

/-- From one host to another the steps in a list were made, and a session was sent what was heard of
them, as long as it is not greeted anew. -/
structure Passes (ws n : Nat) (l : List Happening) (h h' : Host γ) : Prop where
  listeners : h'.listeners = h.listeners
  workspaces : h'.workspaces.length = h.workspaces.length
  bus : (h'.workspace ws).bus = (h.workspace ws).bus
  projects : (h'.workspace ws).projects =
    (stepsMade l).foldl Step.apply (h.workspace ws).projects
  active : h'.active = h.active
  same : Session.SameEnd (h.session n) (h'.session n)
  said : ∃ sent, h'.said n = h.said n ++ sent ∧ (sent.any Sent.starts = false →
    sent.filterMap Sent.folders? = (stepsHeard l).map Step.params)

namespace Passes

variable {l l' : List Happening}

lemma refl (ws n : Nat) (h : Host γ) : Passes ws n [] h h :=
  ⟨rfl, rfl, rfl, rfl, rfl, .refl _, [], (List.append_nil _).symm, fun _ => rfl⟩

lemma trans (a : Passes ws n l h h') (b : Passes ws n l' h' h'') :
    Passes ws n (l ++ l') h h'' where
  listeners := b.listeners.trans a.listeners
  workspaces := b.workspaces.trans a.workspaces
  bus := b.bus.trans a.bus
  projects := by rw [b.projects, a.projects, stepsMade_append, List.foldl_append]
  active := b.active.trans a.active
  same := a.same.trans b.same
  said := by
    obtain ⟨sent, hsent, hfolders⟩ := a.said
    obtain ⟨sent', hsent', hfolders'⟩ := b.said
    refine ⟨sent ++ sent', by rw [hsent', hsent, List.append_assoc], fun hnone => ?_⟩
    rw [List.any_append, Bool.or_eq_false_iff] at hnone
    rw [List.filterMap_append, hfolders hnone.1, hfolders' hnone.2, stepsHeard_append,
      List.map_append]

/-- The journal does not matter. -/
lemma quiet {platform : Platform} (a : Passes ws n l h h') :
    Passes ws n l h { h' with platform } :=
  ⟨a.listeners, a.workspaces, a.bus, a.projects, a.active, a.same, a.said⟩

lemma hub {ahead behind : List Nat} (a : Passes ws n l h h') (hhub : Hub d ws f ahead behind h) :
    Hub d ws f ahead behind h' where
  workspace := a.workspaces ▸ hhub.workspace
  listener := a.listeners ▸ hhub.listener
  subscribers := a.bus ▸ hhub.subscribers
  others := a.listeners ▸ hhub.others
  distinct := a.active ▸ hhub.distinct

lemma attends (a : Passes ws n l h h') (ha : Attends d n h) : Attends d n h' :=
  ha.of_sameEnd (a.active ▸ ha.active) a.same

end Passes

lemma Attends.mem_matching (ha : Attends d n h) : n ∈ h.matching (some d) :=
  Host.mem_matching.2 ⟨ha.active, ha.definition⟩

/-- A step is made. -/
lemma passes_made (hws : ws < h.workspaces.length) (step : Step) :
    Passes ws n [.made step] h (step.made ws h) := by
  have hsame : ∃ platform, step.made ws h = { h.setWorkspace ws
      { h.workspace ws with projects := step.apply (h.workspace ws).projects } with platform } := by
    rw [Step.made]
    unfold Step.note
    split
    · exact ⟨_, rfl⟩
    · exact ⟨_, rfl⟩
  have hbus := step.bus_made ws h
  have hprojects := Step.projects_made hws step
  obtain ⟨platform, hmade⟩ := hsame
  rw [hmade] at hbus hprojects ⊢
  refine ⟨rfl, ?_, hbus, hprojects, rfl, .refl _, [], (List.append_nil _).symm, fun _ => rfl⟩
  exact List.length_set

/-- Servers of other definitions are told something. -/
lemma Announced.passes {notice : Notice} {recipients : List Nat}
    (a : Announced notice recipients h h') (hn : n ∉ recipients) : Passes ws n [] h h' := by
  obtain ⟨sent, hsent, hears⟩ := a.said n
  have hnone : sent = [] := hears.quiet (Or.inl hn)
  refine ⟨a.undisturbed.listeners, congrArg List.length a.undisturbed.workspaces, ?_, ?_, a.active,
    a.ends n, sent, hsent, fun _ => by rw [hnone]; rfl⟩
  · rw [a.undisturbed.workspace]
  · rw [a.undisturbed.workspace]
    rfl

/-- The servers of the definition are told of a step. -/
lemma Announced.passes_heard (a : Announced (.folders step.params) (h.matching (some d)) h h')
    (ha : Attends d n h) : Passes ws n [.heard step] h h' := by
  obtain ⟨sent, hsent, hears⟩ := a.said n
  obtain ⟨x, rest, rfl, hx, hopened, -⟩ := hears.told ha.mem_matching ha.takes
  refine ⟨a.undisturbed.listeners, congrArg List.length a.undisturbed.workspaces, ?_, ?_, a.active,
    a.ends n, x :: rest, hsent, fun hnone => ?_⟩
  · rw [a.undisturbed.workspace]
  · rw [a.undisturbed.workspace]
    rfl
  · rw [List.any_cons, Bool.or_eq_false_iff] at hnone
    have hfirst : x.folders? = some step.params := by
      rw [Sent.folders?, hx]
      rfl
    have hrest : rest.filterMap Sent.folders? = [] :=
      List.filterMap_eq_nil_iff.2 (hopened.silent hnone.2)
    rw [List.filterMap_cons_some hfirst, hrest]
    rfl

/-! ## One listener -/

lemma Hub.of_recorded {ahead behind : List Nat} (hhub : Hub d ws f ahead behind h)
    (recorded : List Recorded) : Hub d ws f ahead behind { h with recorded } :=
  ⟨hhub.workspace, hhub.listener, hhub.subscribers, hhub.others, hhub.distinct⟩

lemma Attends.of_recorded (ha : Attends d n h) (recorded : List Recorded) :
    Attends d n { h with recorded } :=
  ⟨ha.active, ha.definition, ha.takes⟩

lemma tell_missing (react : List γ → Act γ Unit) (step : Step) {m : Nat}
    (hnone : h.listeners[m]? = none) : tell react step h m = h := by
  have hrun : Listener.receiveAt react step.event m h = (.ok (), h) := by
    unfold Listener.receiveAt
    rw [get_bind, hnone]
    rfl
  rw [tell, Bus.attempt, hrun]

/-- A listener is handed the event, and a fault of it is noted. -/
lemma tell_run (react : List γ → Act γ Unit) (step : Step) {m : Nat} {listener : Listener γ}
    (hlistener : h.listeners[m]? = some listener) : ∃ platform, tell react step h m =
      { (Listener.receive react step.event listener h).2 with platform } := by
  have hrun : Listener.receiveAt react step.event m h =
      Listener.receive react step.event listener h := by
    unfold Listener.receiveAt
    rw [get_bind, hlistener]
  rw [tell, Bus.attempt, hrun]
  rcases Listener.receive react step.event listener h with ⟨_ | _, h'⟩
  · exact ⟨_, rfl⟩
  · exact ⟨_, rfl⟩

/-- A folders listener looks for the servers that it tells of a step. -/
lemma forwardProjects_step (definition : Option Nat) (accessFault : Option String) (step : Step)
    (h : Host γ) : Listener.forwardProjects definition accessFault (Delta.ofRoot 0 step.delta) h =
      (Listener.recipients definition accessFault >>=
        Listener.tellEach (.folders step.params) "Failed to send workspace folders") h := by
  obtain ⟨arrives, name, p⟩ := step
  have haddress := Folders.addresses_project name p
  cases arrives with
  | true =>
    exact forwardProjects_run definition accessFault (Change.note_added (p.resource name) rfl) rfl
      haddress rfl h
  | false =>
    exact forwardProjects_run definition accessFault (Change.note_removed (p.resource name) rfl) rfl
      rfl haddress h

/-- It tells the servers of its definition. -/
lemma receive_step (react : List γ → Act γ Unit) (definition : Option Nat) (step : Step)
    (hdistinct : h.active.Nodup) :
    Announced (.folders step.params) (h.matching definition) h
      (Listener.receive react step.event (.folders definition none) h).2 := by
  refine Announced.guarded ?_
  rw [forwardProjects_step]
  exact announced_matching definition _ _ hdistinct

/-- If it cannot ask for the sessions, it tells nobody. -/
lemma receive_step_failing (react : List γ → Act γ Unit) (definition : Option Nat) (words : String)
    (step : Step) : ∃ platform,
      (Listener.receive react step.event (.folders definition (some words)) h).2 =
        { h with platform } :=
  ⟨_, congrArg Prod.snd (tryCatch_error (forwardProjects_step definition (some words) step h))⟩

end Host

/-! ## The order of happenings -/

/-- Each step is heard of once, and whatever was made since it was made was heard of before. -/
inductive Nested : List Happening → Prop where
  | nil : Nested []
  | step (step : Step) {ahead rest : List Happening} (hahead : Nested ahead) (hrest : Nested rest) :
    Nested (.made step :: (ahead ++ .heard step :: rest))

/-- Each step is heard of at once. -/
inductive Prompt : List Happening → Prop where
  | nil : Prompt []
  | step (step : Step) {rest : List Happening} (hrest : Prompt rest) :
    Prompt (.made step :: .heard step :: rest)

lemma Nested.append {l l' : List Happening} (hl : Nested l) (hl' : Nested l') :
    Nested (l ++ l') := by
  induction hl with
  | nil => exact hl'
  | @step made ahead rest hahead hrest _ ih =>
    rw [List.cons_append, List.append_assoc, List.cons_append]
    exact .step made hahead ih

lemma Prompt.append {l l' : List Happening} (hl : Prompt l) (hl' : Prompt l') :
    Prompt (l ++ l') := by
  induction hl with
  | nil => exact hl'
  | step made hrest ih => exact .step made ih

/-- What is heard of at once is heard of in the order in which it was made. -/
lemma Prompt.inOrder {l : List Happening} (hl : Prompt l) : stepsHeard l = stepsMade l := by
  induction hl with
  | nil => rfl
  | step made hrest ih => exact congrArg (made :: ·) ih

lemma stepsMade_step (step : Step) (ahead rest : List Happening) :
    stepsMade (.made step :: (ahead ++ .heard step :: rest)) =
      step :: (stepsMade ahead ++ stepsMade rest) := by
  have hfirst : stepsMade (.made step :: (ahead ++ .heard step :: rest)) =
      step :: stepsMade (ahead ++ .heard step :: rest) := rfl
  rw [hfirst, stepsMade_append]
  rfl

lemma stepsHeard_step (step : Step) (ahead rest : List Happening) :
    stepsHeard (.made step :: (ahead ++ .heard step :: rest)) =
      stepsHeard ahead ++ step :: stepsHeard rest := by
  have hfirst : stepsHeard (.made step :: (ahead ++ .heard step :: rest)) =
      stepsHeard (ahead ++ .heard step :: rest) := rfl
  rw [hfirst, stepsHeard_append]
  rfl

/-- Nothing is lost, and nothing is heard of twice. -/
lemma Nested.perm {l : List Happening} (hl : Nested l) : (stepsHeard l).Perm (stepsMade l) := by
  induction hl with
  | nil => exact .nil
  | @step made ahead rest _ _ ihahead ihrest =>
    rw [stepsMade_step, stepsHeard_step]
    exact List.perm_middle.trans ((ihahead.append ihrest).cons made)

/-- If no step is made twice, then what is heard of in order is heard of at once. -/
lemma Nested.prompt_of_inOrder {l : List Happening} (hl : Nested l)
    (hdistinct : (stepsMade l).Nodup) (hsame : stepsHeard l = stepsMade l) : Prompt l := by
  induction hl with
  | nil => exact .nil
  | @step made ahead rest hahead _ _ ihrest =>
    rw [stepsMade_step] at hdistinct hsame
    rw [stepsHeard_step] at hsame
    obtain ⟨hfresh, hdistinct⟩ := List.nodup_cons.1 hdistinct
    -- what is heard of first would be the step itself, but that was not made again
    have hnone : ahead = [] := by
      cases hahead with
      | nil => rfl
      | @step inner ahead' rest' hahead' hrest' =>
        exfalso
        have hperm := (Nested.step inner hahead' hrest').perm
        set first := stepsHeard (.made inner :: (ahead' ++ .heard inner :: rest')) with hfirst
        have hmem : made ∈ first := by
          cases hfirst' : first with
          | nil =>
            rw [hfirst, stepsHeard_step] at hfirst'
            simp at hfirst'
          | cons x xs =>
            rw [hfirst', List.cons_append, List.cons.injEq] at hsame
            rw [hsame.1]
            exact List.mem_cons_self
        exact hfresh (List.mem_append_left _ (hperm.subset hmem))
    subst hnone
    refine .step made (ihrest ?_ ?_)
    · exact (List.nodup_append.1 hdistinct).2.1
    · exact (List.cons.inj hsame).2

/-- A listener that never changes the projects. -/
def Bystander (policy : Policy γ) (listeners : List (Listener γ)) (m : Nat) : Prop :=
  ∀ name reaction, listeners[m]? = some (.recorder name reaction) →
    ∀ h, ∃ fault, policy reaction h = .done fault

namespace Host

/-- What happened from one host to another, and in which order. -/
structure Course (policy : Policy γ) (ahead : List Nat) (ws n : Nat) (l : List Happening)
    (h h' : Host γ) : Prop extends Passes ws n l h h' where
  nested : Nested l
  prompt : (∀ m ∈ ahead, Bystander policy h.listeners m) → Prompt l

variable {policy : Policy γ} {ahead behind : List Nat} {l l' : List Happening}

lemma Passes.silent (a : Passes ws n [] h h') : Course policy ahead ws n [] h h' :=
  ⟨a, .nil, fun _ => .nil⟩

lemma Course.trans (a : Course policy ahead ws n l h h') (b : Course policy ahead ws n l' h' h'') :
    Course policy ahead ws n (l ++ l') h h'' :=
  ⟨a.toPasses.trans b.toPasses, a.nested.append b.nested,
    fun hquiet => (a.prompt hquiet).append (b.prompt (a.listeners.symm ▸ hquiet))⟩

/-- Reactions that are nested so deep take their course. -/
def Charted (policy : Policy γ) (d ws n f : Nat) (ahead behind : List Nat) (depth : Nat) : Prop :=
  ∀ reaction (h : Host γ), Hub d ws f ahead behind h → Attends d n h →
    Course policy ahead ws n (policy.reacting d ws depth reaction h) h
      (policy.react ws depth reaction h).2

variable {depth : Nat}

/-- A listener that does not listen for the definition is told of a step. -/
lemma Charted.told (hcharted : Charted policy d ws n f ahead behind depth)
    (hhub : Hub d ws f ahead behind h) (ha : Attends d n h) (step : Step) {m : Nat}
    (hm : m ∈ ahead ++ behind) :
    Course policy ahead ws n (listening d (policy.reacting d ws depth) step h m) h
      (tell (policy.react ws depth) step h m) := by
  cases hlistener : h.listeners[m]? with
  | none =>
    rw [tell_missing _ step hlistener, listening, hlistener]
    exact (Passes.refl ws n h).silent
  | some listener =>
    obtain ⟨platform, htold⟩ := tell_run (policy.react ws depth) step hlistener
    rw [htold, listening, hlistener]
    cases listener with
    | recorder name reaction =>
      set recorded := h.recorded ++ [⟨name, step.event.toJson⟩]
      have hkept : Passes ws n [] h { h with recorded } :=
        ⟨rfl, rfl, rfl, rfl, rfl, .refl _, [], (List.append_nil _).symm, fun _ => rfl⟩
      have hreacted := hcharted reaction _ (hhub.of_recorded recorded) (ha.of_recorded recorded)
      have hboth := hkept.silent.trans hreacted
      exact ⟨hboth.toPasses.quiet, hboth.nested, hboth.prompt⟩
    | settings definition store key accessFault => exact (Passes.refl ws n h).quiet.silent
    | folders definition accessFault =>
      cases accessFault with
      | some words =>
        obtain ⟨platform', hrun⟩ := receive_step_failing (h := h) (policy.react ws depth)
          definition words step
        rw [hrun]
        exact (Passes.refl ws n h).quiet.silent
      | none =>
        have hother : definition ≠ some d := by
          rintro rfl
          exact hhub.others m hm hlistener
        have hann := receive_step (policy.react ws depth) definition step hhub.distinct
        have hn : n ∉ h.matching definition := fun hmem =>
          hother ((Host.mem_matching.1 hmem).2.symm.trans ha.definition)
        dsimp only
        rw [if_neg hother]
        exact (hann.passes hn).quiet.silent

lemma listeningEach_append (react : List γ → Act γ Unit)
    (reacting : List γ → Host γ → List Happening) (step : Step) (ms ms' : List Nat) (h : Host γ) :
    listeningEach d react reacting step (ms ++ ms') h = listeningEach d react reacting step ms h ++
      listeningEach d react reacting step ms' (ms.foldl (tell react step) h) := by
  induction ms generalizing h with
  | nil => rfl
  | cons m rest ih =>
    rw [List.cons_append, listeningEach, listeningEach, ih, List.append_assoc, List.foldl_cons]

/-- Listeners that do not listen for the definition are told of a step one after another. -/
lemma Charted.toldEach (hcharted : Charted policy d ws n f ahead behind depth)
    (hhub : Hub d ws f ahead behind h) (ha : Attends d n h) (step : Step) {ms : List Nat}
    (hms : ∀ m ∈ ms, m ∈ ahead ++ behind) :
    Course policy ahead ws n
      (listeningEach d (policy.react ws depth) (policy.reacting d ws depth) step ms h) h
      (ms.foldl (tell (policy.react ws depth) step) h) := by
  induction ms generalizing h with
  | nil => exact (Passes.refl ws n h).silent
  | cons m rest ih =>
    have hfirst := hcharted.told hhub ha step (hms m List.mem_cons_self)
    exact hfirst.trans (ih (hfirst.hub hhub) (hfirst.attends ha)
      fun m' hm' => hms m' (List.mem_cons_of_mem m hm'))

/-- Nothing happens while a bystander that does not listen for the definition is told of a step. -/
lemma listening_bystander {m : Nat} (hother : h.listeners[m]? ≠ some (.folders (some d) none))
    (hquiet : Bystander policy h.listeners m) (ws depth : Nat) (step : Step) :
    listening d (policy.reacting d ws depth) step h m = [] := by
  rw [listening]
  cases hlistener : h.listeners[m]? with
  | none => rfl
  | some listener =>
    cases listener with
    | recorder name reaction =>
      dsimp only
      cases depth with
      | zero => rfl
      | succ depth =>
        obtain ⟨fault, hdone⟩ := hquiet name reaction hlistener
          { h with recorded := h.recorded ++ [⟨name, step.event.toJson⟩] }
        rw [Policy.reacting, hdone]
        rfl
    | settings definition store key accessFault => rfl
    | folders definition accessFault =>
      cases accessFault with
      | some words => rfl
      | none =>
        refine if_neg ?_
        rintro rfl
        exact hother hlistener

/-- Nothing happens while bystanders are told of a step one after another. -/
lemma Charted.quiet_toldEach (hcharted : Charted policy d ws n f ahead behind depth)
    (hhub : Hub d ws f ahead behind h) (ha : Attends d n h) (step : Step) {ms : List Nat}
    (hms : ∀ m ∈ ms, m ∈ ahead ++ behind) (hquiet : ∀ m ∈ ms, Bystander policy h.listeners m) :
    listeningEach d (policy.react ws depth) (policy.reacting d ws depth) step ms h = [] := by
  induction ms generalizing h with
  | nil => rfl
  | cons m rest ih =>
    have hm := hms m List.mem_cons_self
    have hfirst := hcharted.told hhub ha step hm
    have hnone := listening_bystander (hhub.others m hm) (hquiet m List.mem_cons_self) ws depth step
    rw [listeningEach, hnone, List.nil_append]
    exact ih (hfirst.hub hhub) (hfirst.attends ha)
      (fun m' hm' => hms m' (List.mem_cons_of_mem m hm'))
      (hfirst.listeners.symm ▸ fun m' hm' => hquiet m' (List.mem_cons_of_mem m hm'))

/-- The folders listener is told of a step, and so is the server. -/
lemma Hub.passes_heard (hhub : Hub d ws f ahead behind h) (ha : Attends d n h)
    (react : List γ → Act γ Unit) (step : Step) :
    Passes ws n [.heard step] h (tell react step h f) := by
  obtain ⟨platform, htold⟩ := tell_run react step hhub.listener
  have hann := receive_step react (some d) step hhub.distinct
  rw [htold]
  exact (hann.passes_heard ha).quiet

lemma Hub.listening_heard (hhub : Hub d ws f ahead behind h)
    (reacting : List γ → Host γ → List Happening) (step : Step) :
    listening d reacting step h f = [.heard step] := by
  rw [listening, hhub.listener]
  exact if_pos rfl

/-- **One call.** Its step is made and told to the listeners ahead, then to the folders listener,
and to those behind at last. -/
theorem Charted.called (hcharted : Charted policy d ws n f ahead behind depth)
    (hhub : Hub d ws f ahead behind h) (ha : Attends d n h) (edit : Edit) :
    Course policy ahead ws n
      (edit.happenings d (policy.react ws depth) (policy.reacting d ws depth) ws h) h
      (edit.perform (policy.react ws depth) ws h).2 := by
  rw [Edit.happenings]
  cases hstep : edit.step? ws h with
  | none =>
    rw [Edit.perform_refused _ hstep]
    exact (Passes.refl ws n h).silent
  | some step =>
    have hmade : Passes ws n [.made step] h (step.made ws h) := passes_made hhub.workspace step
    set h₁ := step.made ws h
    have hhub₁ := hmade.hub hhub
    have ha₁ := hmade.attends ha
    have hbefore : ∀ m ∈ ahead, m ∈ ahead ++ behind := fun m hm => List.mem_append_left behind hm
    have hafter : ∀ m ∈ behind, m ∈ ahead ++ behind := fun m hm => List.mem_append_right ahead hm
    have hahead := hcharted.toldEach hhub₁ ha₁ step hbefore
    set h₂ := ahead.foldl (tell (policy.react ws depth) step) h₁
    have hhub₂ := hahead.hub hhub₁
    have ha₂ := hahead.attends ha₁
    have hheard : Passes ws n [.heard step] h₂ (tell (policy.react ws depth) step h₂ f) :=
      hhub₂.passes_heard ha₂ (policy.react ws depth) step
    set h₃ := tell (policy.react ws depth) step h₂ f
    have hbehind := hcharted.toldEach (hheard.hub hhub₂) (hheard.attends ha₂) step hafter
    set before := listeningEach d (policy.react ws depth) (policy.reacting d ws depth) step ahead h₁
    set after := listeningEach d (policy.react ws depth) (policy.reacting d ws depth) step behind h₃
    have hrun : (edit.perform (policy.react ws depth) ws h).2 =
        behind.foldl (tell (policy.react ws depth) step) h₃ := by
      rw [Edit.perform_run _ hstep, hhub.subscribers, List.foldl_append, List.foldl_cons]
    have hlist : listeningEach d (policy.react ws depth) (policy.reacting d ws depth) step
        ((h.workspace ws).bus.subscribers (resourceTopic postChange)) h₁ =
        before ++ .heard step :: after := by
      rw [hhub.subscribers, listeningEach_append, listeningEach, hhub₂.listening_heard]
      rfl
    dsimp only
    rw [hrun, hlist]
    refine ⟨?_, .step step hahead.nested hbehind.nested, fun hquiet => ?_⟩
    · exact hmade.trans (hahead.toPasses.trans (hheard.trans hbehind.toPasses))
    · have hnone : before = [] :=
        hcharted.quiet_toldEach hhub₁ ha₁ step hbefore (hmade.listeners.symm ▸ hquiet)
      have hsame : h₃.listeners = h.listeners :=
        hheard.listeners.trans (hahead.listeners.trans hmade.listeners)
      rw [hnone]
      exact .step step (hbehind.prompt (hsame.symm ▸ hquiet))

/-- **A plan.** Its calls are made one after another. -/
theorem Charted.carried (hcharted : Charted policy d ws n f ahead behind depth)
    (hhub : Hub d ws f ahead behind h) (ha : Attends d n h) (plan : Plan γ) :
    Course policy ahead ws n
      (plan.happenings (Edit.perform (policy.react ws depth) ws)
        (Edit.happenings d (policy.react ws depth) (policy.reacting d ws depth) ws) h) h
      (plan.run (Edit.perform (policy.react ws depth) ws) h).2 := by
  induction plan generalizing h with
  | done fault =>
    cases fault with
    | none => exact (Passes.refl ws n h).silent
    | some fault => exact (Passes.refl ws n h).silent
  | call edit next ih =>
    have hfirst := hcharted.called hhub ha edit
    exact hfirst.trans (ih _ _ (hfirst.hub hhub) (hfirst.attends ha))

/-- Reactions take their course, however deep they are nested. -/
theorem charted (policy : Policy γ) (d ws n f : Nat) (ahead behind : List Nat) (depth : Nat) :
    Charted policy d ws n f ahead behind depth := by
  induction depth with
  | zero => exact fun reaction h _ _ => (Passes.refl ws n h).silent
  | succ depth ih => exact fun reaction h hhub ha => ih.carried hhub ha (policy reaction h)

/-! ## What is known in the end -/

/-- The last that is heard of a project tells whether it is there. -/
def UpToDate (w : Workspace) (heard : List Step) : Prop :=
  ∀ name step, (heard.filter fun s => s.name = name).getLast? = some step →
    (step.arrives = true ↔ (w.find? name).isSome = true)

lemma isSome_apply (name : String) (projects : List (String × Project)) (step : Step) :
    (findMember? name (step.apply projects)).isSome =
      if step.name = name then step.arrives else (findMember? name projects).isSome := by
  obtain ⟨arrives, other, p⟩ := step
  cases arrives with
  | true =>
    rw [Step.apply, if_pos rfl, findMember?_append, findMember?_cons, Option.isSome_or]
    by_cases hname : other = name
    · simp [hname]
    · simp [hname]
  | false =>
    rw [Step.apply, if_neg Bool.false_ne_true, findMember?_dropMember]
    by_cases hname : other = name
    · simp [hname]
    · simp [hname]

/-- The last step that was made of a project tells whether it is there. -/
lemma upToDate_of_made {w : Workspace} {steps : List Step} {projects : List (String × Project)}
    (hmade : w.projects = steps.foldl Step.apply projects) : UpToDate w steps := by
  intro name
  rw [Workspace.find?, hmade]
  clear hmade
  induction steps using List.reverseRecOn with
  | nil =>
    intro step hlast
    cases hlast
  | append_singleton steps latest ih =>
    intro step hlast
    rw [List.foldl_append, List.foldl_cons, List.foldl_nil, isSome_apply]
    rw [List.filter_append] at hlast
    by_cases hname : latest.name = name
    · have hlatest : latest = step := by simpa [hname] using hlast
      rw [if_pos hname, hlatest]
    · rw [if_neg hname]
      have hsame : (steps.filter fun s => s.name = name).getLast? = some step := by
        simpa [hname] using hlast
      exact ih step hsame

/-- **In which order servers hear of projects.** Projects are added and removed by a plan and by the
listeners that are told of it, nested as deep as they like. The server of a session that attends is
told of every step once, and of each only after it was told of the steps that the listeners ahead of
the folders listener made in reaction to it. If these listeners never change the projects, it is
told of each step at once, so that it hears of the steps in the order in which they were made and
knows in the end which projects are there. If no step is made twice, nothing but this keeps the
order. -/
theorem news_order (policy : Policy γ) (depth : Nat) (plan : Plan γ)
    (hhub : Hub d ws f ahead behind h) (ha : Attends d n h) :
    let react := policy.react ws depth
    let reached := (plan.run (Edit.perform react ws) h).2
    let l := plan.happenings (Edit.perform react ws)
      (Edit.happenings d react (policy.reacting d ws depth) ws) h
    reached.greetings n = h.greetings n →
      Nested l ∧
      (reached.workspace ws).projects =
        (stepsMade l).foldl Step.apply (h.workspace ws).projects ∧
      (reached.said n).filterMap Sent.folders? =
        (h.said n).filterMap Sent.folders? ++ (stepsHeard l).map Step.params ∧
      ((∀ m ∈ ahead, Bystander policy h.listeners m) → Prompt l) ∧
      (Prompt l → stepsHeard l = stepsMade l ∧ UpToDate (reached.workspace ws) (stepsHeard l)) ∧
      ((stepsMade l).Nodup → stepsHeard l = stepsMade l → Prompt l) := by
  intro react reached l hsame
  have hcourse : Course policy ahead ws n l h reached :=
    (charted policy d ws n f ahead behind depth).carried hhub ha plan
  obtain ⟨sent, hsent, hfolders⟩ := hcourse.said
  have hnone : sent.any Sent.starts = false := unstarted_of_greetings hsent hsame
  refine ⟨hcourse.nested, hcourse.projects, ?_, hcourse.prompt, fun hprompt => ?_,
    hcourse.nested.prompt_of_inOrder⟩
  · rw [hsent, List.filterMap_append, hfolders hnone]
  · have horder := hprompt.inOrder
    refine ⟨horder, ?_⟩
    rw [horder]
    exact upToDate_of_made hcourse.projects

/-! ## A recorder behind the folders listener, and one ahead of it -/

/-- The host with one more recorder that is told of changes of the projects. -/
def watched (h : Host Empty) : Host Empty :=
  (subscribeResources 0 postChange h.listeners.length (h.addListener (.recorder "w" [])).2).2

/-- The recorder was subscribed behind the folders listener. -/
def watchedBehind : Host Empty :=
  (watched (startAdapter 0 small).2).register 0

/-- The recorder was subscribed ahead of the folders listener. -/
def watchedAhead : Host Empty :=
  (startAdapter 0 (watched small)).2.register 0

/-- Creates a project. -/
def creating (name : String) : Plan Empty :=
  .call (.create name ⟨.root, [name]⟩ false true) fun _ _ => .done none

/-- Creates a second project once there is one. -/
def following : Policy Empty := fun _ h =>
  if ((h.workspace 0).find? "q").isSome then .done none else creating "q"

/-- Removes a project as soon as it is there. -/
def withdrawing : Policy Empty := fun _ h =>
  if ((h.workspace 0).find? "p").isSome then .call (.delete "p") fun _ _ => .done none
  else .done none

lemma hub_watchedBehind : Hub 0 0 1 [] [2] watchedBehind := by
  refine ⟨by decide, rfl, rfl, fun m hm => ?_, by decide⟩
  obtain rfl := List.mem_singleton.1 hm
  intro hsame
  cases hsame

lemma hub_watchedAhead : Hub 0 0 2 [0] [] watchedAhead := by
  refine ⟨by decide, rfl, rfl, fun m hm => ?_, by decide⟩
  obtain rfl := List.mem_singleton.1 hm
  intro hsame
  cases hsame

lemma attends_watchedBehind : Attends 0 0 watchedBehind :=
  ⟨by decide, rfl, rfl⟩

lemma attends_watchedAhead : Attends 0 0 watchedAhead :=
  ⟨by decide, rfl, rfl⟩

/-- The host after a first project was created. -/
def reached (policy : Policy Empty) (h : Host Empty) : Host Empty :=
  ((creating "p").run (Edit.perform (policy.react 0 2) 0) h).2

/-- What happened while a first project was created. -/
def happened (policy : Policy Empty) (h : Host Empty) : List Happening :=
  (creating "p").happenings (Edit.perform (policy.react 0 2) 0)
    (Edit.happenings 0 (policy.react 0 2) (policy.reacting 0 0 2) 0) h

/-- Behind the folders listener a second project is created in reaction to the first. The server
hears of both in order. -/
theorem news_in_order_behind :
    (reached following watchedBehind).greetings 0 = watchedBehind.greetings 0 ∧
      (stepsMade (happened following watchedBehind)).map Step.name = ["p", "q"] ∧
      stepsHeard (happened following watchedBehind) =
        stepsMade (happened following watchedBehind) ∧
      UpToDate ((reached following watchedBehind).workspace 0)
        (stepsHeard (happened following watchedBehind)) := by
  have hsame : (reached following watchedBehind).greetings 0 = watchedBehind.greetings 0 := by
    decide +kernel
  have hnews := news_order following 2 (creating "p") hub_watchedBehind attends_watchedBehind hsame
  have hprompt : Prompt (happened following watchedBehind) :=
    hnews.2.2.2.1 fun m hm => absurd hm List.not_mem_nil
  obtain ⟨horder, hknown⟩ := hnews.2.2.2.2.1 hprompt
  exact ⟨hsame, by decide +kernel, horder, hknown⟩

/-- Ahead of the folders listener a project is removed as soon as it was created. The server hears
that it was removed, and then that it was added: the last that it hears is wrong. -/
theorem news_inverted_ahead :
    (stepsMade (happened withdrawing watchedAhead)).map (fun s => (s.name, s.arrives)) =
        [("p", true), ("p", false)] ∧
      (stepsHeard (happened withdrawing watchedAhead)).map (fun s => (s.name, s.arrives)) =
        [("p", false), ("p", true)] ∧
      ((reached withdrawing watchedAhead).said 0).filterMap Sent.folders? =
        (stepsHeard (happened withdrawing watchedAhead)).map Step.params ∧
      ((reached withdrawing watchedAhead).workspace 0).find? "p" = none := by
  have hcourse : Course withdrawing [0] 0 0 (happened withdrawing watchedAhead) watchedAhead
      (reached withdrawing watchedAhead) :=
    (charted withdrawing 0 0 0 2 [0] [] 2).carried hub_watchedAhead attends_watchedAhead
      (creating "p")
  have hsame : (reached withdrawing watchedAhead).greetings 0 = watchedAhead.greetings 0 := by
    decide +kernel
  have hsilent : watchedAhead.said 0 = [] := rfl
  obtain ⟨sent, hsent, hfolders⟩ := hcourse.said
  have hnone : sent.any Sent.starts = false := unstarted_of_greetings hsent hsame
  refine ⟨by decide +kernel, by decide +kernel, ?_, by decide +kernel⟩
  rw [hsent, hsilent, List.nil_append, hfolders hnone]

end Host

end LanguageHost
