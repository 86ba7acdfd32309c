import LanguageHost.Proofs.Teardown

/-!
# Stopping every session

All registered sessions are stopped one after another, and then nobody is registered any more. What
stopping a session does is arbitrary here, so the sessions that are gone through are those from
before the first stop. The first stop that fails ends the whole: no session behind it is stopped,
and whoever is registered by then stays so. Everything is reached if each stop goes well, or if only
the last one fails and leaves nobody registered.
-/

namespace LanguageHost

open Act Host

variable {γ : Type}

namespace Host

/-- Stops sessions as `Session.stopEach` does, each in its own way. -/
def stopEachBy (stop : Nat → Act γ Unit) : List Nat → Act γ Unit
  | [] => pure ()
  | n :: rest => do
    stop n
    stopEachBy stop rest

/-- Stops every registered session in its own way. -/
def shutdownAllBy (stop : Nat → Act γ Unit) : Act γ Unit := do
  stopEachBy stop (← get).active
  modify fun h => { h with active := [] }

/-- The sessions that are stopped: all up to the first one that fails, which is the last of them. -/
def calledBy (stop : Nat → Act γ Unit) : List Nat → Host γ → List Nat
  | [], _ => []
  | n :: rest, h =>
    match (stop n h).1 with
    | .ok _ => n :: calledBy stop rest (stop n h).2
    | .error _ => [n]

/-- The host after some sessions were stopped. -/
def afterStops (stop : Nat → Act γ Unit) (sessions : List Nat) (h : Host γ) : Host γ :=
  sessions.foldl (fun h n => (stop n h).2) h

/-- Each of the sessions can be stopped when its turn comes. -/
def AllStop (stop : Nat → Act γ Unit) : List Nat → Host γ → Prop
  | [], _ => True
  | n :: rest, h => (stop n h).1 = .ok () ∧ AllStop stop rest (stop n h).2

variable {stop : Nat → Act γ Unit} {n : Nat} {sessions : List Nat} {h : Host γ}

lemma stopEach_eq (sessions : List Nat) :
    (Session.stopEach sessions : Act γ Unit) = stopEachBy (Session.stop .direct) sessions := by
  induction sessions with
  | nil => rfl
  | cons n rest ih => rw [Session.stopEach, stopEachBy, ih]

lemma shutdownAll_eq :
    (Session.shutdownAll : Act γ Unit) = shutdownAllBy (Session.stop .direct) := by
  unfold Session.shutdownAll shutdownAllBy
  simp only [stopEach_eq]

/-! ## The first stop that fails -/

lemma calledBy_ok (hn : (stop n h).1 = .ok ()) (rest : List Nat) :
    calledBy stop (n :: rest) h = n :: calledBy stop rest (stop n h).2 := by
  rw [calledBy, hn]

lemma calledBy_error {fault : Fault} (hn : (stop n h).1 = .error fault) (rest : List Nat) :
    calledBy stop (n :: rest) h = [n] := by
  rw [calledBy, hn]

/-- The sessions that are stopped are the first ones. -/
lemma calledBy_begins (stop : Nat → Act γ Unit) (sessions : List Nat) (h : Host γ) :
    calledBy stop sessions h <+: sessions := by
  induction sessions generalizing h with
  | nil => exact List.prefix_rfl
  | cons n rest ih =>
    cases hn : (stop n h).1 with
    | ok x =>
      rw [calledBy_ok hn, List.cons_prefix_cons]
      exact ⟨rfl, ih _⟩
    | error fault =>
      rw [calledBy_error hn]
      exact ⟨rest, rfl⟩

lemma AllStop.calledBy_eq (hall : AllStop stop sessions h) :
    calledBy stop sessions h = sessions := by
  induction sessions generalizing h with
  | nil => rfl
  | cons n rest ih => rw [calledBy_ok hall.1, ih hall.2]

/-- Stops that go well leave behind what one after another leaves behind. -/
lemma AllStop.run (hall : AllStop stop sessions h) :
    stopEachBy stop sessions h = (.ok (), afterStops stop sessions h) := by
  induction sessions generalizing h with
  | nil => rfl
  | cons n rest ih =>
    rw [stopEachBy, bind_of_fst hall.1, ih hall.2]
    rfl

/-- If not all can be stopped, one is the first that cannot. The stops end there with its fault. -/
lemma exists_first_fault (hnot : ¬ AllStop stop sessions h) :
    ∃ front n rest fault, sessions = front ++ n :: rest ∧ AllStop stop front h ∧
      (stop n (afterStops stop front h)).1 = .error fault ∧
      calledBy stop sessions h = front ++ [n] ∧
      stopEachBy stop sessions h = (.error fault, afterStops stop (front ++ [n]) h) := by
  induction sessions generalizing h with
  | nil => exact absurd trivial hnot
  | cons n rest ih =>
    cases hn : (stop n h).1 with
    | error fault =>
      refine ⟨[], n, rest, fault, rfl, trivial, hn, calledBy_error hn rest, ?_⟩
      rw [stopEachBy, bind_error (Prod.ext hn rfl)]
      rfl
    | ok x =>
      have hbehind : ¬ AllStop stop rest (stop n h).2 := fun hrest => hnot ⟨hn, hrest⟩
      obtain ⟨front, m, more, fault, hrest, hfront, hm, hcalled, hrun⟩ := ih hbehind
      refine ⟨n :: front, m, more, fault, ?_, ⟨hn, hfront⟩, hm, ?_, ?_⟩
      · rw [hrest, List.cons_append]
      · rw [calledBy_ok hn, hcalled, List.cons_append]
      · rw [stopEachBy, bind_of_fst hn, hrun]
        rfl

lemma AllStop.of_append {front rest : List Nat} (hall : AllStop stop (front ++ rest) h) :
    AllStop stop rest (afterStops stop front h) := by
  induction front generalizing h with
  | nil => exact hall
  | cons n front ih => exact ih hall.2

/-- If all but the last session can be stopped, then one that cannot be is the last one. -/
lemma AllStop.eq_last {front front' rest : List Nat} {m : Nat} {fault : Fault}
    (hfront : AllStop stop front' h) (hsplit : front ++ n :: rest = front' ++ [m])
    (hn : (stop n (afterStops stop front h)).1 = .error fault) :
    front = front' ∧ n = m ∧ rest = [] := by
  rcases List.eq_nil_or_concat rest with rfl | ⟨more, last, rfl⟩
  · obtain ⟨hfronts, hlasts⟩ := List.append_inj' hsplit rfl
    exact ⟨hfronts, List.head_eq_of_cons_eq hlasts, rfl⟩
  · rw [List.concat_eq_append, ← List.cons_append, ← List.append_assoc] at hsplit
    obtain ⟨hsame, -⟩ := List.append_inj' hsplit rfl
    rw [← hsame] at hfront
    have hgood : (stop n (afterStops stop front h)).1 = .ok () := hfront.of_append.1
    cases hn.symm.trans hgood

lemma afterStops_concat (front : List Nat) (n : Nat) (h : Host γ) :
    afterStops stop (front ++ [n]) h = (stop n (afterStops stop front h)).2 := by
  rw [afterStops, List.foldl_append]
  rfl

end Host

namespace Session

/-- A session that talks to a server is stopped unless the stream to the server is clogged by the
time that the session has left. -/
lemma stop_served_iff (c : Conduct γ) {n : Nat} {h : Host γ}
    (hwired : (h.session n).isWired = true) :
    (stop (.served c n) n h).1 = .ok () ↔
      ((leave (.served c n) n h).2.session n).clogged = false := by
  obtain ⟨hresult, -⟩ := stop_run (tends_served c n) hwired
  rw [hresult, closing]
  cases ((leave (.served c n) n h).2.session n).clogged <;> simp

end Session

/-- **Stopping every session.** Whatever stopping a session does, the registered sessions are
stopped in their order, each once, up to the first one that fails. If none fails nobody is
registered afterwards; else the fault is handed on, and what was registered after the last stop
stays registered. So everything is reached exactly if each stop goes well, or all but the last one
do and nobody is registered behind it. The stops of this host are of that kind, and a session that
talks to a server, whatever this does, fails to stop exactly if its stream is clogged. -/
theorem shutdown_reaches_all_iff (stop : Nat → Act γ Unit) (h : Host γ) :
    let called := calledBy stop h.active h
    let stopped := afterStops stop called h
    let h' := (shutdownAllBy stop h).2
    called <+: h.active ∧
      (AllStop stop h.active h → shutdownAllBy stop h = (.ok (), { stopped with active := [] })) ∧
      (¬ AllStop stop h.active h → ∃ front n fault, called = front ++ [n] ∧ AllStop stop front h ∧
        (stop n (afterStops stop front h)).1 = .error fault ∧
        shutdownAllBy stop h = (.error fault, stopped)) ∧
      (called = h.active ∧ h'.active = [] ↔ AllStop stop h.active h ∨
        ∃ front n, h.active = front ++ [n] ∧ AllStop stop front h ∧
          (stop n (afterStops stop front h)).2.active = []) ∧
      (Session.shutdownAll : Act γ Unit) = shutdownAllBy (Session.stop .direct) ∧
      ∀ (c : Session.Conduct γ) n h₁, (h₁.session n).isWired = true →
        ((Session.stop (.served c n) n h₁).1 = .ok () ↔
          ((Session.leave (.served c n) n h₁).2.session n).clogged = false) := by
  intro called stopped h'
  have hgood : AllStop stop h.active h →
      shutdownAllBy stop h = (.ok (), { stopped with active := [] }) := by
    intro hall
    have hcalled : called = h.active := hall.calledBy_eq
    unfold shutdownAllBy
    rw [get_bind, bind_ok hall.run, ← hcalled]
    rfl
  have hbad : ¬ AllStop stop h.active h → ∃ front n rest fault, h.active = front ++ n :: rest ∧
      called = front ++ [n] ∧ AllStop stop front h ∧
      (stop n (afterStops stop front h)).1 = .error fault ∧
      shutdownAllBy stop h = (.error fault, stopped) := by
    intro hnot
    obtain ⟨front, n, rest, fault, hactive, hfront, hn, hcalled, hrun⟩ := exists_first_fault hnot
    refine ⟨front, n, rest, fault, hactive, hcalled, hfront, hn, ?_⟩
    have hstopped : stopped = afterStops stop (front ++ [n]) h := by
      rw [← hcalled]
    unfold shutdownAllBy
    rw [get_bind, bind_error hrun, hstopped]
  refine ⟨calledBy_begins stop h.active h, hgood, fun hnot => ?_, ?_, shutdownAll_eq,
    fun c n h₁ => Session.stop_served_iff c⟩
  · obtain ⟨front, n, rest, fault, -, hrun⟩ := hbad hnot
    exact ⟨front, n, fault, hrun⟩
  by_cases hall : AllStop stop h.active h
  · have hempty : h'.active = [] := by
      show (shutdownAllBy stop h).2.active = []
      rw [hgood hall]
    exact iff_of_true ⟨hall.calledBy_eq, hempty⟩ (.inl hall)
  · obtain ⟨front, n, rest, fault, hactive, hcalled, hfront, hn, hrun⟩ := hbad hall
    have hh' : h' = (stop n (afterStops stop front h)).2 := by
      show (shutdownAllBy stop h).2 = _
      rw [hrun, ← afterStops_concat, ← hcalled]
    constructor
    · rintro ⟨heverybody, hempty⟩
      refine .inr ⟨front, n, heverybody.symm.trans hcalled, hfront, ?_⟩
      rw [← hh', hempty]
    · rintro (hgone | ⟨front', m, hsplit, hfront', hempty⟩)
      · exact absurd hgone hall
      · obtain ⟨rfl, rfl, rfl⟩ := hfront'.eq_last (hactive.symm.trans hsplit) hn
        exact ⟨hcalled.trans hactive.symm, hh'.symm ▸ hempty⟩

/-- Stops that take their session from the registered ones and fail for one session only. -/
def Host.leavingBut (stuck n : Nat) : Act Empty Unit := do
  modify (Host.unregister n)
  if n = stuck then throw (.raised "stuck")

/-- The small host with both sessions registered. -/
def Host.manned : Host Empty :=
  { Host.small with active := [1, 0] }

/-- If only the last session fails, and leaves before it does, then all are stopped and nobody is
registered. A session whose server is gone fails to stop. -/
theorem shutdown_reaches_last_failing :
    calledBy (leavingBut 0) manned.active manned = [1, 0] ∧
      (shutdownAllBy (leavingBut 0) manned).2.active = [] ∧
      (shutdownAllBy (leavingBut 0) manned).1.isOk = false ∧
      (Session.stop (.served .departing 0) 0 Session.departed).1 ≠ .ok () := by
  obtain ⟨-, -, -, hreached, -, hserved⟩ := shutdown_reaches_all_iff (leavingBut 0) manned
  obtain ⟨hcalled, hempty⟩ := hreached.2 (.inr ⟨[1], 0, rfl, ⟨rfl, trivial⟩, rfl⟩)
  have hwired : (Session.departed.session 0).isWired = true := by decide +kernel
  have hclogged : ((Session.leave (.served .departing 0) 0 Session.departed).2.session 0).clogged =
      true := by decide +kernel
  refine ⟨hcalled, hempty, rfl, fun hstopped => ?_⟩
  rw [hserved .departing 0 Session.departed hwired, hclogged] at hstopped
  cases hstopped

/-- A host with two stand-ins. The first one cannot be stopped. -/
def Host.blocked : Host Empty :=
  { Host.small with
    sessions := [
      { (default : Session) with peer := .standIn [] (some "stuck") },
      default]
    active := [0, 1] }

/-- If the first session cannot be stopped the second one is not stopped, and both stay
registered. -/
theorem shutdown_stops_short :
    (Session.shutdownAll Host.blocked).1 = .error (.raised "stuck") ∧
      Host.blocked.active = [0, 1] ∧
      (Session.shutdownAll Host.blocked).2.said 0 = [.stopped] ∧
      (Session.shutdownAll Host.blocked).2.said 1 = [] ∧
      (Session.shutdownAll Host.blocked).2.active = [0, 1] :=
  ⟨rfl, rfl, rfl, rfl, rfl⟩

end LanguageHost
