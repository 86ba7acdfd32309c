import Mathlib.Logic.Function.Basic
import LanguageHost.Proofs.Audience
import LanguageHost.Proofs.Change
import LanguageHost.Proofs.Turn
import LanguageHost.Proofs.View

/-!
# The deltas of a workspace are a log

Every call on a workspace publishes the event that `ProjectCall.event?` tells, or none. A listener
that was there from the start and replays what it receives over an empty table has the names and
the open flags of all projects after every call, also if calls fail or change nothing in between.

Other listeners may be subscribed as well. All that is asked of them is to leave the projects, the
listeners and the records alone.
-/

namespace LanguageHost

open Act Host

variable {γ : Type}

/-- A call on a workspace. Projects are opened and closed by `setOpen`. -/
inductive ProjectCall where
  | create (name : String) (location : Path) (hidden isOpen : Bool)
  | delete (name : String)
  | setOpen (name : String) (isOpen : Bool)
  | touch (r : Resource)

/-- The event that a workspace publishes about a delta below its root. -/
def Event.ofDelta (rootFlags : Int) (delta : Delta) : Event :=
  .resource postChange (Delta.ofRoot rootFlags delta)

/-- What a table of open flags becomes by a delta: a project is added with its flag, or removed, or
its flag is turned over. -/
def Delta.replay (table : String → Option Bool) : Delta → String → Option Bool
  | .node r kind flags _ _ =>
    if kind = addedKind then Function.update table r.name (some r.accessible)
    else if kind = removedKind then Function.update table r.name none
    else if kind = changedKind ∧ flags = openFlag then
      Function.update table r.name ((table r.name).map not)
    else table

/-- What a table becomes by an event, delta by delta below the root. -/
def Event.replay (table : String → Option Bool) : Event → String → Option Bool
  | .resource _ (.node _ _ _ _ deltas) => deltas.foldl Delta.replay table
  | .preference _ => table

/-- The open flags of the projects by name. -/
def Workspace.flags (w : Workspace) (name : String) : Option Bool :=
  (w.find? name).map Project.isOpen

namespace ProjectCall

/-- Makes the call. -/
def perform (react : List γ → Act γ Unit) (ws : Nat) (call : ProjectCall) : Act γ Unit :=
  match call with
  | create name location hidden isOpen => do
    let _ ← createProject react ws name location hidden isOpen
  | delete name => do
    let _ ← deleteProject react ws name
  | setOpen name isOpen => setProjectOpen react ws name isOpen
  | touch r => touchMarkers react ws r

/-- The call as one of the changes that users make. -/
def change : ProjectCall → Change
  | create name location hidden isOpen => .create name location hidden isOpen
  | delete name => .delete name
  | setOpen name isOpen => .setOpen name isOpen
  | touch r => .touch r

/-- The call only touches annotations. -/
def Touches : ProjectCall → Prop
  | touch _ => True
  | create _ _ _ _ | delete _ | setOpen _ _ => False

/-- The problem that a call meets, if there is one. -/
def problem? (w : Workspace) : ProjectCall → Option Problem
  | create name _ _ _ => if (w.flags name).isSome then some (.projectExists name) else none
  | delete name => if (w.flags name).isSome then none else some (.projectUnknown name)
  | setOpen name _ => if (w.flags name).isSome then none else some (.projectUnknown name)
  | touch _ => none

/-- The event that a call publishes, if there is one. -/
def event? (ws : Nat) (h : Host γ) : ProjectCall → Option Event
  | create name location hidden isOpen =>
    match (h.workspace ws).find? name with
    | some _ => none
    | none => some (.ofDelta 0
      (.leaf ((Change.project location hidden isOpen h).resource name) addedKind 0))
  | delete name => ((h.workspace ws).find? name).map fun p =>
    .ofDelta 0 (.leaf (p.resource name) removedKind 0)
  | setOpen name isOpen => ((h.workspace ws).find? name).bind fun p =>
    if p.isOpen = isOpen then none
    else some (.ofDelta 0
      (.leaf (({ p with isOpen } : Project).resource name) changedKind openFlag))
  | touch r => some (.ofDelta markersFlag (.leaf r changedKind markersFlag))

/-- What some calls lead to. -/
def after (react : List γ → Act γ Unit) (ws : Nat) (h : Host γ) (calls : List ProjectCall) :
    Host γ :=
  calls.foldl (fun h call => (call.perform react ws h).2) h

/-- The events that some calls publish, in their order. -/
def log (react : List γ → Act γ Unit) (ws : Nat) : List ProjectCall → Host γ → List Event
  | [], _ => []
  | call :: rest, h => (call.event? ws h).toList ++ log react ws rest (call.perform react ws h).2

end ProjectCall

/-! ## One call -/

namespace Host

variable {ws : Nat} {h : Host γ}

/-- Publishes an event of a workspace. -/
def broadcast (react : List γ → Act γ Unit) (ws : Nat) (e : Event) (h : Host γ) : Host γ :=
  (publish react "workspace.bus" (resourceTopic postChange) e
    ((h.workspace ws).bus.subscribers (resourceTopic postChange)) h).2

lemma announce_eq (react : List γ → Act γ Unit) (ws : Nat) (delta : Delta) (rootFlags : Int)
    (h : Host γ) : announce react ws delta rootFlags h =
      (.ok (), h.broadcast react ws (.ofDelta rootFlags delta)) :=
  Prod.ext (Change.publish_fst react _ _ _ _ h) rfl

end Host

namespace Workspace

/-- The projects with one more, which is a new one. -/
lemma flags_create {w : Workspace} {name : String} (hnew : w.find? name = none) (p : Project) :
    ({ w with projects := w.projects ++ [(name, p)] } : Workspace).flags =
      Function.update w.flags name (some p.isOpen) := by
  funext other
  rw [flags, find?, findMember?_append]
  by_cases hother : other = name
  · subst hother
    rw [find?] at hnew
    simp [hnew, findMember?_cons]
  · rw [Function.update_of_ne hother, flags, find?]
    simp [findMember?_cons, Ne.symm hother]

lemma flags_delete (w : Workspace) (name : String) :
    ({ w with projects := dropMember name w.projects } : Workspace).flags =
      Function.update w.flags name none := by
  funext other
  rw [flags, find?, findMember?_dropMember]
  by_cases hother : other = name
  · simp [hother]
  · rw [Function.update_of_ne hother, if_neg (Ne.symm hother), flags, find?]

lemma flags_put (w : Workspace) (name : String) (p : Project) :
    ({ w with projects := putMember name p w.projects } : Workspace).flags =
      Function.update w.flags name (some p.isOpen) := by
  funext other
  rw [flags, find?, findMember?_putMember]
  by_cases hother : other = name
  · simp [hother]
  · rw [Function.update_of_ne hother, if_neg (Ne.symm hother), flags, find?]

end Workspace

namespace ProjectCall

section Calls

variable (react : List γ → Act γ Unit) (ws : Nat) (h : Host γ)

/-- What a call leaves behind that makes its change and announces a delta. -/
lemma announced_run (delta : Delta) (r : Resource) :
    (announce react ws delta 0 >>= fun _ => pure r : Act γ Resource) h =
      (.ok r, h.broadcast react ws (.ofDelta 0 delta)) :=
  bind_ok (announce_eq react ws delta 0 h)

/-- A project with a new name is added, and then it is announced. -/
lemma createProject_new {name : String} (hnew : (h.workspace ws).find? name = none)
    (location : Path) (hidden isOpen : Bool) :
    let p := Change.project location hidden isOpen h
    createProject react ws name location hidden isOpen h = (.ok (p.resource name),
      ((h.setWorkspace ws { h.workspace ws with
          projects := (h.workspace ws).projects ++ [(name, p)] }).log "workspace" .info
        "Project added" [("project", name), ("location", p.location.text)]).broadcast react ws
        (.ofDelta 0 (.leaf (p.resource name) addedKind 0))) := by
  intro p
  have hcreate : (h.workspace ws).create name p = .ok (.leaf (p.resource name) addedKind 0,
      { h.workspace ws with projects := (h.workspace ws).projects ++ [(name, p)] }) := by
    rw [Workspace.create, hnew]
  unfold createProject
  rw [get_bind]
  change (Act.ofProblem ((h.workspace ws).create name p) >>= _) h = _
  rw [hcreate]
  exact announced_run react ws _ _ _

/-- A name that is taken is refused, and nothing changes. -/
lemma createProject_taken {name : String} {old : Project}
    (htaken : (h.workspace ws).find? name = some old) (location : Path) (hidden isOpen : Bool) :
    createProject react ws name location hidden isOpen h =
      (.error (.problem (.projectExists name)), h) := by
  unfold createProject
  rw [get_bind, Workspace.create, htaken]
  rfl

lemma create_eq (name : String) (location : Path) (hidden isOpen : Bool) :
    ∃ platform, (create name location hidden isOpen).perform react ws h =
      (((create name location hidden isOpen).problem? (h.workspace ws)).elim (.ok ())
          (fun problem => .error (.problem problem)),
        ((create name location hidden isOpen).event? ws h).elim id (broadcast react ws)
          { (create name location hidden isOpen).change.edit 0 ws h with platform }) := by
  set p := Change.project location hidden isOpen h with hp
  rcases hfind : (h.workspace ws).find? name with _ | old
  · have hproblem : (create name location hidden isOpen).problem? (h.workspace ws) = none := by
      simp [problem?, Workspace.flags, hfind]
    have hevent : (create name location hidden isOpen).event? ws h =
        some (.ofDelta 0 (.leaf (p.resource name) addedKind 0)) := by
      rw [event?, hfind, hp]
    have hedit : (create name location hidden isOpen).change.edit 0 ws h =
        h.setWorkspace ws { h.workspace ws with
          projects := (h.workspace ws).projects ++ [(name, p)] } := by
      rw [change, Change.edit, ← hp, Workspace.create, hfind]
    rw [hproblem, hevent, hedit]
    exact ⟨_, bind_ok (createProject_new react ws h hfind location hidden isOpen)⟩
  · have hproblem : (create name location hidden isOpen).problem? (h.workspace ws) =
        some (.projectExists name) := by
      simp [problem?, Workspace.flags, hfind]
    have hevent : (create name location hidden isOpen).event? ws h = none := by
      rw [event?, hfind]
    have hedit : (create name location hidden isOpen).change.edit 0 ws h = h := by
      rw [change, Change.edit, ← hp, Workspace.create, hfind]
    rw [hproblem, hevent, hedit]
    exact ⟨h.platform, bind_error (createProject_taken react ws h hfind location hidden isOpen)⟩

lemma delete_eq (name : String) :
    ∃ platform, (delete name).perform react ws h =
      (((delete name).problem? (h.workspace ws)).elim (.ok ())
          (fun problem => .error (.problem problem)),
        ((delete name).event? ws h).elim id (broadcast react ws)
          { (delete name).change.edit 0 ws h with platform }) := by
  rcases hfind : (h.workspace ws).find? name with _ | p
  · have hdelete : (h.workspace ws).delete name = .error (.projectUnknown name) := by
      rw [Workspace.delete, Workspace.require, hfind]
    have hrun : deleteProject react ws name h = (.error (.problem (.projectUnknown name)), h) := by
      unfold deleteProject
      rw [get_bind, hdelete]
      rfl
    have hproblem : (delete name).problem? (h.workspace ws) = some (.projectUnknown name) := by
      simp [problem?, Workspace.flags, hfind]
    have hevent : (delete name).event? ws h = none := by
      rw [event?, hfind, Option.map_none]
    have hedit : (delete name).change.edit 0 ws h = h := by
      rw [change, Change.edit, hdelete]
    rw [hproblem, hevent, hedit]
    exact ⟨h.platform, bind_error hrun⟩
  · set w : Workspace := { h.workspace ws with
      projects := dropMember name (h.workspace ws).projects } with hw
    have hdelete : (h.workspace ws).delete name =
        .ok (.leaf (p.resource name) removedKind 0, w) := by
      rw [Workspace.delete, Workspace.require, hfind]
    set logged := (h.setWorkspace ws w).log "workspace" .info "Project removed"
      [("project", name)]
    have hrun : deleteProject react ws name h =
        (.ok (p.resource name), logged.broadcast react ws
          (.ofDelta 0 (.leaf (p.resource name) removedKind 0))) := by
      unfold deleteProject
      rw [get_bind, hdelete]
      exact announced_run react ws logged _ _
    have hproblem : (delete name).problem? (h.workspace ws) = none := by
      simp [problem?, Workspace.flags, hfind]
    have hevent : (delete name).event? ws h =
        some (.ofDelta 0 (.leaf (p.resource name) removedKind 0)) := by
      rw [event?, hfind, Option.map_some]
    have hedit : (delete name).change.edit 0 ws h = h.setWorkspace ws w := by
      rw [change, Change.edit, hdelete]
    rw [hproblem, hevent, hedit]
    exact ⟨logged.platform, bind_ok hrun⟩

lemma setOpen_eq (name : String) (isOpen : Bool) :
    ∃ platform, (setOpen name isOpen).perform react ws h =
      (((setOpen name isOpen).problem? (h.workspace ws)).elim (.ok ())
          (fun problem => .error (.problem problem)),
        ((setOpen name isOpen).event? ws h).elim id (broadcast react ws)
          { (setOpen name isOpen).change.edit 0 ws h with platform }) := by
  refine ⟨h.platform, ?_⟩
  rw [perform, setProjectOpen, get_bind]
  rcases hfind : (h.workspace ws).find? name with _ | p
  · have hset : (h.workspace ws).setOpen name isOpen = .error (.projectUnknown name) := by
      rw [Workspace.setOpen, Workspace.require, hfind]
    have hproblem : (setOpen name isOpen).problem? (h.workspace ws) =
        some (.projectUnknown name) := by
      simp [problem?, Workspace.flags, hfind]
    have hevent : (setOpen name isOpen).event? ws h = none := by
      rw [event?, hfind, Option.bind_none]
    rw [hproblem, hevent, change, Change.edit, hset]
    rfl
  · have hproblem : (setOpen name isOpen).problem? (h.workspace ws) = none := by
      simp [problem?, Workspace.flags, hfind]
    by_cases hsame : p.isOpen = isOpen
    · have hset : (h.workspace ws).setOpen name isOpen = .ok none := by
        rw [Workspace.setOpen, Workspace.require, hfind]
        exact if_pos hsame
      have hevent : (setOpen name isOpen).event? ws h = none := by
        rw [event?, hfind, Option.bind_some, if_pos hsame]
      rw [hproblem, hevent, change, Change.edit, hset]
      rfl
    · set changed : Project := { p with isOpen } with hchanged
      set w : Workspace := { h.workspace ws with
        projects := putMember name changed (h.workspace ws).projects } with hw
      have hset : (h.workspace ws).setOpen name isOpen =
          .ok (some (.leaf (changed.resource name) changedKind openFlag, w)) := by
        rw [Workspace.setOpen, Workspace.require, hfind]
        exact if_neg hsame
      have hevent : (setOpen name isOpen).event? ws h =
          some (.ofDelta 0 (.leaf (changed.resource name) changedKind openFlag)) := by
        rw [event?, hfind, Option.bind_some, if_neg hsame]
      rw [hproblem, hevent, change, Change.edit, hset]
      exact announce_eq react ws _ 0 (h.setWorkspace ws w)

/-- A call fails with its problem and changes nothing, or makes its change and publishes its event
if it has one. -/
theorem perform_eq (call : ProjectCall) :
    ∃ platform, call.perform react ws h =
      ((call.problem? (h.workspace ws)).elim (.ok ()) (fun problem => .error (.problem problem)),
        (call.event? ws h).elim id (broadcast react ws)
          { call.change.edit 0 ws h with platform }) := by
  cases call with
  | create name location hidden isOpen => exact create_eq react ws h name location hidden isOpen
  | delete name => exact delete_eq react ws h name
  | setOpen name isOpen => exact setOpen_eq react ws h name isOpen
  | touch r => exact ⟨h.platform, announce_eq react ws _ _ h⟩

end Calls

/-! ## Replaying one event -/

section Replay

variable {ws : Nat} {h : Host γ}

/-- Nothing is changed without an event. -/
lemma edit_of_event?_none {call : ProjectCall} (hnone : call.event? ws h = none) :
    call.change.edit 0 ws h = h := by
  cases call with
  | create name location hidden isOpen =>
    rw [change, Change.edit, Workspace.create]
    rcases hfind : (h.workspace ws).find? name with _ | old
    · rw [event?, hfind] at hnone
      cases hnone
    · rfl
  | delete name =>
    rw [event?, Option.map_eq_none_iff] at hnone
    rw [change, Change.edit, Workspace.delete, Workspace.require, hnone]
  | setOpen name isOpen =>
    rw [change, Change.edit, Workspace.setOpen, Workspace.require]
    rcases hfind : (h.workspace ws).find? name with _ | p
    · rfl
    · rw [event?, hfind, Option.bind_some] at hnone
      by_cases hsame : p.isOpen = isOpen
      · simp only [hsame, if_true]
      · rw [if_neg hsame] at hnone
        cases hnone
  | touch r => rfl

/-- An event says how the table of open flags changes, and it does change unless annotations are
touched. -/
structure TellsFlags (before after : String → Option Bool) (touches : Prop) (e : Event) : Prop where
  after_eq : after = e.replay before
  changed : ¬ touches → after ≠ before
  unchanged : touches → after = before

lemma tellsFlags_create {name : String} {location : Path} {hidden isOpen : Bool} {e : Event}
    (hws : ws < h.workspaces.length)
    (he : (create name location hidden isOpen).event? ws h = some e) :
    TellsFlags (h.workspace ws).flags
      (((create name location hidden isOpen).change.edit 0 ws h).workspace ws).flags False e := by
  rw [change, Change.edit, Workspace.create]
  rcases hfind : (h.workspace ws).find? name with _ | old
  · rw [event?, hfind] at he
    cases he
    have hflags : (h.workspace ws).flags name = none := by
      rw [Workspace.flags, hfind, Option.map_none]
    dsimp only
    rw [workspace_setWorkspace, if_pos ⟨rfl, hws⟩, Workspace.flags_create hfind]
    refine ⟨rfl, fun _ hsame => ?_, False.elim⟩
    have hname := congrFun hsame name
    rw [Function.update_self, hflags] at hname
    cases hname
  · rw [event?, hfind] at he
    cases he

lemma tellsFlags_delete {name : String} {e : Event} (hws : ws < h.workspaces.length)
    (he : (delete name).event? ws h = some e) :
    TellsFlags (h.workspace ws).flags
      (((delete name).change.edit 0 ws h).workspace ws).flags False e := by
  rw [event?, Option.map_eq_some_iff] at he
  obtain ⟨p, hfind, rfl⟩ := he
  have hflags : (h.workspace ws).flags name = some p.isOpen := by
    rw [Workspace.flags, hfind, Option.map_some]
  rw [change, Change.edit, Workspace.delete, Workspace.require, hfind]
  dsimp only
  rw [workspace_setWorkspace, if_pos ⟨rfl, hws⟩, Workspace.flags_delete]
  refine ⟨rfl, fun _ hsame => ?_, False.elim⟩
  have hname := congrFun hsame name
  rw [Function.update_self, hflags] at hname
  cases hname

lemma tellsFlags_setOpen {name : String} {isOpen : Bool} {e : Event}
    (hws : ws < h.workspaces.length) (he : (setOpen name isOpen).event? ws h = some e) :
    TellsFlags (h.workspace ws).flags
      (((setOpen name isOpen).change.edit 0 ws h).workspace ws).flags False e := by
  rw [event?, Option.bind_eq_some_iff] at he
  obtain ⟨p, hfind, he⟩ := he
  have hflags : (h.workspace ws).flags name = some p.isOpen := by
    rw [Workspace.flags, hfind, Option.map_some]
  by_cases hsame : p.isOpen = isOpen
  · rw [if_pos hsame] at he
    cases he
  · rw [if_neg hsame] at he
    cases he
    rw [change, Change.edit, Workspace.setOpen, Workspace.require, hfind]
    dsimp only
    rw [if_neg hsame]
    dsimp only
    rw [workspace_setWorkspace, if_pos ⟨rfl, hws⟩, Workspace.flags_put]
    have hturned : isOpen = !p.isOpen := by
      cases hp : p.isOpen <;> cases isOpen <;> simp_all
    refine ⟨?_, fun _ hkept => ?_, False.elim⟩
    · change _ = Function.update (h.workspace ws).flags name (((h.workspace ws).flags name).map not)
      rw [hflags, Option.map_some, hturned]
    · have hname := congrFun hkept name
      rw [Function.update_self, hflags] at hname
      exact hsame (Option.some.inj hname).symm

lemma tellsFlags (hws : ws < h.workspaces.length) {call : ProjectCall} {e : Event}
    (he : call.event? ws h = some e) :
    TellsFlags (h.workspace ws).flags ((call.change.edit 0 ws h).workspace ws).flags
      call.Touches e := by
  cases call with
  | create name location hidden isOpen => exact tellsFlags_create hws he
  | delete name => exact tellsFlags_delete hws he
  | setOpen name isOpen => exact tellsFlags_setOpen hws he
  | touch r =>
    cases he
    exact ⟨rfl, fun hnot => (hnot trivial).elim, fun _ => rfl⟩

end Replay

end ProjectCall

/-! ## A listener that was there from the start -/

namespace Host

/-- The projects, the listeners and the records stay as they are. -/
structure Calm (h h' : Host γ) : Prop where
  workspaces : h'.workspaces = h.workspaces
  listeners : h'.listeners = h.listeners
  recorded : h'.recorded = h.recorded

lemma Undisturbed.calm {h h' : Host γ} (a : Undisturbed h h') : Calm h h' :=
  ⟨a.workspaces, a.listeners, a.recorded⟩

instance : Std.Refl (Calm (γ := γ)) :=
  ⟨fun _ => ⟨rfl, rfl, rfl⟩⟩

lemma Calm.steady {h h' : Host γ} (a : Calm h h') : Steady Host.workspaces h h' :=
  ⟨a.workspaces, a.listeners, a.recorded⟩

/-- A recorder is subscribed once to the changes of a workspace, and whoever else is subscribed
changes neither the projects nor the listeners nor the records. -/
structure Followed (react : List γ → Act γ Unit) (ws r : Nat) (name : String) (h : Host γ) :
    Prop where
  workspace : ws < h.workspaces.length
  recorder : ∃ reaction, h.listeners[r]? = some (.recorder name reaction) ∧
    Lasts Calm (react reaction)
  once : ((h.workspace ws).bus.subscribers (resourceTopic postChange)).count r = 1
  others : ∀ n ∈ (h.workspace ws).bus.subscribers (resourceTopic postChange), n ≠ r →
    ∀ listener, h.listeners[n]? = some listener →
      ∀ e, Lasts Calm (Listener.receive react e listener)

/-- Some events are kept under a name, and nothing else is changed. -/
structure Gathers (name : String) (events : List Event) (h h' : Host γ) : Prop where
  workspaces : h'.workspaces = h.workspaces
  listeners : h'.listeners = h.listeners
  recorded : h'.recorded = h.recorded ++ events.map fun e => ⟨name, e.toJson⟩

namespace Gathers

variable {name : String} {h h' : Host γ}

lemma of_calm (a : Calm h h') : Gathers name [] h h' :=
  ⟨a.workspaces, a.listeners, by rw [a.recorded, List.map_nil, List.append_nil]⟩

end Gathers

section Delivery

variable {react : List γ → Act γ Unit} {ws r : Nat} {name : String} {h : Host γ}

/-- A recorder that follows a workspace keeps each of its events once. -/
lemma Followed.broadcast (hf : Followed react ws r name h) (e : Event) :
    Gathers name [e] h (h.broadcast react ws e) := by
  obtain ⟨reaction, hlistener, hcalm⟩ := hf.recorder
  have hbeside : Beside (Host.workspaces (γ := γ)) := fun _ _ _ => rfl
  have a := collects_publish "workspace.bus" (resourceTopic postChange) e hbeside
    (fun h => (hcalm h).steady)
    ((h.workspace ws).bus.subscribers (resourceTopic postChange)) hlistener
    fun n hn hne listener hl h => (hf.others n hn hne listener hl e h).steady
  rw [hf.once] at a
  exact ⟨a.part, a.listeners, a.recorded⟩

lemma Followed.transport (hf : Followed react ws r name h) {h' : Host γ}
    (hlength : h'.workspaces.length = h.workspaces.length) (hlisteners : h'.listeners = h.listeners)
    (hbus : (h'.workspace ws).bus = (h.workspace ws).bus) : Followed react ws r name h' := by
  refine ⟨hlength ▸ hf.workspace, ?_, ?_, ?_⟩
  · rw [hlisteners]
    exact hf.recorder
  · rw [hbus]
    exact hf.once
  · rw [hbus, hlisteners]
    exact hf.others

end Delivery

end Host

namespace ProjectCall

variable {react : List γ → Act γ Unit} {ws r : Nat} {name : String} {h : Host γ}

/-- A call makes its change, and the recorder keeps its event if it has one. -/
theorem perform_gathers (hf : Followed react ws r name h) (call : ProjectCall) :
    Gathers name (call.event? ws h).toList (call.change.edit 0 ws h)
        (call.perform react ws h).2 ∧
      Followed react ws r name (call.perform react ws h).2 := by
  obtain ⟨platform, hrun⟩ := perform_eq react ws h call
  have hedited := Change.edited 0 ws call.change h
  have hf₁ : Followed react ws r name { call.change.edit 0 ws h with platform } :=
    (hf.transport hedited.workspaces hedited.listeners hedited.workspaceBus).transport rfl rfl rfl
  have hgathers : Gathers name (call.event? ws h).toList (call.change.edit 0 ws h)
      (call.perform react ws h).2 := by
    rw [hrun]
    rcases call.event? ws h with _ | e
    · exact .of_calm ⟨rfl, rfl, rfl⟩
    · have a := hf₁.broadcast e
      exact ⟨a.workspaces, a.listeners, a.recorded⟩
  refine ⟨hgathers, ?_⟩
  refine (hf.transport hedited.workspaces hedited.listeners hedited.workspaceBus).transport ?_
    hgathers.listeners ?_
  · rw [hgathers.workspaces]
  · rw [Host.workspace, hgathers.workspaces]
    rfl

/-! ## Runs -/

lemma after_concat (calls : List ProjectCall) (call : ProjectCall) :
    after react ws h (calls ++ [call]) = (call.perform react ws (after react ws h calls)).2 := by
  rw [after, after, List.foldl_append]
  rfl

lemma log_concat (calls : List ProjectCall) (call : ProjectCall) :
    log react ws (calls ++ [call]) h =
      log react ws calls h ++ (call.event? ws (after react ws h calls)).toList := by
  induction calls generalizing h with
  | nil => simp [log, after]
  | cons first rest ih =>
    rw [List.cons_append, log, log, ih, List.append_assoc]
    rfl

/-- No name is repeated by a change of the projects. -/
lemma nodup_edit (hws : ws < h.workspaces.length)
    (hnames : ((h.workspace ws).projects.map Prod.fst).Nodup) (call : ProjectCall) :
    (((call.change.edit 0 ws h).workspace ws).projects.map Prod.fst).Nodup := by
  cases call with
  | create name location hidden isOpen =>
    rw [change, Change.edit, Workspace.create]
    rcases hfind : (h.workspace ws).find? name with _ | old
    · dsimp only
      rw [workspace_setWorkspace, if_pos ⟨rfl, hws⟩, ← putMember_absent]
      · exact nodup_keys_putMember _ _ hnames
      · rw [← isSome_findMember?]
        rw [Workspace.find?] at hfind
        simp [hfind]
    · exact hnames
  | delete name =>
    rw [change, Change.edit, Workspace.delete, Workspace.require]
    rcases (h.workspace ws).find? name with _ | p
    · exact hnames
    · dsimp only
      rw [workspace_setWorkspace, if_pos ⟨rfl, hws⟩]
      exact List.Nodup.sublist (List.filter_sublist.map _) hnames
  | setOpen name isOpen =>
    rw [change, Change.edit, Workspace.setOpen, Workspace.require]
    rcases (h.workspace ws).find? name with _ | p
    · exact hnames
    · dsimp only
      by_cases hsame : p.isOpen = isOpen
      · rw [if_pos hsame]
        exact hnames
      · rw [if_neg hsame]
        dsimp only
        rw [workspace_setWorkspace, if_pos ⟨rfl, hws⟩]
        exact nodup_keys_putMember _ _ hnames
  | touch r => exact hnames

/-- The recorder kept a log, and replaying it gives the open flags of the projects. -/
structure Mirrors (react : List γ → Act γ Unit) (ws r : Nat) (name : String) (h₀ : Host γ)
    (events : List Event) (h : Host γ) : Prop where
  followed : Followed react ws r name h
  recorded : h.recorded = h₀.recorded ++ events.map fun e => ⟨name, e.toJson⟩
  flags : (h.workspace ws).flags = events.foldl Event.replay fun _ => none
  names : ((h.workspace ws).projects.map Prod.fst).Nodup

/-- After a call the workspace is the one that was made before its event was published. -/
lemma workspace_perform (hf : Followed react ws r name h) (call : ProjectCall) :
    (call.perform react ws h).2.workspace ws = (call.change.edit 0 ws h).workspace ws := by
  rw [Host.workspace, Host.workspace, (perform_gathers hf call).1.workspaces]

lemma recorded_perform (hf : Followed react ws r name h) (call : ProjectCall) :
    (call.perform react ws h).2.recorded =
      h.recorded ++ (call.event? ws h).toList.map fun e => ⟨name, e.toJson⟩ := by
  have hkept : (call.change.edit 0 ws h).recorded = h.recorded := by
    cases call <;> simp only [change, Change.edit]
    all_goals first | rfl | split <;> rfl
  rw [(perform_gathers hf call).1.recorded, hkept]

/-- One call: the table of open flags and the log change alike. -/
lemma Mirrors.step {h₀ : Host γ} {events : List Event} (hm : Mirrors react ws r name h₀ events h)
    (call : ProjectCall) :
    Mirrors react ws r name h₀ (events ++ (call.event? ws h).toList)
      (call.perform react ws h).2 := by
  refine ⟨(perform_gathers hm.followed call).2, ?_, ?_, ?_⟩
  · rw [recorded_perform hm.followed, hm.recorded, List.map_append, List.append_assoc]
  · rw [workspace_perform hm.followed, List.foldl_append, ← hm.flags]
    rcases he : call.event? ws h with _ | e
    · rw [edit_of_event?_none he]
      rfl
    · exact (tellsFlags hm.followed.workspace he).after_eq
  · rw [workspace_perform hm.followed]
    exact nodup_edit hm.followed.workspace hm.names call

end ProjectCall

/-! ## The projects in order -/

/-- The small host with a recorder on its workspace, and behind it a listener that announces the
projects to the attached session. -/
def Host.logged : Host Empty :=
  { Host.small with
    workspaces := [(Workspace.empty.subscribe postChange 0).subscribe postChange 1]
    listeners := [.recorder "log" [], .folders (some 0) none]
    active := [0] }

end LanguageHost
