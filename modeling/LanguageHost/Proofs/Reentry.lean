import LanguageHost.Proofs.FolderView

/-!
# Listeners that change the projects themselves

A change of the projects is announced while it is being made, and a listener that is told of it may
make further changes, which are announced in turn before the next listener is called. What such a
listener does is a `Plan`: it adds and removes projects one after another, sees what has become of
each, and fails or not in the end. Plans are arbitrary, and so is how deep they are nested.

`Plan.happenings` and its companions say in which order steps of the table of projects are made, and
in which order a folders listener hears of them. They follow the calls one by one and have no part
in what is done.
-/

namespace LanguageHost

open Act Host

variable {γ : Type}

namespace Workspace

/-- A step of the table of projects: a project is added to it, or removed. -/
structure Step where
  arrives : Bool
  name : String
  project : Project

namespace Step

/-- The projects after a step. -/
def apply (projects : List (String × Project)) (step : Step) : List (String × Project) :=
  if step.arrives then projects ++ [(step.name, step.project)]
  else dropMember step.name projects

/-- The kind of the delta that a step is announced with. -/
def kind (step : Step) : Int :=
  if step.arrives then addedKind else removedKind

/-- The delta of a step, below the root. -/
def delta (step : Step) : Delta :=
  .leaf (step.project.resource step.name) step.kind 0

/-- What listeners are told of a step. -/
def event (step : Step) : Event :=
  .resource postChange (Delta.ofRoot 0 step.delta)

/-- What servers are told of a step. -/
def params (step : Step) : Json :=
  if step.arrives then Folders.changeParams [step.project.location.uri] []
  else Folders.changeParams [] [step.project.location.uri]

/-- Writes the log line about a step. -/
def note (step : Step) (h : Host γ) : Host γ :=
  if step.arrives then
    h.log "workspace" .info "Project added"
      [("project", step.name), ("location", step.project.location.text)]
  else h.log "workspace" .info "Project removed" [("project", step.name)]

/-- The host in which a step is made and not yet announced. -/
def made (ws : Nat) (step : Step) (h : Host γ) : Host γ :=
  step.note (h.setWorkspace ws
    { h.workspace ws with projects := step.apply (h.workspace ws).projects })

end Step

/-- A call that changes the projects. -/
inductive Edit where
  | create (name : String) (location : Path) (hidden isOpen : Bool)
  | delete (name : String)

namespace Edit

/-- Makes the call. -/
def perform (react : List γ → Act γ Unit) (ws : Nat) : Edit → Act γ Resource
  | create name location hidden isOpen => createProject react ws name location hidden isOpen
  | delete name => deleteProject react ws name

/-- The step that a call makes, unless it is refused. -/
def step? (ws : Nat) (h : Host γ) : Edit → Option Step
  | create name location hidden isOpen =>
    match (h.workspace ws).find? name with
    | none => some ⟨true, name, Change.project location hidden isOpen h⟩
    | some _ => none
  | delete name => ((h.workspace ws).find? name).map fun p => ⟨false, name, p⟩

end Edit

end Workspace

open Workspace

/-- What a listener does that changes the projects: nothing more, which may be a failure, or a call,
and then what it makes of the result and of the host. -/
inductive Plan (γ : Type) where
  | done (fault : Option Fault)
  | call (edit : Edit) (next : Except Fault Resource → Host γ → Plan γ)

namespace Plan

/-- Carries a plan out. -/
def run (perform : Edit → Act γ Resource) : Plan γ → Act γ Unit
  | done none => pure ()
  | done (some fault) => throw fault
  | call edit next => fun h =>
    run perform (next (perform edit h).1 (perform edit h).2) (perform edit h).2

end Plan

/-- What recorders do, by their reactions and the host in which they are told of an event. They have
kept the event by then, so a plan may depend on all that they were told so far. -/
abbrev Policy (γ : Type) := List γ → Host γ → Plan γ

namespace Policy

/-- The reactions of recorders. So many may be nested inside one another; inside the innermost ones
nobody changes the projects any more. -/
def react (policy : Policy γ) (ws : Nat) : Nat → List γ → Act γ Unit
  | 0, _ => pure ()
  | depth + 1, reaction => fun h =>
    (policy reaction h).run (Edit.perform (policy.react ws depth) ws) h

end Policy

/-! ## What happens, in order -/

/-- A step of the table of projects is made, or the folders listener of a definition hears of it. -/
inductive Happening where
  | made (step : Step)
  | heard (step : Step)

namespace Happening

def made? : Happening → Option Step
  | made step => some step
  | heard _ => none

def heard? : Happening → Option Step
  | made _ => none
  | heard step => some step

end Happening

/-- The steps in the order in which they are made. -/
def stepsMade (l : List Happening) : List Step :=
  l.filterMap Happening.made?

/-- The steps in the order in which they are heard of. -/
def stepsHeard (l : List Happening) : List Step :=
  l.filterMap Happening.heard?

/-- What happens while a plan is carried out, where it is known what happens in one call. -/
def Plan.happenings (perform : Edit → Act γ Resource) (calling : Edit → Host γ → List Happening) :
    Plan γ → Host γ → List Happening
  | .done _, _ => []
  | .call edit next, h => calling edit h ++
      happenings perform calling (next (perform edit h).1 (perform edit h).2) (perform edit h).2

section Definition

variable (d : Nat) (react : List γ → Act γ Unit) (reacting : List γ → Host γ → List Happening)

/-- What happens while a listener is told of a step, where it is known what happens in a
reaction. -/
def listening (step : Step) (h : Host γ) (listener : Nat) : List Happening :=
  match h.listeners[listener]? with
  | some (.recorder name reaction) =>
    reacting reaction { h with recorded := h.recorded ++ [⟨name, step.event.toJson⟩] }
  | some (.folders definition none) => if definition = some d then [.heard step] else []
  | _ => []

/-- Tells a listener of a step. A fault is noted. -/
def tell (step : Step) (h : Host γ) (listener : Nat) : Host γ :=
  Bus.attempt (Listener.receiveAt react step.event)
    (fun fault h => { h with
      platform := Bus.reportFailure "workspace.bus" (resourceTopic postChange) fault h.platform })
    h listener

/-- What happens while listeners are told of a step one after another. -/
def listeningEach (step : Step) : List Nat → Host γ → List Happening
  | [], _ => []
  | listener :: rest, h =>
    listening d reacting step h listener ++ listeningEach step rest (tell react step h listener)

/-- What happens in a call that changes the projects. -/
def Workspace.Edit.happenings (ws : Nat) (edit : Edit) (h : Host γ) : List Happening :=
  match edit.step? ws h with
  | none => []
  | some step => .made step :: listeningEach d react reacting step
      ((h.workspace ws).bus.subscribers (resourceTopic postChange)) (step.made ws h)

end Definition

/-- What happens in a reaction. -/
def Policy.reacting (policy : Policy γ) (d ws : Nat) :
    Nat → List γ → Host γ → List Happening
  | 0, _, _ => []
  | depth + 1, reaction, h =>
    (policy reaction h).happenings (Edit.perform (policy.react ws depth) ws)
      (Edit.happenings d (policy.react ws depth) (policy.reacting d ws depth) ws) h

end LanguageHost
