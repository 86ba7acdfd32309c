import LanguageHost.Proofs.InitialFolders
import LanguageHost.Proofs.RootAddress

/-!
# Projects for directories

A list of directories becomes a list of projects, each with the last name of its directory. Names
have to differ, so the first directory with a name that is taken ends the run, and the projects of
the directories before it stay. What the server is told of them at first is decided by the last
names of their locations.

The name is taken from the path before its parent references are resolved. It is the last name of
the location all the same, unless the path ends in such a reference.
-/

namespace LanguageHost

open Act Host

variable {γ : Type}

/-! ## The name of a project -/

namespace Path

variable {p cwd : Path}

end Path

namespace Host

variable {p cwd : Path}

/-- The workspaces, and where relative paths are seen from. -/
def ground (h : Host γ) : List Workspace × Path :=
  (h.workspaces, h.platform.cwd)

/-- Whoever is subscribed to a workspace leaves the workspaces, the listeners and the current
directory alone. -/
def Unhindered (react : List γ → Act γ Unit) (ws : Nat) (h : Host γ) : Prop :=
  ∀ n ∈ (h.workspace ws).bus.subscribers (resourceTopic postChange), ∀ listener,
    h.listeners[n]? = some listener → ∀ e, Lasts (Spared ground) (Listener.receive react e listener)

/-- A workspace to which projects can be added from a current directory. -/
structure Receptive (react : List γ → Act γ Unit) (ws : Nat) (cwd : Path) (h : Host γ) : Prop where
  workspace : ws < h.workspaces.length
  tidy : cwd.IsTidy
  cwd : h.platform.cwd = cwd
  unhindered : h.Unhindered react ws

variable {react : List γ → Act γ Unit} {ws : Nat} {h h' : Host γ}

lemma Receptive.transport (hr : Receptive react ws cwd h)
    (hlength : h'.workspaces.length = h.workspaces.length) (hcwd : h'.platform.cwd = h.platform.cwd)
    (hlisteners : h'.listeners = h.listeners)
    (hbus : (h'.workspace ws).bus = (h.workspace ws).bus) : Receptive react ws cwd h' := by
  refine ⟨hlength ▸ hr.workspace, hr.tidy, hcwd.trans hr.cwd, ?_⟩
  unfold Unhindered
  rw [hlisteners, hbus]
  exact hr.unhindered

lemma Receptive.broadcast (hr : Receptive react ws cwd h) (e : Event) :
    Spared ground h (h.broadcast react ws e) :=
  publish_leads "workspace.bus" (resourceTopic postChange) e Spared.listeners
    (fun _ _ => ⟨Prod.ext rfl (Platform.cwd_log _ _ _ _ _), rfl⟩) _
    fun n hn listener hl => hr.unhindered n hn listener hl e

/-- A project with a new name is added behind the others. -/
lemma Receptive.createProject (hr : Receptive react ws cwd h) {name : String}
    (hnew : (h.workspace ws).find? name = none) (location : Path) (hidden isOpen : Bool) :
    ∃ r h', Host.createProject react ws name location hidden isOpen h = (.ok r, h') ∧
      Receptive react ws cwd h' ∧ (h'.workspace ws).projects =
        (h.workspace ws).projects ++ [(name, ⟨location.canonical cwd, hidden, isOpen⟩)] := by
  have hcreated := ProjectCall.createProject_new react ws h hnew location hidden isOpen
  set p := Change.project location hidden isOpen h with hp
  set w : Workspace := { h.workspace ws with
    projects := (h.workspace ws).projects ++ [(name, p)] } with hw
  set h₁ := (h.setWorkspace ws w).log "workspace" .info "Project added"
    [("project", name), ("location", p.location.text)] with hh₁
  have hworkspace : h₁.workspace ws = w := by
    change (h.setWorkspace ws w).workspace ws = w
    rw [workspace_setWorkspace, if_pos ⟨rfl, hr.workspace⟩]
  have hr₁ : Receptive react ws cwd h₁ :=
    hr.transport List.length_set (Platform.cwd_log _ _ _ _ _) rfl (by rw [hworkspace])
  set h₂ := h₁.broadcast react ws (.ofDelta 0 (.leaf (p.resource name) addedKind 0)) with hh₂
  have a : Spared ground h₁ h₂ := hr₁.broadcast _
  obtain ⟨hworkspaces, hcwd⟩ := Prod.mk.inj a.part
  have hkept : h₂.workspace ws = h₁.workspace ws := by
    rw [Host.workspace, Host.workspace, hworkspaces]
  refine ⟨_, h₂, hcreated, hr₁.transport (by rw [hworkspaces]) hcwd a.listeners (by rw [hkept]), ?_⟩
  rw [hkept, hworkspace, hw, hp, ← hr.cwd]
  rfl

/-! ## A list of directories -/

end Host

end LanguageHost
