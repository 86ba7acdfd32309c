import LanguageHost.Host.Plugin
import LanguageHost.Proofs.DeltaLog
import LanguageHost.Proofs.Locations

/-!
# Two addresses of one directory

A server is told of a directory in two ways, as the root of its session and as the location of a
project. The root keeps its parent references and the location does not, so the two addresses agree
exactly if there is none on the way. A root that keeps one has the address of no resource at all.
-/

namespace LanguageHost

open Host

variable {γ : Type}

/-- The root of a new session is announced as an absolute path that keeps its parent references. -/
lemma Session.rootUri_newSession {d : String} (hd : d ≠ "") (cwd : Path) (definition : Nat)
    (connection : Connection) (hook : Hook) :
    (newSession definition connection hook (some d)).rootUri cwd =
      some ((Path.ofString d).absolute cwd).uri := by
  have hfull : d.isEmpty = false := by
    rw [Bool.eq_false_iff, ne_eq, String.isEmpty_iff]
    exact hd
  change (if d.isEmpty then none else some ((Path.ofString d).absolute cwd).uri) = _
  rw [hfull]
  rfl

/-- The address of a tidy place is that of the location at a text exactly if it is that location. -/
lemma Resource.uri?_standalone {cwd place : Path} (hcwd : cwd.IsTidy) (hplace : place.IsTidy)
    (s name : String) (type : ResourceType) (hidden : Bool) :
    some place.uri = (standalone cwd name type (some (Path.ofString s)) hidden).uri? ↔
      (Path.ofString s).canonical cwd = place := by
  have hs := (hcwd.canonical_ofString s).toIsTidy
  change some place.uri = some ((Path.ofString s).canonical cwd).uri ↔ _
  rw [Option.some.injEq, hplace.uri_inj hs, eq_comm]

/-- **When the root of a session and a project at the same text have the same address.** A project
with a new name is created at any text. Its address is that of the root of a session for this text,
exactly if no parent reference is on the way there from the root of the file system. If there is
one, no resource at any text has the address of the session's root. -/
theorem Host.root_address_agrees_iff (react : List γ → Act γ Unit) (ws : Nat) {h : Host γ}
    (hcwd : h.platform.cwd.IsTidy) (name : String) (hnew : (h.workspace ws).find? name = none)
    (hidden isOpen : Bool) (d : String) (hd : d ≠ "") (definition : Nat) (connection : Connection)
    (hook : Hook) :
    let place := (Path.ofString d).absolute h.platform.cwd
    let address := (newSession definition connection hook (some d)).rootUri h.platform.cwd
    ∃ r, (createProject react ws name (Path.ofString d) hidden isOpen h).1 = .ok r ∧
      (address = r.uri? ↔ ".." ∉ place.names) ∧
      (".." ∈ place.names → ∀ (s other : String) (type : ResourceType) (unseen : Bool),
        address ≠ (Resource.standalone h.platform.cwd other type (some (Path.ofString s))
          unseen).uri?) := by
  intro place address
  have hplace : place.IsTidy := hcwd.absolute_ofString d
  have haddress : address = some place.uri := Session.rootUri_newSession hd _ _ _ _
  have hcreated := congrArg Prod.fst
    (ProjectCall.createProject_new react ws h hnew (Path.ofString d) hidden isOpen)
  refine ⟨_, hcreated, ?_, fun hup s other type unseen => ?_⟩
  · rw [haddress, ← Path.canonical_eq_absolute_iff]
    exact Resource.uri?_standalone hcwd hplace d name .project hidden
  · rw [haddress]
    intro hsame
    apply (hcwd.canonical_ofString s).noUp
    rwa [(Resource.uri?_standalone hcwd hplace s other type unseen).1 hsame]

/-- The small host, working in a folder. -/
def Host.working : Host Empty :=
  { Host.small with platform := { (default : Platform) with files :=
      { (default : FileSystem) with cwd := Path.ofString "/w" } } }

lemma Host.isTidy_working : Host.working.platform.cwd.IsTidy :=
  Path.isTidy_ofString (by decide)

/-- The root of a new session over the small host, whose definition is the YAML server's. -/
def Host.workingRoot (d : String) : Option String :=
  (newSession 0 (Connection.make [] none) (.seed 0 0) (some d)).rootUri Host.working.platform.cwd

/-- Dots and empty names on the way make no difference. -/
theorem Host.root_address_agrees_past_dots :
    Host.working.platform.cwd.IsTidy ∧ (Host.working.workspace 0).find? "p" = none ∧
      ".//x/.y/./" ≠ "" ∧
      ∃ r, (createProject (fun _ => pure ()) 0 "p" (Path.ofString ".//x/.y/./") false true
          Host.working).1 = .ok r ∧
        r.uri? = some "file:///w/x/.y" ∧ Host.workingRoot ".//x/.y/./" = r.uri? := by
  obtain ⟨r, hcreated, hagree, -⟩ := root_address_agrees_iff (fun _ => pure ()) 0 isTidy_working
    "p" rfl false true ".//x/.y/./" (by decide) 0 (Connection.make [] none) (.seed 0 0)
  have hsame : Host.workingRoot ".//x/.y/./" = r.uri? := hagree.2 (by decide)
  refine ⟨isTidy_working, rfl, by decide, r, hcreated, ?_, hsame⟩
  rw [← hsame]
  rfl

/-- The root of a session keeps a parent reference that the location of the project at the same text
does not have. -/
theorem Host.root_address_keeps_parent_reference :
    ∃ r, (createProject (fun _ => pure ()) 0 "b" (Path.ofString "/a/../b") false true
        Host.working).1 = .ok r ∧
      r.uri? = some "file:///b" ∧ Host.workingRoot "/a/../b" = some "file:///a/../b" ∧
      Host.workingRoot "/a/../b" ≠ r.uri? := by
  have hnew : (Host.working.workspace 0).find? "b" = none := rfl
  have hcreated := congrArg Prod.fst (ProjectCall.createProject_new (fun _ => pure ()) 0
    Host.working hnew (Path.ofString "/a/../b") false true)
  have hroot : Host.workingRoot "/a/../b" = some "file:///a/../b" :=
    rfl
  refine ⟨_, hcreated, ?_, hroot, ?_⟩
  · rfl
  · rw [hroot]
    decide

end LanguageHost
