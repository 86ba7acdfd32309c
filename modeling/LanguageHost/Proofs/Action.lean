import Mathlib.Order.Defs.Unbundled
import Mathlib.Tactic.Lemma
import LanguageHost.Host.State

/-!
# Actions, step by step

An action of a host leaves a result and a host behind, whether it fails or not. What it does is
followed from host to host here: of two actions in a row either both happen or the first one fails,
and a guarded action succeeds or leaves its fault to the handler.

`Act.Lasts R` says that an action leads from every host to one that `R` relates to it. For a
relation that is reflexive and transitive this is checked step by step, so an invariant of an
action needs a look at its single steps only.
-/

namespace LanguageHost.Act

variable {γ α β : Type}

/-! ## One action after another -/

section AnyState

variable {σ : Type}

lemma get_bind (f : σ → ExceptT Fault (StateM σ) β) (h : σ) : (get >>= f) h = f h h :=
  rfl

lemma set_bind (f : PUnit → ExceptT Fault (StateM σ) β) (h h' : σ) :
    (set h' >>= f) h = f ⟨⟩ h' :=
  rfl

lemma bind_ok {a : ExceptT Fault (StateM σ) α} {f : α → ExceptT Fault (StateM σ) β} {h h' : σ}
    {x : α} (ha : a h = (.ok x, h')) : (a >>= f) h = f x h' := by
  simp only [bind, ExceptT.bind, ExceptT.mk, StateT.bind, ha]
  rfl

lemma bind_error {a : ExceptT Fault (StateM σ) α} {f : α → ExceptT Fault (StateM σ) β} {h h' : σ}
    {fault : Fault} (ha : a h = (.error fault, h')) : (a >>= f) h = (.error fault, h') := by
  simp only [bind, ExceptT.bind, ExceptT.mk, StateT.bind, ha]
  rfl

end AnyState

lemma ok_of_toOption {ε : Type} {result : Except ε α} {x : α} (hresult : result.toOption = some x) :
    result = .ok x := by
  cases result with
  | error fault => cases hresult
  | ok other => exact congrArg Except.ok (Option.some.inj hresult)

lemma tryCatch_ok {a : Act γ α} {handler : Fault → Act γ α} {h h' : Host γ} {x : α}
    (ha : a h = (.ok x, h')) : (tryCatch a handler : Act γ α) h = (.ok x, h') := by
  simp only [tryCatch, tryCatchThe, MonadExceptOf.tryCatch, ExceptT.tryCatch, ExceptT.mk, bind,
    StateT.bind, ha]
  rfl

lemma tryCatch_error {a : Act γ α} {handler : Fault → Act γ α} {h h' : Host γ} {fault : Fault}
    (ha : a h = (.error fault, h')) : (tryCatch a handler : Act γ α) h = handler fault h' := by
  simp only [tryCatch, tryCatchThe, MonadExceptOf.tryCatch, ExceptT.tryCatch, ExceptT.mk, bind,
    StateT.bind, ha]

lemma modify_bind (change : Host γ → Host γ) (f : Unit → Act γ β) (h : Host γ) :
    (modify change >>= f) h = f () (change h) :=
  rfl

lemma bind_of_fst {a : Act γ α} {f : α → Act γ β} {h : Host γ} {x : α}
    (ha : (a h).1 = .ok x) : (a >>= f) h = f x (a h).2 :=
  bind_ok (Prod.ext ha rfl)

/-- Whether it fails or not, an action leaves the same host behind when its result is replaced. -/
lemma bind_pure_snd (a : Act γ α) (f : α → β) (h : Host γ) :
    ((a >>= fun x => pure (f x)) h).2 = (a h).2 := by
  rcases hres : a h with ⟨result, h'⟩
  cases result with
  | ok x =>
    rw [bind_ok hres]
    rfl
  | error fault => rw [bind_error hres]

/-- An action succeeds as often when its result is replaced. -/
lemma isOk_bind_pure (a : Act γ α) (f : α → β) (h : Host γ) :
    ((a >>= fun x => pure (f x)) h).1.isOk = (a h).1.isOk := by
  rcases hres : a h with ⟨result, h'⟩
  cases result with
  | ok x =>
    rw [bind_ok hres]
    rfl
  | error fault =>
    rw [bind_error hres]
    rfl

/-- What is guarded by a handler that never fails never fails. -/
lemma guarded_fst {a : Act γ Unit} {handler : Fault → Act γ Unit} (h : Host γ)
    (hhandler : ∀ fault h', (handler fault h').1 = .ok ()) :
    (Act.guarded a handler h).1 = .ok () := by
  rcases hres : a h with ⟨result, h'⟩
  cases result with
  | ok x =>
    rw [Act.guarded, tryCatch_ok hres]
  | error fault =>
    rw [Act.guarded, tryCatch_error hres]
    exact hhandler fault h'

/-- What is guarded by a handler that passes every fault over succeeds, and leaves the same host
behind. -/
lemma guarded_pass (a : Act γ Unit) (h : Host γ) :
    Act.guarded a (fun _ => pure ()) h = (.ok (), (a h).2) := by
  rcases hres : a h with ⟨result, h'⟩
  cases result with
  | ok x => exact tryCatch_ok hres
  | error fault => exact tryCatch_error hres

/-! ## Relations that actions keep to -/

variable {R : Host γ → Host γ → Prop}

/-- The action leads from every host to one that the relation holds of. -/
def Lasts (R : Host γ → Host γ → Prop) (act : Act γ α) : Prop :=
  ∀ h, R h (act h).2

/-- Two actions in a row from one host, where the second is looked at only if it is reached. -/
lemma bind_leads [IsTrans (Host γ) R] {a : Act γ α} {f : α → Act γ β} {h : Host γ}
    (ha : R h (a h).2) (hf : ∀ x, (a h).1 = .ok x → R (a h).2 (f x (a h).2).2) :
    R h ((a >>= f) h).2 := by
  rcases hres : a h with ⟨result, h'⟩
  rw [hres] at ha hf
  cases result with
  | error fault =>
    rw [bind_error hres]
    exact ha
  | ok x =>
    rw [bind_ok hres]
    exact trans_of R ha (hf x rfl)

lemma tryCatch_leads [IsTrans (Host γ) R] {a : Act γ α} {handler : Fault → Act γ α} {h : Host γ}
    (ha : R h (a h).2)
    (hhandler : ∀ fault, (a h).1 = .error fault → R (a h).2 (handler fault (a h).2).2) :
    R h ((tryCatch a handler : Act γ α) h).2 := by
  rcases hres : a h with ⟨result, h'⟩
  rw [hres] at ha hhandler
  cases result with
  | error fault =>
    rw [tryCatch_error hres]
    exact trans_of R ha (hhandler fault rfl)
  | ok x =>
    rw [tryCatch_ok hres]
    exact ha

namespace Lasts

section Refl

variable [Std.Refl R]

lemma pure (x : α) : Lasts R (Pure.pure x : Act γ α) :=
  fun h => refl_of R h

lemma throw (fault : Fault) : Lasts R (MonadExcept.throw fault : Act γ α) :=
  fun h => refl_of R h

lemma ofExcept (result : Except Fault α) :
    Lasts R (Act.ofExcept result : Act γ α) := by
  cases result with
  | error fault => exact throw fault
  | ok x => exact pure x

end Refl

/-- What follows on a look at the host. -/
lemma get {f : Host γ → Act γ α} (hf : ∀ h, R h (f h h).2) :
    Lasts R (MonadState.get >>= f) :=
  fun h => hf h

lemma get_all {f : Host γ → Act γ α} (hf : ∀ h, Lasts R (f h)) :
    Lasts R (MonadState.get >>= f) :=
  fun h => hf h h

lemma modify {change : Host γ → Host γ} (hchange : ∀ h, R h (change h)) :
    Lasts R (modify change : Act γ Unit) :=
  hchange

section Trans

variable [IsTrans (Host γ) R]

lemma bind {a : Act γ α} {f : α → Act γ β} (ha : Lasts R a)
    (hf : ∀ x, Lasts R (f x)) : Lasts R (a >>= f) :=
  fun h => bind_leads (ha h) fun x _ => hf x _

lemma tryCatch {a : Act γ α} {handler : Fault → Act γ α} (ha : Lasts R a)
    (hhandler : ∀ fault, Lasts R (handler fault)) :
    Lasts R (MonadExcept.tryCatch a handler : Act γ α) :=
  fun h => tryCatch_leads (ha h) fun fault _ => hhandler fault _

lemma guarded {a : Act γ Unit} {handler : Fault → Act γ Unit}
    (ha : Lasts R a) (hhandler : ∀ fault, Lasts R (handler fault)) :
    Lasts R (Act.guarded a handler) :=
  tryCatch ha hhandler

end Trans

end Lasts

end LanguageHost.Act
