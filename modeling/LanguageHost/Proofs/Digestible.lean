import Mathlib.Tactic.Lemma
import LanguageHost.Server.Failure

/-!
# Messages that can be looked into

A server may send any value. Whatever looks into one may find that it does not have the shape that
is expected, and raises a fault then (`LooksInto`). A message is digestible if all that look into it
while it is taken in can do so: the test for an answer to the first request, and the endpoint. That
depends on the requests that are not answered yet, since only the answer to one of these is looked
into further, so digestible is a property of a message in its turn.
-/

namespace LanguageHost

/-! ## Faults about shapes -/

/-- The fault says that a value does not have the shape that was expected. A reader would pass over
a message that cannot be decoded, but not over one of these. -/
def Fault.IsMisshapen (fault : Fault) : Prop :=
  fault.className ∈ ["KeyError", "TypeError", "AttributeError"]

lemma Fault.misuse_isMisshapen (m : Misuse) : (Fault.misuse m).IsMisshapen := by
  simp [Fault.IsMisshapen, Fault.className]

lemma Fault.noMember_isMisshapen (owner member : String) :
    (Fault.noMember owner member).IsMisshapen := by
  simp [Fault.IsMisshapen, Fault.className]

/-- If there is no result, then because of the shape of a value. -/
def LooksInto {α : Type} (result : Except Fault α) : Prop :=
  ∀ fault, result = .error fault → fault.IsMisshapen

namespace LooksInto

variable {α β : Type}

lemma ok (x : α) : LooksInto (.ok x) := by
  intro fault hfault
  cases hfault

lemma error {fault : Fault} (hfault : fault.IsMisshapen) :
    LooksInto (.error fault : Except _ α) := by
  intro other hother
  cases hother
  exact hfault

lemma bind {result : Except Fault α} {next : α → Except Fault β} (ha : LooksInto result)
    (hnext : ∀ x, result = .ok x → LooksInto (next x)) : LooksInto (result >>= next) := by
  cases result with
  | error fault => exact error (ha fault rfl)
  | ok x => exact hnext x rfl

end LooksInto

namespace Json

lemma looksInto_require (message : Json) (name : String) : LooksInto (message.require name) := by
  unfold require
  split
  · split
    · exact .ok _
    · exact .error (by simp [Fault.IsMisshapen, Fault.className])
  · exact .error (Fault.misuse_isMisshapen _)

lemma require_ok_iff (message : Json) (name : String) :
    (∃ x, message.require name = .ok x) ↔ (message.member? name).isSome = true := by
  unfold require member?
  cases message with
  | obj members =>
    dsimp only
    cases findMember? (Text.ofString name) members <;> simp
  | _ => simp

lemma require_of_member? {message : Json} {name : String} {x : Json}
    (hfound : message.member? name = some x) : message.require name = .ok x := by
  unfold member? at hfound
  unfold require
  cases message with
  | obj members =>
    dsimp only at hfound ⊢
    rw [hfound]
  | _ => cases hfound

lemma require_of_member?_none {message : Json} {name : String}
    (hnone : message.member? name = none) : ∃ fault, message.require name = .error fault := by
  cases hrequire : message.require name with
  | error fault => exact ⟨fault, rfl⟩
  | ok x =>
    have hsome := (require_ok_iff message name).1 ⟨x, hrequire⟩
    rw [hnone] at hsome
    cases hsome

lemma looksInto_lookUp (message : Json) (name : String) : LooksInto (message.lookUp name) := by
  unfold lookUp
  split
  · exact .ok _
  · exact .error (Fault.noMember_isMisshapen _ _)

lemma looksInto_holds (message : Json) (name : String) : LooksInto (message.holds name) := by
  unfold holds
  split
  · exact .ok _
  · exact .ok _
  · exact .ok _
  · exact .error (Fault.misuse_isMisshapen _)

end Json

namespace Failure

lemma looksInto_kindOf (code : Json) : LooksInto (kindOf code) := by
  unfold kindOf
  split
  · exact .ok _
  · split
    · exact .error (Fault.misuse_isMisshapen _)
    · split
      · exact .ok _
      · exact .ok _

lemma looksInto_checkFields (kind : RpcKind) (members : List (Text × Json)) :
    LooksInto (checkFields kind members) := by
  unfold checkFields
  split
  · exact .ok _
  · split
    · exact .error (Fault.misuse_isMisshapen _)
    · exact .error (Fault.misuse_isMisshapen _)

/-- An error that no failure can be made of has the wrong shape. -/
lemma looksInto_ofError (error : Json) : LooksInto (ofError error) := by
  have hclass : ∀ owner member : String,
      LooksInto (throw (Fault.noClassMember owner member) : Except Fault Fault) :=
    fun owner member => .error (by simp [Fault.IsMisshapen, Fault.className])
  refine .bind (Json.looksInto_require error "code") fun code _ => ?_
  refine .bind (looksInto_kindOf code) fun kind _ => ?_
  cases error with
  | obj members =>
    refine .bind (looksInto_checkFields kind members) fun _ _ => ?_
    dsimp only
    split
    · exact .error (Fault.misuse_isMisshapen _)
    · split
      · exact hclass _ _
      · split
        · exact hclass _ _
        · exact .ok _
  | _ => exact .error (Fault.misuse_isMisshapen _)

end Failure

/-! ## Messages -/

namespace Message

/-- The message names the version that endpoints talk in. -/
def IsVersioned (message : Json) : Prop :=
  (message.member? "jsonrpc").bind Json.text? = some (Text.ofString version)

instance (message : Json) : Decidable (IsVersioned message) :=
  inferInstanceAs (Decidable (_ = _))

/-- The value under a name, null if there is none. -/
def part (message : Json) (name : String) : Json :=
  (message.member? name).getD .null

/-- A notification is looked into for its method, and one that cancels a request for the id. -/
def Notifies (method params : Json) : Prop :=
  ∃ name : Text, method = .str name ∧
    (name = Text.ofString "$/cancelRequest" → (params.member? "id").isSome = true)

/-- A response is looked into only as long as requests are not answered: its id has to be one to
look up, and if it is that of a request, its error has to be a failure. -/
def Settles (pending : List String) (id error : Json) : Prop :=
  pending = [] ∨ id.isKey = true ∧
    ((∃ name ∈ pending, id.text? = some (Text.ofString name)) →
      error = .null ∨ ∃ failure, Failure.ofError error = .ok failure)

/-- A message that a session can take in while requests with these ids are not answered. An object
without the version is passed over; one with an id and a method is a request, and refusing that is
no fault. What is no object has to be something to look into, in which no version is found, and an
id only beside a method. -/
def Digestible (pending : List String) : Json → Prop
  | .obj members => IsVersioned (.obj members) →
      (Json.member? "id" (.obj members) = none →
        ∃ method, Json.member? "method" (.obj members) = some method ∧
          Notifies method (part (.obj members) "params")) ∧
      ∀ id, Json.member? "id" (.obj members) = some id →
        Json.member? "method" (.obj members) = none →
          Settles pending id (part (.obj members) "error")
  | message => message.holds "jsonrpc" = .ok false ∧
      (message.holds "id" = .ok true → message.holds "method" = .ok true)

/-- The requests that are not answered after a response with an id. -/
def settledBy (pending : List String) (id : Json) : List String :=
  (pending.find? fun name => id.text? = some (Text.ofString name)).elim pending pending.erase

/-- The requests that are not answered after a message. -/
def pendingAfter (pending : List String) (message : Json) : List String :=
  if IsVersioned message ∧ message.member? "method" = none then
    (message.member? "id").elim pending (settledBy pending)
  else pending

/-- Each of some messages can be taken in, when it comes. -/
def AllDigestible : List String → List Json → Prop
  | _, [] => True
  | pending, message :: rest =>
    Digestible pending message ∧ AllDigestible (pendingAfter pending message) rest

/-! ### The first look -/

lemma looksInto_isStartResult (message : Json) : LooksInto (isStartResult message) := by
  refine .bind (Json.looksInto_holds message "id") fun hasId _ => ?_
  split
  · exact .ok _
  · refine .bind (Json.looksInto_holds message "method") fun hasMethod _ => ?_
    split
    · exact .ok _
    · exact .bind (Json.looksInto_lookUp message "result") fun _ _ => .ok _

/-- The test for an answer to the first request looks into every object. -/
lemma isStartResult_obj (members : List (Text × Json)) :
    ∃ isStart, isStartResult (.obj members) = .ok isStart := by
  have hid : Json.holds "id" (.obj members) = .ok (Json.member? "id" (.obj members)).isSome := rfl
  have hmethod : Json.holds "method" (.obj members) =
    .ok (Json.member? "method" (.obj members)).isSome := rfl
  unfold isStartResult
  rw [hid, hmethod]
  cases (Json.member? "id" (.obj members)).isSome with
  | false => exact ⟨false, rfl⟩
  | true =>
    cases (Json.member? "method" (.obj members)).isSome with
    | true => exact ⟨false, rfl⟩
    | false => exact ⟨_, rfl⟩

/-- What is no object is looked into like a list of names, or not at all. -/
lemma holds_cases {message : Json} (hobj : ∀ members, message ≠ .obj members) :
    (∃ names : String → Bool, ∀ name, message.holds name = .ok (names name)) ∨
      ∀ name, ∃ fault, message.holds name = .error fault := by
  cases message with
  | obj members => exact absurd rfl (hobj members)
  | arr elements => exact Or.inl ⟨_, fun _ => rfl⟩
  | str text => exact Or.inl ⟨_, fun _ => rfl⟩
  | null => exact Or.inr fun _ => ⟨_, rfl⟩
  | bool value => exact Or.inr fun _ => ⟨_, rfl⟩
  | int value => exact Or.inr fun _ => ⟨_, rfl⟩
  | float value => exact Or.inr fun _ => ⟨_, rfl⟩

lemma lookUp_of_not_obj {message : Json} (hobj : ∀ members, message ≠ .obj members)
    (name : String) : ∃ fault, message.lookUp name = .error fault := by
  cases message with
  | obj members => exact absurd rfl (hobj members)
  | _ => exact ⟨_, rfl⟩

lemma require_of_not_obj {message : Json} (hobj : ∀ members, message ≠ .obj members)
    (name : String) : ∃ fault, message.require name = .error fault := by
  cases message with
  | obj members => exact absurd rfl (hobj members)
  | _ => exact ⟨_, rfl⟩

lemma digestible_of_not_obj {message : Json} (hobj : ∀ members, message ≠ .obj members)
    (pending : List String) : Digestible pending message ↔ message.holds "jsonrpc" = .ok false ∧
      (message.holds "id" = .ok true → message.holds "method" = .ok true) := by
  cases message with
  | obj members => exact absurd rfl (hobj members)
  | _ => exact Iff.rfl

lemma isStartResult_ok_iff {message : Json} (hobj : ∀ members, message ≠ .obj members) :
    (∃ isStart, isStartResult message = .ok isStart) ↔
      (∃ hasId, message.holds "id" = .ok hasId) ∧
        (message.holds "id" = .ok true → message.holds "method" = .ok true) := by
  obtain ⟨misfit, hlookUp⟩ := lookUp_of_not_obj hobj "result"
  rcases holds_cases hobj with ⟨names, hnames⟩ | hnone
  · unfold isStartResult
    rw [hnames "id", hnames "method", hlookUp]
    cases hid : names "id" with
    | false => simp [bind, Except.bind, pure, Except.pure]
    | true => cases hmethod : names "method" <;> simp [bind, Except.bind, pure, Except.pure]
  · obtain ⟨fault, hfault⟩ := hnone "id"
    unfold isStartResult
    rw [hfault]
    simp [bind, Except.bind]

end Message

end LanguageHost
