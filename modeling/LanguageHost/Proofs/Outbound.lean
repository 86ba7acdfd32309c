import Mathlib.Data.List.Induction
import Mathlib.Tactic.Lemma
import LanguageHost.Host.State

/-!
# What a server has been told

The outbound stream of a session is read back here as its server would read it: a message is taken
for a notice by its method, and what a stand-in keeps is the notice itself. From the stream one sees
which settings a server heard last, and whether it was told `initialized` before anything else.

`Opened told stream` is the order that the protocol asks for: no settings and no folders before the
first `initialized`. The flag says that the server was told so before the stream begins, which makes
the property one about appended streams.
-/

namespace LanguageHost

@[simp] lemma Text.ofString_inj {s t : String} : Text.ofString s = Text.ofString t ↔ s = t := by
  refine ⟨fun h => ?_, congrArg _⟩
  have hs := congrArg Text.toString? h
  simpa using hs

namespace Notice

/-- The notice that a message carries, if it carries one; its reader goes by the method. -/
def ofMessage? (message : Json) : Option Notice :=
  let params := (message.member? "params").getD .null
  match (message.member? "method").bind Json.text? with
  | none => none
  | some method =>
    if method = Text.ofString "initialized" then some .started
    else if method = Text.ofString "workspace/didChangeConfiguration" then
      some (.configuration ((params.member? "settings").getD .null))
    else if method = Text.ofString "workspace/didChangeWorkspaceFolders" then
      some (.folders params)
    else if method = Text.ofString "exit" then some .exiting
    else none

/-- A reader gets back the notice that was written. -/
@[simp] theorem ofMessage?_message (notice : Notice) : ofMessage? notice.message = some notice := by
  cases notice <;>
    simp [ofMessage?, message, Message.notification, Json.member?, Json.object, findMember?,
      Json.ofString, Json.text?]

@[simp] lemma ofMessage?_response (id result : Json) :
    ofMessage? (Message.response id result) = none := by
  simp [ofMessage?, Message.response, Json.member?, Json.object, findMember?]

@[simp] lemma ofMessage?_errorResponse (id : Json) (code : Int) (text : Text) :
    ofMessage? (Message.errorResponse id code text) = none := by
  simp [ofMessage?, Message.errorResponse, Json.member?, Json.object, findMember?]

/-- The requests of a session are no notices. -/
lemma ofMessage?_request {method : String} (hmethod : method = "initialize" ∨ method = "shutdown")
    (id : String) (params : Json) : ofMessage? (Message.request id method params) = none := by
  rcases hmethod with rfl | rfl <;> cases params <;>
    simp [ofMessage?, Message.request, Json.member?, Json.object, findMember?, Json.ofString,
      Json.text?]

/-- The settings that a notice carries. -/
def settings? : Notice → Option Json
  | configuration settings => some settings
  | _ => none

/-- The change of folders that a notice carries. -/
def folders? : Notice → Option Json
  | folders params => some params
  | _ => none

end Notice

namespace Sent

/-- The notice in something that was sent. -/
def notice? : Sent → Option Notice
  | notice x => some x
  | message m => Notice.ofMessage? m
  | stopped => none

lemma notice?_message (x : Notice) : (message x.message).notice? = some x := by
  simp [notice?]

/-- The settings in something that was sent. -/
def settings? (x : Sent) : Option Json :=
  x.notice?.bind Notice.settings?

/-- The change of folders in something that was sent. -/
def folders? (x : Sent) : Option Json :=
  x.notice?.bind Notice.folders?

/-- The server is told that it has started. -/
def starts (x : Sent) : Bool :=
  match x.notice? with
  | some .started => true
  | _ => false

/-- The server is told settings or folders. -/
def informs (x : Sent) : Bool :=
  x.settings?.isSome || x.folders?.isSome

lemma informs_eq_false {x : Sent} :
    x.informs = false ↔ x.settings? = none ∧ x.folders? = none := by
  simp [informs]

/-- What is neither a notice nor carries one. -/
lemma informs_of_notice? {x : Sent} (hx : x.notice? = none) : x.informs = false := by
  simp [informs, settings?, folders?, hx]

end Sent

/-! ## The order of a stream -/

/-- Nothing informs the server before it is told that it has started. The flag says that it was
told so before. -/
def Opened : Bool → List Sent → Prop
  | _, [] => True
  | told, x :: rest => (x.informs = true → told = true) ∧ Opened (told || x.starts) rest

instance decidableOpened : (told : Bool) → (l : List Sent) → Decidable (Opened told l)
  | _, [] => .isTrue trivial
  | told, x :: rest =>
    have := decidableOpened (told || x.starts) rest
    inferInstanceAs (Decidable (_ ∧ _))

@[simp] lemma opened_nil (told : Bool) : Opened told [] := trivial

/-- Whoever was told before may be told anything. -/
@[simp] lemma opened_true (l : List Sent) : Opened true l := by
  induction l with
  | nil => trivial
  | cons x rest ih => exact ⟨fun _ => rfl, by simpa using ih⟩

lemma opened_append (told : Bool) (l l' : List Sent) :
    Opened told (l ++ l') ↔ Opened told l ∧ Opened (told || l.any Sent.starts) l' := by
  induction l generalizing told with
  | nil => simp
  | cons x rest ih => simp [Opened, ih, and_assoc, Bool.or_assoc]

lemma Opened.mono {told : Bool} {l : List Sent} (hl : Opened false l) : Opened told l := by
  cases told with
  | false => exact hl
  | true => exact opened_true l

lemma Opened.append {told : Bool} {l l' : List Sent} (hl : Opened told l) (hl' : Opened told l') :
    Opened told (l ++ l') := by
  refine (opened_append told l l').2 ⟨hl, ?_⟩
  cases told with
  | false =>
    cases l.any Sent.starts with
    | false => exact hl'
    | true => exact opened_true l'
  | true => exact opened_true l'

lemma opened_cons_starts {x : Sent} {l : List Sent} (hx : x.informs = false)
    (hstarts : x.starts = true) (told : Bool) : Opened told (x :: l) := by
  refine ⟨fun h => ?_, ?_⟩
  · rw [hx] at h
    cases h
  · simp [hstarts]

/-- The order in plain words: in front of everything that informs the server stands an
`initialized`. -/
theorem opened_iff (l : List Sent) :
    Opened false l ↔ ∀ before x after, l = before ++ x :: after → x.informs = true →
      ∃ y ∈ before, y.starts = true := by
  constructor
  · rintro hl before x after rfl hx
    have hafter := ((opened_append false before (x :: after)).1 hl).2
    have htold := hafter.1 hx
    simpa using htold
  · intro hall
    induction l using List.reverseRecOn with
    | nil => trivial
    | append_singleton l x ih =>
      refine (opened_append false l [x]).2
        ⟨ih fun before y after hl hy => ?_, fun hx => ?_, trivial⟩
      · exact hall before y (after ++ [x]) (by simp [hl]) hy
      · obtain ⟨y, hy, hstarts⟩ := hall l x [] rfl hx
        simpa using ⟨y, hy, hstarts⟩

/-- A server that is not told to have started is told nothing. -/
lemma Opened.unheard {l : List Sent} (hopened : Opened false l)
    (hstarts : l.any Sent.starts = false) : ∀ x ∈ l, x.informs = false := by
  intro x hx
  obtain ⟨before, after, rfl⟩ := List.append_of_mem hx
  by_contra hinforms
  obtain ⟨y, hy, hys⟩ :=
    (opened_iff _).1 hopened before x after rfl (by simpa using hinforms)
  exact List.any_eq_false.1 hstarts y (List.mem_append_left _ hy) hys

/-! ## The last settings -/

/-- The settings that a stream carries last. -/
def lastSettings (l : List Sent) : Option Json :=
  (l.filterMap Sent.settings?).getLast?

lemma lastSettings_append (l l' : List Sent) :
    lastSettings (l ++ l') = (lastSettings l').or (lastSettings l) := by
  simp [lastSettings, List.filterMap_append, List.getLast?_append]

lemma lastSettings_append_ne_none {l l' : List Sent}
    (h : lastSettings l ≠ none ∨ lastSettings l' ≠ none) : lastSettings (l ++ l') ≠ none := by
  intro hnone
  rw [lastSettings_append, Option.or_eq_none_iff] at hnone
  exact h.elim (fun hl => hl hnone.2) fun hl' => hl' hnone.1

lemma lastSettings_cons_ne_none {x : Sent} {settings : Json}
    (hx : x.notice? = some (.configuration settings)) (l : List Sent) :
    lastSettings (x :: l) ≠ none := by
  refine lastSettings_append_ne_none (l := [x]) (Or.inl ?_)
  simp [lastSettings, Sent.settings?, hx, Notice.settings?]

/-- Where all settings of a stream are the same, the last ones are these. -/
lemma lastSettings_eq {l : List Sent} {settings : Json} (hl : lastSettings l ≠ none)
    (hall : ∀ x ∈ l, ∀ j, x.settings? = some j → j = settings) :
    lastSettings l = some settings := by
  obtain ⟨j, hj⟩ := Option.ne_none_iff_exists'.1 hl
  have hmem := List.mem_of_getLast? hj
  obtain ⟨x, hx, hxj⟩ := List.mem_filterMap.1 hmem
  rw [hj, hall x hx j hxj]

/-! ## The stream of a session -/

namespace Host

variable {γ : Type}

/-- What a session has sent, in order. -/
def said (n : Nat) (h : Host γ) : List Sent :=
  h.sent.filterMap fun entry => if entry.1 = n then some entry.2 else none

/-- The session has told its server that it has started. -/
def greeted (n : Nat) (h : Host γ) : Bool :=
  (h.said n).any Sent.starts

lemma said_append {h h' : Host γ} {n : Nat} {l : List Sent}
    (hsent : h'.sent = h.sent ++ l.map (Prod.mk n)) : h'.said n = h.said n ++ l := by
  rw [said, said, hsent, List.filterMap_append, List.filterMap_map]
  congr 1
  simp [Function.comp_def]

lemma said_append_other {h h' : Host γ} {n other : Nat} {l : List Sent} (hne : n ≠ other)
    (hsent : h'.sent = h.sent ++ l.map (Prod.mk n)) : h'.said other = h.said other := by
  rw [said, said, hsent, List.filterMap_append, List.filterMap_map]
  simp [Function.comp_def, hne]

end Host

end LanguageHost
