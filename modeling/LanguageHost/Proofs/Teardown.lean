import LanguageHost.Proofs.Greeting

/-!
# What a session still holds once it is taken down

A session that is stopped, or whose start failed, releases its endpoint, the stream that it writes
to, the process, the thread and the stream that it reads from, in this order. A server may do what
it likes meanwhile (`Conduct`): send anything, close its input, or come to its end. All of this is
released unless the stream holds bytes that could not be sent. Closing it then fails, and what comes
behind it stays held until the next stop, which no longer finds any such bytes.

Two relations follow the session to the point where its stream is closed: `Host.Keeps` for what it
holds, and, once the endpoint is gone, `Host.StaysShut` for the bytes in the stream. Nothing more is
asked of what goes on over a line while a session waits (`Line.Tends`).
-/

namespace LanguageHost

open Act Host

variable {γ : Type} {n m : Nat} {h h' h'' : Host γ}

namespace Session

/-! ## Servers that do what they like -/

/-- What a server does while its session is started or stopped: what it sends at each moment, and
what becomes of its process before a message reaches it. What was not sent to it is on the near side
of the connection, where it changes nothing. -/
structure Conduct (γ : Type) where
  mail : Mail
  fate : Nat → Host γ → Child → Child
  unsent : ∀ n h child, (fate n h child).unsent = child.unsent

/-- The server of a session goes on by itself. -/
def goOn (c : Conduct γ) (n : Nat) : Act γ Unit := do
  let h ← get
  if let some child := (h.session n).provider.child? then
    Act.modifySession n fun s => { s with provider := s.provider.setChild (c.fate n h child) }

/-- The wire to servers that go on by themselves until a message reaches them. -/
def Conduct.wire (c : Conduct γ) : Wire γ := fun n message => do
  goOn c n
  Wire.writeToChild n message

/-- Takes in messages, each for the session with a number. A fault is passed over. -/
def takeIn (wire : Wire γ) : List (Nat × Json) → Act γ Unit
  | [] => pure ()
  | (n, message) :: rest => do
    Act.guarded (Wire.consume wire n message) fun _ => pure ()
    takeIn wire rest

/-- The line from a session with a number to a server that does what it likes. -/
def Line.served (c : Conduct γ) (n : Nat) : Line γ where
  wire := c.wire
  meanwhile moment := do
    takeIn c.wire (c.mail moment)
    goOn c n

/-! ## What is held -/

/-- The stream that the session writes to holds bytes that could not be sent. -/
def clogged (s : Session) : Bool :=
  s.held.writer && s.provider.child?.any Child.unsent

/-- Nothing of the connection is held any more. -/
structure Released (s : Session) : Prop where
  endpoint : s.endpoint = none
  held : s.held = .nothing
  process : s.provider.process = none

/-- Only the endpoint is released, and the stream is closed without its bytes. -/
structure Stuck (held : Holdings) (s : Session) : Prop where
  endpoint : s.endpoint = none
  held : s.held = held
  process : s.provider.process ≠ none
  unclogged : s.clogged = false

/-- What is left of a session that was taken down, by whether its stream was clogged. -/
def TakenDown (clogged : Bool) (held : Holdings) (s : Session) : Prop :=
  if clogged then s.Stuck held else s.Released

/-- The fault of closing a stream, and otherwise a result. -/
def closing (clogged : Bool) (result : Except Fault Unit) : Except Fault Unit :=
  if clogged then .error .brokenPipe else result

/-- What a stop does before it releases anything. -/
def leave (line : Line γ) (n : Nat) : Act γ Unit := do
  modify (Host.unregister n)
  line.meanwhile .leaving
  farewell line n
  line.meanwhile .dismissed

/-- What a start does up to the answer of the server. -/
def approach (line : Line γ) (n : Nat) (timeout : Json) : Act γ Unit := do
  launch n
  line.meanwhile .connected
  greet line n timeout

/-- What a start that fails behind the launch does before it releases anything. -/
def giveUp (line : Line γ) (n : Nat) (timeout : Json) : Act γ Unit := do
  launch n
  line.meanwhile .connected
  Act.guarded (greet line n timeout) fun _ => pure ()
  modify (Host.unregister n)
  line.meanwhile .leaving

/-- Closes the stream, and releases what comes behind it: the process, the thread and the reader. -/
def letGo (n : Nat) : Act γ Unit := do
  releaseWriter n
  let s := (← get).session n
  let provider ← Act.onPlatform (s.provider.stop Connection.grace)
  Act.modifySession n fun s =>
    { s with
      provider
      reader := { s.reader with reading := false }
      held := { s.held with reader := false, thread := false } }

/-- Stops a session again and again, each time over another line. A fault is passed over. -/
def stopAgain (n : Nat) : List (Conduct γ) → Act γ Unit
  | [] => pure ()
  | c :: rest => do
    Act.guarded (stop (.served c n) n) fun _ => pure ()
    stopAgain n rest

end Session

open Session

namespace Host

/-- The session has the same peer and holds the same. -/
structure Keeps (n : Nat) (h h' : Host γ) : Prop where
  peer : (h'.session n).peer = (h.session n).peer
  held : (h'.session n).held = (h.session n).held

instance (n : Nat) : Std.Refl (Keeps (γ := γ) n) where
  refl _ := ⟨rfl, rfl⟩

instance (n : Nat) : IsTrans (Host γ) (Keeps n) where
  trans _ _ _ a b := ⟨b.peer.trans a.peer, b.held.trans a.held⟩

lemma Keeps.isWired (a : Keeps n h h') : (h'.session n).isWired = (h.session n).isWired := by
  rw [Session.isWired, Session.isWired, a.peer]

/-- Without an endpoint nothing more gets into the stream. -/
def StaysShut (n : Nat) (h h' : Host γ) : Prop :=
  (h.session n).endpoint = none →
    (h'.session n).endpoint = none ∧ (h'.session n).clogged = (h.session n).clogged

instance (n : Nat) : Std.Refl (StaysShut (γ := γ) n) where
  refl _ := fun hshut => ⟨hshut, rfl⟩

instance (n : Nat) : IsTrans (Host γ) (StaysShut n) where
  trans _ _ _ a b := fun hshut =>
    have ⟨hshut', hsame⟩ := a hshut
    have ⟨hshut'', hsame'⟩ := b hshut'
    ⟨hshut'', hsame'.trans hsame⟩

/-- Without an endpoint the session is left alone. -/
def Unmoved (n : Nat) (h h' : Host γ) : Prop :=
  (h.session n).endpoint = none → h'.session n = h.session n

instance (n : Nat) : Std.Refl (Unmoved (γ := γ) n) where
  refl _ := fun _ => rfl

instance (n : Nat) : IsTrans (Host γ) (Unmoved n) where
  trans _ _ _ a b := fun hshut => by
    have hsame := a hshut
    rw [b (by rw [hsame]; exact hshut), hsame]

lemma Unmoved.staysShut (a : Unmoved n h h') : StaysShut n h h' := by
  intro hshut
  rw [a hshut]
  exact ⟨hshut, rfl⟩

lemma keeps_setSession {s : Session} (hpeer : s.peer = (h.session m).peer)
    (hheld : s.held = (h.session m).held) : Keeps n h (h.setSession m s) := by
  have hsession := session_setSession m n s h
  split at hsession
  · rename_i hm
    rw [hm.1] at hsession ⊢
    exact ⟨by rw [hsession, hpeer], by rw [hsession, hheld]⟩
  · exact ⟨by rw [hsession], by rw [hsession]⟩

lemma staysShut_setSession {s : Session} (hendpoint : s.endpoint = (h.session m).endpoint)
    (hclogged : s.clogged = (h.session m).clogged) : StaysShut n h (h.setSession m s) := by
  intro hshut
  have hsession := session_setSession m n s h
  split at hsession
  · rename_i hm
    rw [hm.1] at hsession hshut ⊢
    exact ⟨by rw [hsession, hendpoint, hshut], by rw [hsession, hclogged]⟩
  · exact ⟨by rw [hsession, hshut], by rw [hsession]⟩

lemma keeps_unregister (n : Nat) (h : Host γ) : Keeps n h (h.unregister n) :=
  ⟨rfl, rfl⟩

end Host

namespace Wire

/-! ## Messages for a session without an endpoint -/

lemma unmoved_notify (wire : Wire γ) (n : Nat) (notice : Notice) :
    Lasts (Unmoved (γ := γ) n) (notify wire n notice) := by
  intro h hshut
  rw [notify_eq]
  cases (h.session n).peer with
  | standIn failing stopFault =>
    dsimp only
    split <;> rfl
  | _ =>
    dsimp only
    rw [hshut]
    rfl

/-- Where no endpoint is open, the hook may be called, and that is all. -/
lemma unmoved_consume (wire : Wire γ) (n : Nat) (message : Json) :
    Lasts (Unmoved (γ := γ) n) (consume wire n message) := by
  have hwelcome : Lasts (Unmoved (γ := γ) n) (welcome wire n message) := by
    intro h hshut
    rw [welcome_eq, if_neg (by simp [hshut])]
    rfl
  refine .bind hwelcome fun _ h hshut => ?_
  have hsame : (behindHook wire n message h).session n = h.session n :=
    leads_behindHook (R := Unmoved n) (fun _ _ _ => rfl) (unmoved_notify wire n) message h hshut
  rw [attend_eq, if_neg (by simp [hsame, hshut])]
  exact hsame

end Wire

namespace Session

/-! ## Up to the stream -/

variable {c : Conduct γ}

/-- What goes on by itself is only the child. -/
lemma goOn_run (c : Conduct γ) (n : Nat) (h : Host γ) :
    goOn c n h = (.ok (), h) ∨ ∃ child, (h.session n).provider.child? = some child ∧
      goOn c n h = (.ok (), h.setSession n
        { h.session n with
          provider := (h.session n).provider.setChild (c.fate n h child) }) := by
  unfold goOn
  rw [get_bind]
  cases hchild : (h.session n).provider.child? with
  | none => exact Or.inl rfl
  | some child => exact Or.inr ⟨child, rfl, rfl⟩

lemma goOn_ok (c : Conduct γ) (n : Nat) (h : Host γ) : (goOn c n h).1 = .ok () := by
  rcases goOn_run c n h with hrun | ⟨child, -, hrun⟩
  · rw [hrun]
  · rw [hrun]

lemma keeps_goOn (c : Conduct γ) (m : Nat) : Lasts (Keeps (γ := γ) n) (goOn c m) := by
  intro h
  rcases goOn_run c m h with hrun | ⟨child, -, hrun⟩
  · rw [hrun]
    exact refl_of _ h
  · rw [hrun]
    exact keeps_setSession rfl rfl

lemma staysShut_goOn (c : Conduct γ) (m : Nat) : Lasts (StaysShut (γ := γ) n) (goOn c m) := by
  intro h
  rcases goOn_run c m h with hrun | ⟨child, hchild, hrun⟩
  · rw [hrun]
    exact refl_of _ h
  · rw [hrun]
    refine staysShut_setSession rfl ?_
    show ((h.session m).held.writer && (c.fate m h child).unsent) = (h.session m).clogged
    rw [c.unsent, clogged, hchild, Option.any_some]

/-- A message that was sent to a server that goes on by itself is sent all the same. -/
lemma Conduct.prompt (c : Conduct γ) : Wire.Prompt false c.wire := by
  intro n message h hplain
  have hwrite (h' : Host γ) (hgone : goOn c n h = (.ok (), h')) :
      c.wire n message h = Wire.writeToChild n message h' := bind_ok hgone
  rcases goOn_run c n h with hrun | ⟨child, -, hrun⟩
  · rw [hwrite _ hrun]
    exact Wire.prompt_writeToChild n message h hplain
  · rw [hwrite _ hrun]
    set gone : Session :=
      { h.session n with provider := (h.session n).provider.setChild (c.fate n h child) }
    have hset : Talk false n (h.noteSent n (.message message))
        ((h.setSession n gone).noteSent n (.message message)) [] :=
      talk_setSession (h := h.noteSent n (.message message)) false
        ⟨rfl, rfl, rfl, rfl, rfl, rfl, rfl⟩
    exact trans_of (Chats false n false) (hset.chats false)
      (Wire.prompt_writeToChild n message _ hplain)

lemma keeps_of_sameEnd (hsame : SameEnd (h.session n) (h'.session n)) : Keeps n h h' :=
  ⟨hsame.peer, hsame.held⟩

lemma keeps_consume (c : Conduct γ) (m : Nat) (message : Json) :
    Lasts (Keeps (γ := γ) n) (Wire.consume c.wire m message) := by
  intro h
  obtain ⟨l, a, -⟩ := Wire.Usable.talk_consume (Or.inr c.prompt) message h
  exact keeps_of_sameEnd (a.sameEnd n)

lemma staysShut_consume (c : Conduct γ) (m : Nat) (message : Json) :
    Lasts (StaysShut (γ := γ) n) (Wire.consume c.wire m message) := by
  intro h
  by_cases hm : n = m
  · subst hm
    exact (Wire.unmoved_consume c.wire n message h).staysShut
  · obtain ⟨l, a, -⟩ := Wire.Usable.talk_consume (n := m) (Or.inr c.prompt) message h
    exact Unmoved.staysShut fun _ => a.others n hm

/-- What each message keeps, the mail keeps. -/
lemma lasts_takeIn {R : Host γ → Host γ → Prop} [Std.Refl R] [IsTrans (Host γ) R] {wire : Wire γ}
    (hconsume : ∀ m message, Lasts R (Wire.consume wire m message))
    (messages : List (Nat × Json)) : Lasts R (takeIn wire messages) := by
  induction messages with
  | nil => exact .pure ()
  | cons entry rest ih =>
    exact .bind (.guarded (hconsume entry.1 entry.2) fun _ => .pure ()) fun _ => ih

lemma takeIn_cons (wire : Wire γ) (m : Nat) (message : Json) (rest : List (Nat × Json))
    (h : Host γ) : takeIn wire ((m, message) :: rest) h =
      takeIn wire rest (Wire.consume wire m message h).2 :=
  bind_ok (guarded_pass (Wire.consume wire m message) h)

/-- Taking in mail always succeeds. -/
lemma takeIn_ok (wire : Wire γ) (messages : List (Nat × Json)) (h : Host γ) :
    (takeIn wire messages h).1 = .ok () := by
  induction messages generalizing h with
  | nil => rfl
  | cons entry rest ih =>
    rw [takeIn_cons]
    exact ih _

lemma meanwhile_ok (c : Conduct γ) (moment : Moment) (h : Host γ) :
    ((Line.served c n).meanwhile moment h).1 = .ok () :=
  (congrArg Prod.fst (bind_of_fst (takeIn_ok c.wire (c.mail moment) h))).trans (goOn_ok c n _)

lemma keeps_meanwhile (c : Conduct γ) (moment : Moment) :
    Lasts (Keeps (γ := γ) n) ((Line.served c n).meanwhile moment) :=
  .bind (lasts_takeIn (keeps_consume c) (c.mail moment)) fun _ => keeps_goOn c n

lemma staysShut_meanwhile (c : Conduct γ) (moment : Moment) :
    Lasts (StaysShut (γ := γ) n) ((Line.served c n).meanwhile moment) :=
  .bind (lasts_takeIn (staysShut_consume c) (c.mail moment)) fun _ => staysShut_goOn c n

lemma keeps_modifySession {change : Session → Session} (hpeer : ∀ s, (change s).peer = s.peer)
    (hheld : ∀ s, (change s).held = s.held) :
    Lasts (Keeps (γ := γ) n) (Act.modifySession m change) :=
  .modify fun _ => keeps_setSession (hpeer _) (hheld _)

lemma keeps_wire (c : Conduct γ) (message : Json) :
    Lasts (Keeps (γ := γ) n) (c.wire n message) := by
  refine .bind (keeps_goOn c n) fun _ h => ?_
  have hwritten := (Wire.writeToChild_run n message h).2
  exact keeps_of_sameEnd hwritten.self

/-- Time passes on the line without harm: what the session holds is kept, and nothing gets into the
stream any more once its endpoint is gone. -/
structure Line.Tends (line : Line γ) (n : Nat) : Prop where
  passes : ∀ moment h, (line.meanwhile moment h).1 = .ok ()
  keeps : ∀ moment, Lasts (Keeps n) (line.meanwhile moment)
  staysShut : ∀ moment, Lasts (StaysShut n) (line.meanwhile moment)
  wire : ∀ message, Lasts (Keeps n) (line.wire n message)

lemma tends_served (c : Conduct γ) (n : Nat) : (Line.served c n).Tends n :=
  ⟨meanwhile_ok c, keeps_meanwhile c, staysShut_meanwhile c, keeps_wire c⟩

variable {line : Line γ}

lemma keeps_request (hline : line.Tends n) (method : String) (params : Json) :
    Lasts (Keeps (γ := γ) n) (request line.wire n method params) := by
  refine .get_all fun h => ?_
  dsimp only
  cases (h.session n).endpoint with
  | none => exact .throw _
  | some endpoint =>
    exact .bind (keeps_modifySession (fun _ => rfl) fun _ => rfl)
      fun _ => .bind (hline.wire _) fun _ => .pure _

lemma keeps_answer? (id : String) : Lasts (Keeps (γ := γ) n) (answer? n id) := by
  intro h
  obtain ⟨l, a, -⟩ := lasts_answer? (n := n) id h
  exact keeps_of_sameEnd a.self

lemma keeps_farewell (hline : line.Tends n) : Lasts (Keeps (γ := γ) n) (farewell line n) := by
  refine .get_all fun h => ?_
  split
  · refine .guarded (.bind (keeps_request hline _ _) fun id => .bind (hline.keeps .asked)
      fun _ => .bind (keeps_answer? id) fun answer => ?_) fun fault => .get fun h' => ⟨rfl, rfl⟩
    cases answer with
    | none => exact .throw _
    | some result => exact hline.wire _
  · exact .pure ()

lemma keeps_greet (hline : line.Tends n) (timeout : Json) :
    Lasts (Keeps (γ := γ) n) (greet line n timeout) := by
  refine .get_all fun h => .bind (keeps_request hline _ _) fun id => .bind (hline.keeps .asked)
    fun _ => .bind (keeps_answer? id) fun answer => ?_
  cases answer with
  | none =>
    dsimp only
    cases Waiting.fault? timeout with
    | none => exact .throw _
    | some fault => exact .bind (.throw _) fun _ => .throw _
  | some result =>
    exact .bind (.ofExcept _) fun capabilities => keeps_modifySession (fun _ => rfl) fun _ => rfl

lemma farewell_ok (line : Line γ) (n : Nat) (h : Host γ) : (farewell line n h).1 = .ok () := by
  unfold farewell
  rw [get_bind]
  split
  · exact guarded_fst h fun _ _ => rfl
  · rfl

/-! ## From the stream on -/

/-- Closing the child's input fails if bytes were left unsent. They are lost either way. -/
lemma closeInput_run (hn : n < h.sessions.length) :
    let unsent := (h.session n).provider.child?.any Child.unsent
    (closeInput n h).1 = closing unsent (.ok ()) ∧
      ∃ provider, (closeInput n h).2.session n = { h.session n with provider } ∧
        provider.child?.any Child.unsent = false ∧ (unsent = true → provider.process ≠ none) := by
  intro unsent
  cases hchild : (h.session n).provider.child? with
  | none =>
    have hunsent : unsent = false := by simp [unsent, hchild]
    have hrun : closeInput n h = (.ok (), h) := by
      unfold closeInput
      rw [get_bind, hchild]
      rfl
    rw [hrun, hunsent]
    exact ⟨rfl, (h.session n).provider, rfl, by rw [hchild]; rfl, by simp⟩
  | some child =>
    have hunsent : unsent = child.unsent := by simp [unsent, hchild]
    rcases hclose : child.closeInput with ⟨fault, child'⟩
    have hfault : fault = if child.unsent then some .brokenPipe else none :=
      (congrArg Prod.fst hclose).symm
    have hclean : child'.unsent = false := (congrArg (fun r => r.2.unsent) hclose).symm
    set closed : Session := { h.session n with provider := (h.session n).provider.setChild child' }
    have hclosed : (h.setSession n closed).session n = closed := by
      rw [session_setSession, if_pos ⟨rfl, hn⟩]
    have hrun : closeInput n h = (closing unsent (.ok ()), h.setSession n closed) := by
      unfold closeInput
      rw [get_bind, hchild]
      dsimp only
      rw [hclose, hfault, hunsent]
      cases child.unsent <;> rfl
    rw [hrun]
    exact ⟨rfl, closed.provider, hclosed, hclean, fun _ => Option.some_ne_none _⟩

/-- A stream that is not clogged is closed, and let go of. -/
lemma releaseWriter_clear (hwired : (h.session n).isWired = true)
    (hclear : (h.session n).clogged = false) :
    (releaseWriter n h).1 = .ok () ∧ ∃ provider, (releaseWriter n h).2.session n =
      { h.session n with provider, held := { (h.session n).held with writer := false } } := by
  have hn : n < h.sessions.length := lt_of_isWired hwired
  unfold releaseWriter
  rw [get_bind]
  cases hwriter : (h.session n).held.writer with
  | false =>
    refine ⟨rfl, (h.session n).provider, ?_⟩
    have hheld : { (h.session n).held with writer := false } = (h.session n).held := by
      rw [← hwriter]
    rw [hheld]
    rfl
  | true =>
    have hclean : (h.session n).provider.child?.any Child.unsent = false := by
      rw [clogged, hwriter, Bool.true_and] at hclear
      exact hclear
    obtain ⟨hok, provider, hsession, -⟩ := closeInput_run hn
    rw [hclean] at hok
    have hwired' : ((closeInput n h).2.session n).isWired = true := by rwa [hsession]
    rw [if_pos rfl, bind_of_fst hok]
    refine ⟨rfl, provider, ?_⟩
    show (Host.setSession n _ _).session n = _
    rw [session_setSession, if_pos ⟨rfl, lt_of_isWired hwired'⟩, hsession]

/-- A stream that is clogged is closed, and still held. -/
lemma releaseWriter_clogged (hwired : (h.session n).isWired = true)
    (hclogged : (h.session n).clogged = true) :
    (releaseWriter n h).1 = .error .brokenPipe ∧ ∃ provider, provider.process ≠ none ∧
      provider.child?.any Child.unsent = false ∧
      (releaseWriter n h).2.session n = { h.session n with provider } := by
  obtain ⟨hwriter, hunsent⟩ := Bool.and_eq_true_iff.1 hclogged
  obtain ⟨hfault, provider, hsession, hclean, hruns⟩ := closeInput_run (lt_of_isWired hwired)
  rw [hunsent] at hfault
  have hrun : releaseWriter n h = (.error .brokenPipe, (closeInput n h).2) := by
    unfold releaseWriter
    rw [get_bind, if_pos hwriter]
    exact bind_error (Prod.ext hfault rfl)
  rw [hrun]
  exact ⟨rfl, provider, hruns hunsent, hclean, hsession⟩

/-- The time that a session gives its server can be waited for, so the process is released. -/
lemma stop_grace (provider : Connection) (p : Platform) :
    ∃ stopped, (provider.stop Connection.grace p).1 = .ok stopped ∧ stopped.process = none := by
  unfold Connection.stop
  cases hprocess : provider.process with
  | none => exact ⟨provider, rfl, hprocess⟩
  | some process =>
    cases process with
    | child child => exact ⟨{ provider.bringToEnd Connection.grace with process := none }, rfl, rfl⟩
    | rehearsed r => exact ⟨{ provider.bringToEnd Connection.grace with process := none }, rfl, rfl⟩

/-- Nothing is left in the stream of a session that was taken down. -/
lemma TakenDown.shut {s : Session} {clogged : Bool} {held : Holdings}
    (hs : s.TakenDown clogged held) : s.endpoint = none ∧ s.clogged = false := by
  cases clogged with
  | true => exact ⟨hs.endpoint, hs.unclogged⟩
  | false => exact ⟨hs.endpoint, by rw [Session.clogged, hs.held]; rfl⟩

/-- Behind a clogged stream nothing is released. -/
lemma letGo_clogged (hwired : (h.session n).isWired = true)
    (hshut : (h.session n).endpoint = none) (hclogged : (h.session n).clogged = true) :
    (letGo n h).1 = .error .brokenPipe ∧ ((letGo n h).2.session n).Stuck (h.session n).held ∧
      ((letGo n h).2.session n).isWired = true := by
  obtain ⟨hfault, provider, hruns, hclean, hsession⟩ := releaseWriter_clogged hwired hclogged
  have hrun : letGo n h = (.error .brokenPipe, (releaseWriter n h).2) :=
    bind_error (Prod.ext hfault rfl)
  rw [hrun, hsession]
  exact ⟨rfl, ⟨hshut, rfl, hruns, by rw [clogged, hclean, Bool.and_false]⟩, hwired⟩

/-- Behind any other stream all is released. -/
lemma letGo_clear (hwired : (h.session n).isWired = true)
    (hshut : (h.session n).endpoint = none) (hclear : (h.session n).clogged = false) :
    (letGo n h).1 = .ok () ∧ ((letGo n h).2.session n).Released ∧
      ((letGo n h).2.session n).isWired = true := by
  obtain ⟨hok, provider, hsession⟩ := releaseWriter_clear hwired hclear
  set h₁ := (releaseWriter n h).2
  obtain ⟨stopped, hstopped, hprocess⟩ := stop_grace (h₁.session n).provider h₁.platform
  have hwired₁ : (h₁.session n).isWired = true := by rwa [hsession]
  set h₂ : Host γ := { h₁ with platform := ((h₁.session n).provider.stop _ h₁.platform).2 }
  set last : Session :=
    { h₁.session n with
      provider := stopped
      reader := { (h₁.session n).reader with reading := false }
      held := { (h₁.session n).held with reader := false, thread := false } }
  have hrun : letGo n h = (.ok (), h₂.setSession n last) := by
    have hreleased : Act.onPlatform ((h₁.session n).provider.stop Connection.grace) h₁ =
        (.ok stopped, h₂) := Prod.ext hstopped rfl
    unfold letGo
    rw [bind_of_fst hok, get_bind]
    dsimp only
    rw [bind_ok hreleased]
    rfl
  have hend : (h₂.setSession n last).session n = last := by
    rw [session_setSession, if_pos ⟨rfl, lt_of_isWired (h := h₂) hwired₁⟩]
  have hshut₁ : (h₁.session n).endpoint = none := by rwa [hsession]
  have hheld : { (h₁.session n).held with reader := false, thread := false } =
      Holdings.nothing := by
    rw [hsession]
    rfl
  rw [hrun, hend]
  exact ⟨rfl, ⟨hshut₁, hheld, hprocess⟩, hwired₁⟩

/-- All is released, or the stream is clogged. -/
lemma letGo_run (hwired : (h.session n).isWired = true)
    (hshut : (h.session n).endpoint = none) :
    (letGo n h).1 = closing (h.session n).clogged (.ok ()) ∧
      ((letGo n h).2.session n).TakenDown (h.session n).clogged (h.session n).held ∧
      ((letGo n h).2.session n).isWired = true := by
  cases hcase : (h.session n).clogged with
  | true => exact letGo_clogged hwired hshut hcase
  | false => exact letGo_clear hwired hshut hcase

/-- **Releasing.** Whatever the server does, all is released, or the stream is clogged. -/
theorem release_run (hline : line.Tends n) (hwired : (h.session n).isWired = true) :
    (release line n h).1 = closing (h.session n).clogged (.ok ()) ∧
      ((release line n h).2.session n).TakenDown (h.session n).clogged (h.session n).held ∧
      ((release line n h).2.session n).isWired = true := by
  set shut := h.setSession n { h.session n with endpoint := none }
  have hshut : shut.session n = { h.session n with endpoint := none } := by
    rw [session_setSession, if_pos ⟨rfl, lt_of_isWired hwired⟩]
  set h₁ := (line.meanwhile .closed shut).2
  have hrun : release line n h = letGo n h₁ := bind_of_fst (hline.passes .closed shut)
  obtain ⟨hpeer, hheld⟩ : Keeps n shut h₁ := hline.keeps .closed shut
  obtain ⟨hendpoint, hclogged⟩ := hline.staysShut .closed shut (by rw [hshut])
  rw [hshut] at hpeer hheld hclogged
  have hwired₁ : (h₁.session n).isWired = true := by
    rw [Session.isWired, hpeer]
    exact hwired
  change (h₁.session n).clogged = (h.session n).clogged at hclogged
  change (h₁.session n).held = (h.session n).held at hheld
  rw [hrun, ← hclogged, ← hheld]
  exact letGo_run hwired₁ hendpoint

/-! ## Stopping -/

lemma keeps_leave (hline : line.Tends n) : Lasts (Keeps (γ := γ) n) (leave line n) :=
  .bind (.modify (keeps_unregister n)) fun _ => .bind (hline.keeps .leaving)
    fun _ => .bind (keeps_farewell hline) fun _ => hline.keeps .dismissed

/-- Nobody is asked to shut down without an endpoint. -/
lemma staysShut_leave (hline : line.Tends n) : Lasts (StaysShut (γ := γ) n) (leave line n) := by
  have hleft : Lasts (StaysShut (γ := γ) n) (modify (Host.unregister n) : Act γ Unit) :=
    .modify fun _ hshut => ⟨hshut, rfl⟩
  have hfarewell : Lasts (StaysShut (γ := γ) n) (farewell line n) := by
    refine .get fun h hshut => ?_
    rw [if_neg (by simp [hshut])]
    exact ⟨hshut, rfl⟩
  exact .bind hleft fun _ => .bind (hline.staysShut .leaving)
    fun _ => .bind hfarewell fun _ => hline.staysShut .dismissed

/-- A session that is closed leaves, and releases what it holds. -/
lemma close_eq (hline : line.Tends n) (h : Host γ) :
    close line n h = (do
      release line n
      Wire.logFor n .info "Language server session closed" []) (leave line n h).2 := by
  set h₁ := (line.meanwhile .leaving (h.unregister n)).2
  set h₂ := (farewell line n h₁).2
  have hleaving : (line.meanwhile .leaving (h.unregister n)).1 = .ok () := hline.passes .leaving _
  have hfarewell : (farewell line n h₁).1 = .ok () := farewell_ok _ n h₁
  have hleft : (leave line n h).2 = (line.meanwhile .dismissed h₂).2 := by
    unfold leave
    rw [modify_bind, bind_of_fst hleaving, bind_of_fst hfarewell]
  unfold close
  rw [modify_bind, bind_of_fst hleaving, bind_of_fst hfarewell,
    bind_of_fst (hline.passes .dismissed h₂), hleft]

/-- **Stopping once.** All is released unless the stream is clogged by the time that the session
has left. -/
theorem stop_run (hline : line.Tends n) (hwired : (h.session n).isWired = true) :
    let clogged := ((leave line n h).2.session n).clogged
    (stop line n h).1 = closing clogged (.ok ()) ∧
      ((stop line n h).2.session n).TakenDown clogged (h.session n).held ∧
      ((stop line n h).2.session n).isWired = true := by
  intro clogged
  set h₁ := (leave line n h).2
  have hkept : Keeps n h h₁ := keeps_leave hline h
  have hrun : close line n h = (do
      release line n
      Wire.logFor n .info "Language server session closed" []) h₁ := close_eq hline h
  obtain ⟨hresult, hends, hwired'⟩ := release_run hline (hkept.isWired.trans hwired)
  rw [Step.stop_wired _ hwired, hrun]
  rcases hres : release line n h₁ with ⟨result, h₂⟩
  rw [hres] at hresult hends hwired'
  rw [hkept.held] at hends
  cases result with
  | error fault =>
    rw [bind_error hres]
    exact ⟨hresult, hends, hwired'⟩
  | ok x =>
    rw [bind_ok hres]
    exact ⟨hresult, hends, hwired'⟩

/-- A clogged stream makes the stop fail. -/
lemma stop_clogged (hline : line.Tends n) (hwired : (h.session n).isWired = true)
    (hclogged : ((leave line n h).2.session n).clogged = true) :
    (stop line n h).1 = .error .brokenPipe ∧
      ((stop line n h).2.session n).Stuck (h.session n).held := by
  obtain ⟨hfault, hends, -⟩ := stop_run hline hwired
  rw [hclogged] at hfault hends
  exact ⟨hfault, hends⟩

/-- A session that was taken down is released by any further stop. -/
lemma stop_shut (hline : line.Tends n) (hwired : (h.session n).isWired = true)
    (hshut : (h.session n).endpoint = none) (hclear : (h.session n).clogged = false) :
    ((stop line n h).2.session n).Released ∧
      ((stop line n h).2.session n).isWired = true := by
  obtain ⟨-, hends, hwired'⟩ := stop_run hline hwired
  rw [(staysShut_leave hline h hshut).2, hclear] at hends
  exact ⟨hends, hwired'⟩

lemma stopAgain_cons (c : Conduct γ) (rest : List (Conduct γ)) (n : Nat) (h : Host γ) :
    stopAgain n (c :: rest) h = stopAgain n rest (stop (.served c n) n h).2 :=
  bind_ok (guarded_pass (stop (.served c n) n) h)

/-- What is released stays released. -/
lemma stopAgain_released (later : List (Conduct γ)) (hwired : (h.session n).isWired = true)
    (hreleased : (h.session n).Released) : ((stopAgain n later h).2.session n).Released := by
  induction later generalizing h with
  | nil => exact hreleased
  | cons c rest ih =>
    have hends : (h.session n).TakenDown false .all := hreleased
    obtain ⟨hendpoint, hclear⟩ := hends.shut
    obtain ⟨hstopped, hwired'⟩ := stop_shut (tends_served c n) hwired hendpoint hclear
    rw [stopAgain_cons]
    exact ih hwired' hstopped

/-- How a session is taken down for good: all is released at once if the stream was not clogged,
and by the next stop otherwise. -/
structure Teardown (clogged : Bool) (held : Holdings) (n : Nat) (h : Host γ) : Prop where
  ends : (h.session n).TakenDown clogged held
  again : ∀ later : List (Conduct γ),
    ((stopAgain n later h).2.session n).Released ↔ later ≠ [] ∨ clogged = false

lemma TakenDown.teardown {clogged : Bool} {held : Holdings}
    (hends : (h.session n).TakenDown clogged held) (hwired : (h.session n).isWired = true) :
    Teardown clogged held n h := by
  refine ⟨hends, fun later => ?_⟩
  cases clogged with
  | false => exact ⟨fun _ => Or.inr rfl, fun _ => stopAgain_released later hwired hends⟩
  | true =>
    cases later with
    | nil =>
      have hstuck : (h.session n).provider.process ≠ none := Stuck.process hends
      exact ⟨fun hreleased => absurd hreleased.process hstuck, fun hdone => by simp at hdone⟩
    | cons c rest =>
      obtain ⟨hshut, hclear⟩ := hends.shut
      obtain ⟨hstopped, hwired'⟩ := stop_shut (tends_served c n) hwired hshut hclear
      rw [stopAgain_cons]
      exact ⟨fun _ => Or.inl (List.cons_ne_nil _ _),
        fun _ => stopAgain_released rest hwired' hstopped⟩

/-! ## Starting in vain -/

/-- What comes behind a stream that is closed is left out if this fails. -/
lemma closing_bind (clogged : Bool) (result : Except Fault Unit) :
    (closing clogged (.ok ()) >>= fun _ => result) = closing clogged result := by
  cases clogged <;> rfl

/-- A start goes well if the server gives a proper answer, and gives up otherwise. -/
lemma start_approached (hline : line.Tends n) {timeout : Json} (hlaunch : (launch n h).1 = .ok ()) :
    ((approach line n timeout h).1 = .ok () →
      (start line n timeout h).1 = .ok ()) ∧
    ∀ reason, (approach line n timeout h).1 = .error reason →
      start line n timeout h =
        (release line n >>= fun _ => throw reason)
          (giveUp line n timeout h).2 := by
  set h₁ := (line.meanwhile .connected (launch n h).2).2
  have hconnected : (line.meanwhile .connected (launch n h).2).1 = .ok () :=
    hline.passes .connected _
  have happroach : approach line n timeout h = greet line n timeout h₁ := by
    unfold approach
    rw [bind_of_fst hlaunch, bind_of_fst hconnected]
  rw [happroach]
  rcases hres : greet line n timeout h₁ with ⟨result, h₂⟩
  unfold start
  rw [bind_of_fst hlaunch, bind_of_fst hconnected]
  constructor
  · rintro ⟨⟩
    rw [bind_ok (tryCatch_ok hres), bind_of_fst (hline.passes .answered h₂)]
    rfl
  · rintro reason ⟨⟩
    have hleaving := hline.passes .leaving (h₂.unregister n)
    have hgone : (giveUp line n timeout h).2 =
        (line.meanwhile .leaving (h₂.unregister n)).2 := by
      unfold giveUp
      rw [bind_of_fst hlaunch, bind_of_fst hconnected, bind_ok (guarded_pass _ h₁), hres]
      rfl
    have hcaught : (tryCatch (greet line n timeout) (abandon line n)) h₁ =
        (release line n >>= fun _ => throw reason)
          (line.meanwhile .leaving (h₂.unregister n)).2 := by
      rw [tryCatch_error hres]
      unfold abandon
      rw [modify_bind, bind_of_fst hleaving]
    have hfailed : ∃ fault, ((release line n >>= fun _ => throw reason : Act γ Unit)
        (line.meanwhile .leaving (h₂.unregister n)).2).1 = .error fault := by
      rcases hend : release line n
        (line.meanwhile .leaving (h₂.unregister n)).2 with ⟨result, h₃⟩
      cases result with
      | error fault' => exact ⟨fault', congrArg Prod.fst (bind_error hend)⟩
      | ok x => exact ⟨reason, congrArg Prod.fst (bind_ok hend)⟩
    obtain ⟨fault, hfault⟩ := hfailed
    rw [hgone, bind_error (hcaught.trans (Prod.ext hfault rfl))]
    exact Prod.ext hfault.symm rfl

/-- **Starting in vain.** Without a proper answer all is released unless the stream is clogged by the
time that the session has given up. The reason is reported only if it is not. -/
theorem start_run (hline : line.Tends n) (hwired : (h.session n).isWired = true) {timeout : Json}
    {reason : Fault} (hlaunch : (launch n h).1 = .ok ())
    (hreason : (approach line n timeout h).1 = .error reason) :
    let clogged := ((giveUp line n timeout h).2.session n).clogged
    (start line n timeout h).1 = closing clogged (.error reason) ∧
      ((start line n timeout h).2.session n).TakenDown clogged .all ∧
      ((start line n timeout h).2.session n).isWired = true := by
  intro clogged
  obtain ⟨hsent, provider, hlaunched⟩ := launch_run hwired hlaunch
  set h₁ := (giveUp line n timeout h).2
  have hkept : Keeps n (launch n h).2 h₁ := by
    have hrun : giveUp line n timeout h = (do
        line.meanwhile .connected
        Act.guarded (greet line n timeout) fun _ => pure ()
        modify (Host.unregister n)
        line.meanwhile .leaving) (launch n h).2 := bind_of_fst hlaunch
    show Keeps n _ (giveUp line n timeout h).2
    rw [hrun]
    exact Lasts.bind (hline.keeps .connected) (fun _ =>
      .bind (.guarded (keeps_greet hline timeout) fun _ => .pure ()) fun _ =>
        .bind (.modify (keeps_unregister n)) fun _ => hline.keeps .leaving) _
  have hwired₁ : (h₁.session n).isWired = true := by
    rw [hkept.isWired, hlaunched]
    exact hwired
  have hheld : (h₁.session n).held = .all := by rw [hkept.held, hlaunched]
  have hrun : start line n timeout h =
      (release line n >>= fun _ => throw reason) h₁ :=
    (start_approached hline hlaunch).2 reason hreason
  obtain ⟨hresult, hends, hwired'⟩ := release_run hline hwired₁
  rw [hheld] at hends
  rw [hrun]
  rcases hres : release line n h₁ with ⟨result, h₂⟩
  rw [hres] at hresult hends hwired'
  change result = closing clogged (.ok ()) at hresult
  have hreported : (result >>= fun _ => .error reason) = closing clogged (.error reason) := by
    rw [hresult, closing_bind]
  cases result with
  | error fault =>
    rw [bind_error hres]
    exact ⟨hreported, hends, hwired'⟩
  | ok x =>
    rw [bind_ok hres]
    exact ⟨hreported, hends, hwired'⟩

/-- **Taking down.** A session is stopped, or a start fails behind the launch, while the server does
what it likes. Endpoint, streams, thread and process are released at once exactly if the stream to
the server holds no bytes that could not be sent; otherwise closing it fails, and the next stop
releases them. What is released stays so, however often the session is stopped again. -/
theorem teardown_completes_iff (c : Conduct γ) (hwired : (h.session n).isWired = true) :
    let clogged := ((leave (.served c n) n h).2.session n).clogged
    let cloggedAfter (timeout : Json) := ((giveUp (.served c n) n timeout h).2.session n).clogged
    (stop (.served c n) n h).1 = closing clogged (.ok ()) ∧
      Teardown clogged (h.session n).held n (stop (.served c n) n h).2 ∧
      ∀ timeout fault, (launch n h).1 = .ok () →
        (start (.served c n) n timeout h).1 = .error fault →
        (cloggedAfter timeout = true → fault = .brokenPipe) ∧
          Teardown (cloggedAfter timeout) .all n (start (.served c n) n timeout h).2 := by
  have hline : (Line.served c n).Tends n := tends_served c n
  obtain ⟨hresult, hends, hwired'⟩ := stop_run hline hwired
  refine ⟨hresult, hends.teardown hwired', fun timeout fault hlaunch hfault => ?_⟩
  cases hanswer : (approach (.served c n) n timeout h).1 with
  | ok x => cases ((start_approached hline hlaunch).1 hanswer).symm.trans hfault
  | error reason =>
    obtain ⟨hreported, hgone, hwired''⟩ := start_run hline hwired hlaunch hanswer
    refine ⟨fun hclogged => ?_, hgone.teardown hwired''⟩
    dsimp only at hclogged
    rw [hclogged] at hreported
    exact Except.error.inj (hfault.symm.trans hreported)

/-- A server that never says anything and stays. -/
def Conduct.silent : Conduct Empty :=
  ⟨fun _ => [], fun _ _ child => child, fun _ _ _ => rfl⟩

/-- A server that answers the first request and is gone before the next message. -/
def Conduct.departing : Conduct Empty where
  mail moment := if moment = .asked then [(0, Message.response "1" (Json.object []))] else []
  fate _ h child := if h.sent.isEmpty then child else { child with code := some 0 }
  unsent _ h child := by
    split <;> rfl

/-- A server that does not answer is released with all that led to it, whether or not the session
is stopped afterwards. -/
theorem released_after_unanswered_start :
    (launch 0 launchable).1 = .ok () ∧
      ∃ fault, (start (.served .silent 0) 0 startTimeout launchable).1 = .error fault ∧
        ∀ later, ((stopAgain 0 later
          (start (.served .silent 0) 0 startTimeout launchable).2).2.session 0).Released := by
  have hlaunch : (launch 0 launchable).1 = .ok () := ok_of_toOption (by decide +kernel)
  have hfailed : (start (.served .silent 0) 0 startTimeout launchable).1.isOk = false := by
    decide +kernel
  cases hfault : (start (.served .silent 0) 0 startTimeout launchable).1 with
  | ok x =>
    rw [hfault] at hfailed
    cases hfailed
  | error fault =>
    have hclear : ((giveUp (.served .silent 0) 0 startTimeout launchable).2.session 0).clogged =
        false := by decide +kernel
    obtain ⟨-, -, hstart⟩ := teardown_completes_iff (n := 0) (h := launchable) .silent (by decide)
    obtain ⟨-, hdown⟩ := hstart startTimeout fault hlaunch hfault
    exact ⟨hlaunch, fault, rfl, fun later => (hdown.again later).2 (Or.inr hclear)⟩

/-- A session that was started with a server that is gone. -/
def departed : Host Empty :=
  (start (.served .departing 0) 0 startTimeout launchable).2

/-- A server that answers and is gone leaves a stream that is clogged. The stop fails, and the
process, the streams and the thread stay held. -/
theorem stop_stuck_behind_departed_server :
    (start (.served .departing 0) 0 startTimeout launchable).1 = .ok () ∧
      (departed.session 0).held = .all ∧
      (stop (.served .departing 0) 0 departed).1 = .error .brokenPipe ∧
      ((stop (.served .departing 0) 0 departed).2.session 0).held = .all ∧
      ((stop (.served .departing 0) 0 departed).2.session 0).provider.process ≠ none := by
  have hwired : (departed.session 0).isWired = true := by decide +kernel
  have hheld : (departed.session 0).held = .all := by decide +kernel
  have hclogged : ((leave (.served .departing 0) 0 departed).2.session 0).clogged = true := by
    decide +kernel
  obtain ⟨hfault, hstuck⟩ := stop_clogged (tends_served .departing 0) hwired hclogged
  exact ⟨ok_of_toOption (by decide +kernel), hheld, hfault, hstuck.held.trans hheld, hstuck.process⟩

end Session

end LanguageHost
