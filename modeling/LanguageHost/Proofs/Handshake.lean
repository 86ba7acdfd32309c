import LanguageHost.Proofs.Greeting

/-!
# How often a session shakes hands

A server that has started is told `initialized`, its settings and its folders. Whether a message
tells that it has started is seen from the message alone, so this is done for every such message
that comes in while the endpoint is open, and not for the first one only.

What a session says is counted here, over a start with all the mail that comes in meanwhile and
over whatever comes in later. Nothing but the handshake says any of the three, so the counts are
those of the messages that look like an answer to the first request.
-/

namespace LanguageHost

open Act Host Session

variable {γ α : Type} {joins : Bool} {n m st ws : Nat} {h h' h'' : Host γ} {l : List Sent}

/-! ## Counts -/

/-- How often a stream tells that the server has started, settings, and folders. -/
@[ext]
structure Tally where
  starts : Nat
  settings : Nat
  folders : Nat
  deriving DecidableEq

namespace Tally

instance : Zero Tally := ⟨⟨0, 0, 0⟩⟩

instance : Add Tally :=
  ⟨fun t u => ⟨t.starts + u.starts, t.settings + u.settings, t.folders + u.folders⟩⟩

lemma zero_add (t : Tally) : 0 + t = t := by
  ext <;> exact Nat.zero_add _

/-- The tally of so many handshakes. The folders may be missing from one, when they cannot be
found out. -/
structure Handshakes (k : Nat) (t : Tally) : Prop where
  starts : t.starts = k
  settings : t.settings = k
  folders : t.folders ≤ k

lemma Handshakes.add {j k : Nat} {t u : Tally} (ht : t.Handshakes j) (hu : u.Handshakes k) :
    (t + u).Handshakes (j + k) :=
  ⟨congrArg₂ (· + ·) ht.starts hu.starts, congrArg₂ (· + ·) ht.settings hu.settings,
    Nat.add_le_add ht.folders hu.folders⟩

/-- At most one of each. -/
def OneShot (t : Tally) : Prop :=
  t.starts ≤ 1 ∧ t.settings ≤ 1 ∧ t.folders ≤ 1

lemma Handshakes.oneShot_iff {k : Nat} {t : Tally} (ht : t.Handshakes k) : t.OneShot ↔ k ≤ 1 := by
  obtain ⟨hstarts, hsettings, hfolders⟩ := ht
  rw [OneShot, hstarts, hsettings]
  exact ⟨fun h => h.1, fun h => ⟨h, h, Nat.le_trans hfolders h⟩⟩

end Tally

/-- The tally of a stream. -/
def tally (l : List Sent) : Tally where
  starts := l.countP Sent.starts
  settings := l.countP fun x => x.settings?.isSome
  folders := l.countP fun x => x.folders?.isSome

lemma tally_append (l l' : List Sent) : tally (l ++ l') = tally l + tally l' := by
  simp only [tally, List.countP_append]
  rfl

/-- Whoever speaks in order and does not tell that the server has started says nothing of the
three. -/
lemma tally_silent (hopened : Opened false l) (hstarts : l.any Sent.starts = false) :
    tally l = 0 := by
  have hnone : ∀ x ∈ l, x.settings? = none ∧ x.folders? = none := fun x hx =>
    Sent.informs_eq_false.1 (hopened.unheard hstarts x hx)
  have hstarts : l.countP Sent.starts = 0 :=
    List.countP_eq_zero.2 fun x hx => List.any_eq_false.1 hstarts x hx
  have hsettings : (l.countP fun x => x.settings?.isSome) = 0 :=
    List.countP_eq_zero.2 fun x hx => by simp [hnone x hx]
  have hfolders : (l.countP fun x => x.folders?.isSome) = 0 :=
    List.countP_eq_zero.2 fun x hx => by simp [hnone x hx]
  rw [tally, hstarts, hsettings, hfolders]
  rfl

namespace Host

/-- From one host to another a session said so much, and its end of the wire is as it was. -/
structure Says (n : Nat) (t : Tally) (h h' : Host γ) : Prop where
  same : SameEnd (h.session n) (h'.session n)
  said : ∃ l, h'.said n = h.said n ++ l ∧ tally l = t

variable {t u : Tally}

lemma Says.trans (a : Says n t h h') (b : Says n u h' h'') : Says n (t + u) h h'' := by
  obtain ⟨l, hl, rfl⟩ := a.said
  obtain ⟨l', hl', rfl⟩ := b.said
  refine ⟨a.same.trans b.same, l ++ l', ?_, tally_append l l'⟩
  rw [hl', hl, List.append_assoc]

/-- The session said nothing of the three. -/
abbrev Quiet (n : Nat) : Host γ → Host γ → Prop :=
  Says n 0

lemma Says.quiet (a : Says n t h h') (b : Quiet n h' h'') : Says n t h h'' :=
  a.trans b

lemma Says.after (a : Quiet n h h') (b : Says n t h' h'') : Says n t h h'' := by
  have hboth := Says.trans a b
  rwa [Tally.zero_add] at hboth

lemma Talk.toSays (a : Talk joins n h h' l) : Says n (tally l) h h' :=
  ⟨a.self, l, a.said, rfl⟩

lemma Talk.quiet_other (a : Talk joins m h h' l) (hm : n ≠ m) : Quiet n h h' := by
  refine ⟨?_, [], by rw [a.said_other hm, List.append_nil], rfl⟩
  rw [a.others n hm]
  exact .refl _

lemma Chats.quiet (a : Chats false n false h h') : Quiet n h h' := by
  obtain ⟨l, a, hl⟩ := a
  have hquiet := a.toSays
  rwa [tally_silent hl.opened a.unstarted] at hquiet

/-- A notice that is told counts for itself. -/
lemma Tells.toSays {notice : Notice} (a : Tells false n notice h h')
    (htakes : (h.session n).takes notice.word = true) : Says n (tally [.notice notice]) h h' := by
  obtain ⟨hrefused, -⟩ | ⟨-, x, l, a, hx, hl, -⟩ := a
  · rw [htakes] at hrefused
    cases hrefused
  · have hrest : l.any Sent.starts = false := by
      have hall := a.unstarted
      rw [List.any_cons, Bool.or_eq_false_iff] at hall
      exact hall.2
    have hfirst : tally [x] = tally [.notice notice] := by
      simp only [tally, Sent.starts, Sent.settings?, Sent.folders?, hx, List.countP_singleton]
      rfl
    have htold := a.toSays
    rwa [← List.singleton_append, tally_append, tally_silent hl.opened hrest, hfirst] at htold

lemma quiet_register (m : Nat) (h : Host γ) : Quiet n h (h.register m) := by
  refine ⟨?_, [], by simp, rfl⟩
  rw [session_register]
  exact .refl _

/-- The session shook hands so many times. -/
def Shakes (n k : Nat) (h h' : Host γ) : Prop :=
  ∃ t : Tally, t.Handshakes k ∧ Says n t h h'

lemma Says.shakes (a : Quiet n h h') : Shakes n 0 h h' :=
  ⟨0, ⟨rfl, rfl, Nat.le_refl 0⟩, a⟩

lemma Shakes.same {k : Nat} (a : Shakes n k h h') : SameEnd (h.session n) (h'.session n) := by
  obtain ⟨t, -, a⟩ := a
  exact a.same

lemma Shakes.quiet {k : Nat} (a : Shakes n k h h') (b : Quiet n h' h'') : Shakes n k h h'' := by
  obtain ⟨t, ht, a⟩ := a
  exact ⟨t, ht, a.quiet b⟩

lemma Shakes.after {k : Nat} (a : Quiet n h h') (b : Shakes n k h' h'') : Shakes n k h h'' := by
  obtain ⟨t, ht, b⟩ := b
  exact ⟨t, ht, a.after b⟩

lemma Shakes.trans {j k : Nat} (a : Shakes n j h h') (b : Shakes n k h' h'') :
    Shakes n (j + k) h h'' := by
  obtain ⟨t, ht, a⟩ := a
  obtain ⟨u, hu, b⟩ := b
  exact ⟨t + u, ht.add hu, a.trans b⟩

end Host

/-! ## One message -/

/-- A session that talks to a server over an open endpoint, and seeds it. -/
structure Session.Seeding (st ws : Nat) (s : Session) : Prop where
  wired : s.isWired = true
  hook : s.hook = .seed st ws
  isOpen : s.endpoint.isSome = true

lemma Session.Seeding.of_sameEnd {s s' : Session} (hs : s.Seeding st ws) (a : SameEnd s s') :
    s'.Seeding st ws :=
  ⟨a.isWired.trans hs.wired, a.hook.trans hs.hook, a.endpoint.trans hs.isOpen⟩

namespace Wire

/-- Seeding tells the settings once, and the folders at most once. -/
lemma says_seed {message : Json} (hm : Message.isStartResult message = .ok true)
    (hs : (h.session n).Seeding st ws) :
    ∃ k ≤ 1, Says n ⟨0, 1, k⟩ h (seed writeToChild st ws n message h).2 := by
  have hprompt := prompt_writeToChild (γ := γ)
  have htakes : ∀ word, (h.session n).takes word = true := fun word =>
    (takes_of_isWired hs.wired word).trans hs.isOpen
  have hsettings := (hprompt.tells_settings (n := n) (h := h) fun _ => hs.hook).toSays (htakes _)
  rw [seed_run hm]
  rcases hprompt.folders_cases ws n (sendSettings writeToChild st n h).2 with ⟨uris, hfolders⟩ | a
  · have hfolders := hfolders.toSays ((hsettings.same.takes _).trans (htakes _))
    exact ⟨1, Nat.le_refl 1, hsettings.trans hfolders⟩
  · exact ⟨0, Nat.zero_le 1, hsettings.quiet a.toSays⟩

lemma says_attend {message : Json} (hm : Message.isStartResult message = .ok true)
    (hs : (h.session n).Seeding st ws) :
    ∃ k ≤ 1, Says n ⟨0, 1, k⟩ h (attend writeToChild n message h).2 := by
  have hcalled : ∃ k ≤ 1, Says n ⟨0, 1, k⟩ h (callHook writeToChild n message h).2 := by
    simp only [callHook, get_bind, set_bind, hs.hook]
    obtain ⟨k, hk, a⟩ := says_seed (n := n)
      (h := { h with hooked := h.hooked ++ [(h.session n).rootUri h.platform.cwd] }) hm hs
    exact ⟨k, hk, a.same, a.said⟩
  obtain ⟨k, hk, a⟩ := hcalled
  have hnoted : Talk false n (callHook writeToChild n message h).2
      (behindHook writeToChild n message h) [] :=
    quiet_guarded h fun fault h' => talk_log false n h' _ _ _ _
  rw [attend_eq]
  split
  · have htaken : Lasts (Chats (γ := γ) false n false) (take writeToChild n message) :=
      lasts_take (Or.inr prompt_writeToChild) message
    exact ⟨k, hk, (a.quiet hnoted.toSays).quiet (htaken _).quiet⟩
  · exact ⟨k, hk, a.quiet hnoted.toSays⟩

/-- **One message.** A message that looks like an answer to the first request makes the session
shake hands, whatever came before it, and no other message does. -/
theorem shakes_consume (message : Json) (hs : (h.session n).Seeding st ws) :
    Shakes n (answersStart message).toNat h (consume writeToChild n message h).2 := by
  have hprompt := prompt_writeToChild (γ := γ)
  cases hanswer : answersStart message with
  | false =>
    have hidle : ¬ Welcomes h n message := fun hwelcome => by
      rw [(answersStart_iff message).2 hwelcome.2] at hanswer
      cases hanswer
    obtain ⟨l, a, horderly, -⟩ := Usable.talk_consume_idle (Or.inr hprompt) hidle
    exact (Chats.quiet ⟨l, a, horderly hs.wired⟩).shakes
  | true =>
    have hm := (answersStart_iff message).1 hanswer
    set h₀ := h.noteSent n (.message Notice.started.message)
    have hstarted : Says n ⟨1, 0, 0⟩ h h₀ := by
      refine ⟨.refl _, [.message Notice.started.message], said_append rfl, ?_⟩
      simp [tally, Sent.starts, Sent.settings?, Sent.folders?, Sent.notice?, Notice.settings?,
        Notice.folders?]
    have hsent := (hprompt n Notice.started.message h (plain_notice _)).quiet
    have hrun : consume writeToChild n message h =
        attend writeToChild n message (((writeToChild n Notice.started.message h).2).register n) := by
      have hok := (writeToChild_run n Notice.started.message h).1
      have hwelcome := welcome_run writeToChild (h := h) ⟨hs.isOpen, hm⟩
      rw [bind_of_fst hok] at hwelcome
      exact bind_ok hwelcome
    have hgreeted := (hstarted.quiet hsent).quiet (quiet_register n _)
    obtain ⟨k, hk, a⟩ := says_attend hm (hs.of_sameEnd hgreeted.same)
    rw [hrun]
    exact ⟨_, ⟨rfl, rfl, by rwa [← Nat.zero_add k] at hk⟩, hgreeted.trans a⟩

end Wire

/-! ## Mail and starts -/

namespace Session

/-- How many messages for a session look like an answer to its first request. -/
def answersTo (n : Nat) (messages : List (Nat × Json)) : Nat :=
  messages.countP fun entry => entry.1 = n && answersStart entry.2

lemma answersTo_append (n : Nat) (messages messages' : List (Nat × Json)) :
    answersTo n (messages ++ messages') = answersTo n messages + answersTo n messages' :=
  List.countP_append ..

/-- **Mail.** The session shakes hands once for each such message. -/
theorem shakes_deliver (messages : List (Nat × Json)) (hs : (h.session n).Seeding st ws) :
    Shakes n (answersTo n messages) h (deliver messages h).2 := by
  induction messages generalizing h with
  | nil => exact ⟨0, ⟨rfl, rfl, Nat.le_refl 0⟩, .refl _, [], (List.append_nil _).symm, rfl⟩
  | cons entry rest ih =>
    obtain ⟨m, message⟩ := entry
    rw [deliver_cons, ← List.singleton_append, answersTo_append]
    have hfirst : Shakes n (answersTo n [(m, message)]) h
        (Wire.consume Wire.writeToChild m message h).2 := by
      by_cases hm : n = m
      · subst hm
        have hone : answersTo n [(n, message)] = (answersStart message).toNat := by
          cases hanswer : answersStart message <;> simp [answersTo, hanswer]
        rw [hone]
        exact Wire.shakes_consume message hs
      · have hnone : answersTo n [(m, message)] = 0 := by simp [answersTo, Ne.symm hm]
        obtain ⟨l, a, -⟩ := Wire.Usable.talk_consume (n := m)
          (Or.inr Wire.prompt_writeToChild) message h
        rw [hnone]
        exact (a.quiet_other hm).shakes
    exact hfirst.trans (ih (hs.of_sameEnd hfirst.same))

/-- The server is asked to start, and mail comes in meanwhile. -/
lemma shakes_greet (mail : Mail) (timeout : Json) (hs : (h.session n).Seeding st ws) :
    Shakes n (answersTo n (mail .asked)) h (greet (.posted mail) n timeout h).2 := by
  unfold greet
  rw [get_bind]
  obtain ⟨id, hsent, hrequest⟩ := request_run mail (Or.inl rfl)
    (startParams ((h.session n).rootUri h.platform.cwd)) hs.isOpen
  set h₁ := (request (Line.posted mail).wire n "initialize"
    (startParams ((h.session n).rootUri h.platform.cwd)) h).2
  have hmail := shakes_deliver (mail .asked) (hs.of_sameEnd hrequest.quiet.same)
  have htaken := (moves_meanwhile mail .asked h₁).1
  rw [bind_of_fst hsent, bind_of_fst htaken]
  refine (hmail.after hrequest.quiet).quiet (Chats.quiet (Lasts.bind (lasts_answer? id) ?_ _))
  intro answer
  cases answer with
  | none =>
    dsimp only
    cases Waiting.fault? timeout with
    | none => exact .throw _
    | some fault => exact .bind (.throw _) fun _ => .throw _
  | some result =>
    refine .bind (.ofExcept _) fun capabilities => ?_
    exact lasts_modifySession fun s => ⟨rfl, rfl, rfl, rfl, rfl, rfl, rfl⟩

/-- A launch that succeeds opens an endpoint, and nothing is said. -/
lemma launch_ok (hwired : (h.session n).isWired = true) (hseed : (h.session n).hook = .seed st ws)
    (hok : (launch n h).1 = .ok ()) :
    ((launch n h).2.session n).Seeding st ws ∧ (launch n h).2.said n = h.said n := by
  obtain ⟨hsent, provider, hsession⟩ := launch_run hwired hok
  refine ⟨?_, by rw [said, said, hsent]⟩
  rw [hsession]
  exact ⟨hwired, hseed, rfl⟩

/-- **Starting.** A session that is started shakes hands once for each answer that comes in over
its new endpoint meanwhile. -/
theorem shakes_start (mail : Mail) (timeout : Json) (hwired : (h.session n).isWired = true)
    (hseed : (h.session n).hook = .seed st ws)
    (hok : (start (.posted mail) n timeout h).1 = .ok ()) :
    ((launch n h).2.session n).Seeding st ws ∧ (launch n h).2.said n = h.said n ∧
      Shakes n (answersTo n (mail .connected ++ mail .asked ++ mail .answered)) (launch n h).2
        (start (.posted mail) n timeout h).2 := by
  unfold start at hok ⊢
  rcases hlaunch : launch n h with ⟨result, h₁⟩
  cases result with
  | error fault =>
    rw [bind_error hlaunch] at hok
    cases hok
  | ok x =>
    obtain ⟨hs, hsaid⟩ := launch_ok hwired hseed (congrArg Prod.fst hlaunch)
    rw [hlaunch] at hs hsaid
    dsimp only at hs hsaid ⊢
    have hconnected := shakes_deliver (mail .connected) hs
    have htaken := (moves_meanwhile mail .connected h₁).1
    rw [bind_ok hlaunch, bind_of_fst htaken] at hok ⊢
    set h₂ := ((Line.posted mail).meanwhile .connected h₁).2
    have hasked : Shakes n (answersTo n (mail .asked)) h₂ (greet (.posted mail) n timeout h₂).2 :=
      shakes_greet mail timeout (hs.of_sameEnd hconnected.same)
    rcases hgreet : greet (.posted mail) n timeout h₂ with ⟨result, h₃⟩
    rw [hgreet] at hasked
    cases result with
    | error fault =>
      obtain ⟨⟨fault', hfailed⟩, -⟩ := moves_abandon mail n fault h₃
      rw [bind_error ((tryCatch_error hgreet).trans (Prod.ext hfailed rfl))] at hok
      cases hok
    | ok x =>
      have hboth := hconnected.trans hasked
      have hanswered := shakes_deliver (mail .answered) (hs.of_sameEnd hboth.same)
      have htaken := (moves_meanwhile mail .answered h₃).1
      rw [bind_ok (tryCatch_ok hgreet), bind_of_fst htaken, modify_bind, get_bind]
      refine ⟨hs, hsaid, ?_⟩
      rw [answersTo_append, answersTo_append]
      refine ((hboth.trans hanswered).quiet (quiet_register n _)).quiet (Chats.quiet ?_)
      exact (Wire.silent_logFor _ _ _).chats _

/-- A start, and the mail that comes in later. -/
lemma handshakes_since_start (mail : Mail) (timeout : Json) (messages : List (Nat × Json))
    (hwired : (h.session n).isWired = true) (hseed : (h.session n).hook = .seed st ws)
    (hok : (start (.posted mail) n timeout h).1 = .ok ()) :
    ∃ l, (deliver messages (start (.posted mail) n timeout h).2).2.said n = h.said n ++ l ∧
      (tally l).Handshakes
        (answersTo n (mail .connected ++ mail .asked ++ mail .answered ++ messages)) := by
  obtain ⟨hs, hsaid, hstarted⟩ := shakes_start mail timeout hwired hseed hok
  have hlater := shakes_deliver messages (hs.of_sameEnd hstarted.same)
  obtain ⟨t, ht, a⟩ := hstarted.trans hlater
  obtain ⟨l, hl, rfl⟩ := a.said
  rw [← answersTo_append] at ht
  rw [hsaid] at hl
  exact ⟨l, hl, ht⟩

/-- **How often a session shakes hands.** From its start on, a session that seeds its server sends
`initialized` and settings once for each message that looks like an answer to the first request,
and the folders at most as often. So the handshake happens at most once exactly if at most one such
message comes in, during the start or later. -/
theorem oneShot_iff_answers (mail : Mail) (timeout : Json) (messages : List (Nat × Json))
    (hwired : (h.session n).isWired = true) (hseed : (h.session n).hook = .seed st ws)
    (hok : (start (.posted mail) n timeout h).1 = .ok ()) :
    ∃ l, (deliver messages (start (.posted mail) n timeout h).2).2.said n = h.said n ++ l ∧
      (tally l).Handshakes
        (answersTo n (mail .connected ++ mail .asked ++ mail .answered ++ messages)) ∧
      ((tally l).OneShot ↔
        answersTo n (mail .connected ++ mail .asked ++ mail .answered ++ messages) ≤ 1) := by
  obtain ⟨l, hl, ht⟩ := handshakes_since_start mail timeout messages hwired hseed hok
  exact ⟨l, hl, ht, ht.oneShot_iff⟩

/-- The answer that a server gives to the first request. -/
def startAnswer : Json :=
  Message.response "1" (Json.object [("capabilities", Json.object [])])

/-- The server answers the first request while the session waits for that. -/
def answering : Mail := fun moment =>
  if moment = .asked then [(0, startAnswer)] else []

lemma start_answering : (start (.posted answering) 0 startTimeout launchable).1 = .ok () := by
  have hok : (start (.posted answering) 0 startTimeout launchable).1.isOk = true := by
    decide +kernel
  cases hres : (start (.posted answering) 0 startTimeout launchable).1 with
  | ok x => rfl
  | error fault =>
    rw [hres] at hok
    cases hok

/-- A server that answers once is greeted and seeded once, whatever else it says. -/
theorem oneShot_after_single_answer :
    (start (.posted answering) 0 startTimeout launchable).1 = .ok () ∧
      ∃ l, (deliver [(0, Message.notification "window/logMessage" (Json.object []))]
          (start (.posted answering) 0 startTimeout launchable).2).2.said 0 =
        launchable.said 0 ++ l ∧ (tally l).OneShot := by
  have hseed : (launchable.session 0).hook = .seed 0 0 := rfl
  obtain ⟨l, hl, -, hiff⟩ := oneShot_iff_answers answering startTimeout
    [(0, Message.notification "window/logMessage" (Json.object []))] (by decide) hseed
    start_answering
  exact ⟨start_answering, l, hl, hiff.2 (by decide)⟩

/-- A server that repeats its answer is told twice that it has started, and is sent its settings
twice. -/
theorem handshake_repeated :
    ∃ l, (deliver [(0, startAnswer)]
        (start (.posted answering) 0 startTimeout launchable).2).2.said 0 =
      launchable.said 0 ++ l ∧ (tally l).starts = 2 ∧ (tally l).settings = 2 ∧
        ¬ (tally l).OneShot := by
  have hseed : (launchable.session 0).hook = .seed 0 0 := rfl
  obtain ⟨l, hl, ht⟩ := handshakes_since_start answering startTimeout [(0, startAnswer)]
    (by decide) hseed start_answering
  exact ⟨l, hl, ht.starts, ht.settings, fun h => absurd (ht.oneShot_iff.1 h) (by decide)⟩

end Session

end LanguageHost
