import LanguageHost.Proofs.Talk

/-!
# Everything on a wire is a talk

A wire either refuses everything, as one does after too many replies to replies, or it is prompt:
the message is sent at once, and whatever comes back is a talk of the same session in the order that
the protocol asks for. All that a session does with a message of its server is such a talk if its
wire is usable in this sense. By induction on how deep replies are followed, the open wire is
prompt.

A session is registered on the way only behind the `initialized` that is sent for an answer to the
first request, and is seeded before anything else happens.
-/

namespace LanguageHost.Wire

open Act Host

variable {γ : Type} {joins told : Bool} {n : Nat}

@[simp] lemma ofExcept_snd {α : Type} (result : Except Fault α) (h : Host γ) :
    (Act.ofExcept result h).2 = h := by
  cases result <;> rfl

/-! ## What a server may call -/

lemma silent_logFor (level : Level) (message : Text) (extra : Tags) :
    Lasts (Silent (γ := γ) joins n) (logFor n level message extra) :=
  fun h => talk_log joins n h ((h.session n).service h) level message extra

section Handlers

variable {R : Host γ → Host γ → Prop} [Std.Refl R] [IsTrans (Host γ) R]
  (hlog : ∀ level message extra, Lasts R (logFor n level message extra : Act γ Unit))
  (hput : ∀ uri diagnostics, Lasts R (Act.modifySession n fun s =>
    { s with diagnostics := putDiagnostics uri diagnostics s.diagnostics }))

include hlog

lemma leads_noteCapabilities (registrations : List Json) :
    Lasts R (noteCapabilities n registrations) := by
  induction registrations with
  | nil => exact .pure ()
  | cons registration rest ih =>
    refine .bind (.ofExcept _) fun method => ?_
    exact .bind (hlog _ _ _) fun _ => ih

lemma leads_logMessage (type message : Json) : Lasts R (logMessage n type message) :=
  .bind (.ofExcept _) fun _ => hlog _ _ _

include hput

/-- A handler keeps to whatever the journal and the diagnostics of its session do not matter to. -/
lemma leads_handle (handler : Method.Handler) (params : Json) :
    Lasts R (handle n handler params) := by
  refine .bind (.ofExcept _) fun named => ?_
  cases handler with
  | logMessage => exact leads_logMessage hlog _ _
  | showMessage => exact leads_logMessage hlog _ _
  | publishDiagnostics =>
    have htail : ∀ uri diagnostics : Json, Lasts R (do
        Act.modifySession n fun s =>
          { s with diagnostics := putDiagnostics uri diagnostics s.diagnostics }
        let count ← Act.ofExcept (lengthOf diagnostics)
        logFor n .debug "Received diagnostics" [("uri", uri), ("count", .int count)]) := by
      intro uri diagnostics
      exact .bind (hput uri diagnostics) fun _ => .bind (.ofExcept _) fun _ => hlog _ _ _
    dsimp only
    split
    · exact .bind (.throw _) fun _ => htail _ _
    · exact htail _ _
  | registerCapability =>
    exact .bind (.ofExcept _) fun registrations => leads_noteCapabilities hlog registrations

end Handlers

lemma silent_handle (handler : Method.Handler) (params : Json) :
    Lasts (Silent (γ := γ) joins n) (handle n handler params) :=
  leads_handle silent_logFor
    (fun _ _ => silent_modifySession fun _ => ⟨rfl, rfl, rfl, rfl, rfl, rfl, rfl⟩) handler params

/-! ## The endpoint -/

lemma leads_takeNotification {R : Host γ → Host γ → Prop} [Std.Refl R] [IsTrans (Host γ) R]
    (hhandle : ∀ handler params, Lasts R (handle n handler params)) (method params : Json) :
    Lasts R (takeNotification n method params) := by
  unfold takeNotification
  split
  · exact .bind (.ofExcept _) fun _ => .pure _
  · refine .bind (.ofExcept _) fun handler => ?_
    cases handler with
    | none => exact .pure ()
    | some handler => exact .guarded (hhandle handler params) fun _ => .pure ()

lemma silent_takeNotification (method params : Json) :
    Lasts (Silent (γ := γ) joins n) (takeNotification n method params) :=
  leads_takeNotification silent_handle method params

/-- A request is handled and answered. -/
lemma leads_takeRequest {wire : Wire γ} {R : Host γ → Host γ → Prop} [Std.Refl R]
    [IsTrans (Host γ) R] (hhandle : ∀ handler params, Lasts R (handle n handler params))
    (hanswer : ∀ id result, Lasts R (wire n (Message.response id result)))
    (hrefuse : ∀ id code text, Lasts R (wire n (Message.errorResponse id code text)))
    (id method params : Json) : Lasts R (takeRequest wire n id method params) := by
  refine .bind (.tryCatch (.bind (.ofExcept _) fun handler => ?_) fun fault => .pure _)
    fun outcome => ?_
  · cases handler with
    | none => exact .pure _
    | some handler => exact .bind (hhandle handler params) fun _ => .pure _
  · cases outcome with
    | none => exact hanswer _ _
    | some refusal => exact hrefuse _ _ _

/-- An open endpoint is replaced by another one. -/
lemma silent_endpoint {h : Host γ} (hopen : (h.session n).endpoint.isSome = true)
    (endpoint : Endpoint) :
    Silent joins n h (h.setSession n { h.session n with endpoint := some endpoint }) :=
  talk_setSession joins ⟨rfl, rfl, rfl, rfl, rfl, hopen.symm, rfl⟩

lemma silent_takeResponse (id result error : Json) :
    Lasts (Silent (γ := γ) joins n) (takeResponse n id result error) := by
  refine .get fun h => ?_
  rcases hendpoint : (h.session n).endpoint with _ | endpoint
  · exact refl_of _ h
  have hsettle : ∀ (answer : List (String × Except Fault Json)) (name : String) (h' : Host γ),
      (h'.session n).endpoint.isSome = true →
        Silent joins n h' ((Act.modifySession n fun s =>
          { s with
            endpoint := some
              { endpoint with
                pending := endpoint.pending.erase name
                answers := endpoint.answers ++ answer } } : Act γ Unit) h').2 :=
    fun answer name h' hopen => silent_endpoint hopen _
  have hopen : (h.session n).endpoint.isSome = true := by
    rw [hendpoint]
    rfl
  refine bind_leads (R := Silent joins n) (Lasts.ofExcept _ h) fun found _ => ?_
  rw [ofExcept_snd]
  cases found with
  | none => exact refl_of _ h
  | some name =>
    have hfirst := hsettle [] name h hopen
    have hopen' := hfirst.self.endpoint.trans hopen
    refine bind_leads (R := Silent joins n) hfirst fun _ _ => ?_
    cases error with
    | null => exact hsettle _ name _ hopen'
    | _ =>
      refine bind_leads (R := Silent joins n) (Lasts.ofExcept _ _) fun fault _ => ?_
      rw [ofExcept_snd]
      exact hsettle _ name _ hopen'

/-! ## Sending -/

/-- The message is not the first request of a session, which a scripted server gets marked. -/
def Plain (message : Json) : Prop :=
  (message.member? "method").bind Json.text? ≠ some (Text.ofString "initialize")

lemma plain_notice (notice : Notice) : Plain notice.message := by
  cases notice <;>
    simp [Plain, Notice.message, Message.notification, Json.member?, Json.object, findMember?,
      Json.ofString, Json.text?]

lemma plain_response (id result : Json) : Plain (Message.response id result) := by
  simp [Plain, Message.response, Json.member?, Json.object, findMember?]

lemma plain_errorResponse (id : Json) (code : Int) (text : Text) :
    Plain (Message.errorResponse id code text) := by
  simp [Plain, Message.errorResponse, Json.member?, Json.object, findMember?]

lemma asScripted_plain {message : Json} (hplain : Plain message) :
    asScripted message = .ok message := by
  unfold asScripted
  exact if_pos hplain

/-- The wire sends a message at once, and after that the session talks of its own accord. -/
def Prompt (joins : Bool) (wire : Wire γ) : Prop :=
  ∀ n message h, Plain message →
    Chats joins n false (h.noteSent n (.message message)) (wire n message h).2

/-- The wire does nothing but refuse. -/
def Refuses (wire : Wire γ) : Prop :=
  ∀ n message h, wire n message h = (.error .tooDeep, h)

/-- The wire sends, or it refuses. -/
def Usable (joins : Bool) (wire : Wire γ) : Prop :=
  Refuses wire ∨ Prompt joins wire

variable {wire : Wire γ} {h : Host γ}

/-- What may be said is sent first, and the rest of the talk comes back. -/
lemma Prompt.talk (hw : Prompt joins wire) {message : Json} (hplain : Plain message)
    (hsay : Sayable joins h n (.message message)) :
    ∃ l, Talk joins n h (wire n message h).2 (.message message :: l) ∧ Orderly false h n l := by
  obtain ⟨l, a, hl⟩ := hw n message h hplain
  have hsent := talk_noteSent hsay
  exact ⟨l, hsent.trans a, hsent.orderly hl⟩

lemma Usable.chats (hw : Usable joins wire) {message : Json} (hplain : Plain message)
    (hsay : Sayable joins h n (.message message)) (hlists : h.ListsFolders n (.message message)) :
    Chats joins n true h (wire n message h).2 := by
  rcases hw with hw | hw
  · rw [hw]
    exact refl_of _ h
  · obtain ⟨l, a, hl⟩ := hw.talk hplain hsay
    exact ⟨_, a, opened_true _, List.forall_mem_cons.2 ⟨hlists, hl.lists⟩⟩

/-- What carries no notice may be said by anyone. -/
lemma sayable_of_notice? {message : Json} (hnotice : Notice.ofMessage? message = none) :
    Sayable joins h n (.message message) := by
  refine ⟨truthful_of_notice? ?_, ?_⟩
  · simp [Sent.settings?, Sent.notice?, hnotice]
  · simp [Sent.starts, Sent.notice?, hnotice]

/-- What informs no one may be sent at any time. -/
lemma Usable.chats_of_notice? (hw : Usable joins wire) {message : Json} (hplain : Plain message)
    (hnotice : Notice.ofMessage? message = none) : Chats joins n told h (wire n message h).2 := by
  have hquiet : (Sent.message message).informs = false := Sent.informs_of_notice? hnotice
  rcases hw with hw | hw
  · rw [hw]
    exact refl_of _ h
  · obtain ⟨l, a, hl⟩ := hw.talk hplain (sayable_of_notice? (h := h) (n := n) hnotice)
    have hfirst : Orderly told h n [.message message] := by
      refine ⟨⟨fun hinforms => ?_, trivial⟩, List.forall_mem_singleton.2 (lists_of_folders? ?_)⟩
      · rw [hquiet] at hinforms
        cases hinforms
      · simp [Sent.folders?, Sent.notice?, hnotice]
    exact ⟨_, a, hfirst.append hl.mono⟩

lemma lasts_takeRequest (hw : Usable joins wire) (id method params : Json) :
    Lasts (Chats (γ := γ) joins n told) (takeRequest wire n id method params) :=
  leads_takeRequest (fun handler params => (silent_handle handler params).chats)
    (fun _ _ _ => hw.chats_of_notice? (plain_response _ _) (by simp))
    (fun _ _ _ _ => hw.chats_of_notice? (plain_errorResponse _ _ _) (by simp)) id method params

lemma lasts_take (hw : Usable joins wire) (message : Json) :
    Lasts (Chats (γ := γ) joins n told) (take wire n message) := by
  refine .bind (.ofExcept _) fun versioned => ?_
  split
  · exact .pure ()
  refine .bind (.ofExcept _) fun version => ?_
  split
  · exact .pure ()
  split
  · exact .bind (.ofExcept _) fun _ => (silent_takeNotification _ _).chats
  · exact (silent_takeResponse _ _ _).chats
  · exact lasts_takeRequest hw _ _ _

/-! ## Telling the server something -/

lemma settings?_message (notice : Notice) :
    (Sent.message notice.message).settings? = notice.settings? := by
  simp [Sent.settings?, Sent.notice?]

lemma folders?_message (notice : Notice) :
    (Sent.message notice.message).folders? = notice.folders? := by
  simp [Sent.folders?, Sent.notice?]

/-- What telling comes down to, by the peer of the session. -/
lemma notify_eq (notice : Notice) : notify wire n notice h =
    (match (h.session n).peer with
      | .standIn failing _ =>
        (do
          if failing.contains notice.word then throw (Fault.raised "broken pipe")
          modify (Host.noteSent n (.notice notice)) : Act γ Unit)
      | _ =>
        match (h.session n).endpoint with
        | none => throw (Fault.problem (.sessionNotRunning notice.method))
        | some _ => wire n notice.message) h :=
  rfl

lemma notify_refused (wire : Wire γ) {notice : Notice}
    (htakes : (h.session n).takes notice.word = false) :
    ∃ fault, notify wire n notice h = (.error fault, h) := by
  rw [Session.takes] at htakes
  rw [notify_eq]
  cases hpeer : (h.session n).peer with
  | standIn failing stopFault =>
    have hfails : failing.contains notice.word = true := by simpa [hpeer] using htakes
    exact ⟨_, by simp only [hfails]; rfl⟩
  | _ =>
    have hclosed : (h.session n).endpoint = none := by simpa [hpeer] using htakes
    exact ⟨_, by simp only [hclosed]; rfl⟩

lemma notify_takes {notice : Notice} (htakes : (h.session n).takes notice.word = true) :
    notify wire n notice h =
      if (h.session n).isWired then wire n notice.message h
      else (.ok (), h.noteSent n (.notice notice)) := by
  rw [Session.takes] at htakes
  rw [notify_eq, Session.isWired]
  cases hpeer : (h.session n).peer with
  | standIn failing stopFault =>
    have hfails : failing.contains notice.word = false := by simpa [hpeer] using htakes
    simp only [hfails]
    rfl
  | _ =>
    have hopen : (h.session n).endpoint.isSome = true := by simpa [hpeer] using htakes
    obtain ⟨endpoint, hendpoint⟩ := Option.isSome_iff_exists.1 hopen
    simp only [hendpoint]
    rfl

/-- A stand-in may keep the notice that may be said over a wire. -/
lemma sayable_notice {notice : Notice} (hsay : Sayable joins h n (.message notice.message)) :
    Sayable joins h n (.notice notice) :=
  hsay.congr (Sent.notice?_message notice).symm

lemma lists_notice {notice : Notice} (hlists : h.ListsFolders n (.message notice.message)) :
    h.ListsFolders n (.notice notice) :=
  fun params st ws hfolders => hlists params st ws ((folders?_message notice).trans hfolders)

/-- A prompt wire hands the server every notice that it can be told. -/
lemma Prompt.hands (hw : Prompt joins wire) (n : Nat) (notice : Notice) (h : Host γ) :
    Hands joins n notice h (notify wire n notice h).2 := by
  cases htakes : (h.session n).takes notice.word with
  | false =>
    obtain ⟨fault, hrun⟩ := notify_refused wire htakes
    rw [hrun]
    exact Or.inl ⟨htakes, .refl joins n h⟩
  | true =>
    refine Or.inr ⟨htakes, ?_⟩
    rw [notify_takes htakes]
    cases hwired : (h.session n).isWired with
    | true =>
      obtain ⟨l, a, hl⟩ := hw n notice.message h (plain_notice notice)
      exact ⟨.message notice.message, l, by simp [Sent.notice?], a, ⟨hl.opened, hl.lists⟩,
        by simp⟩
    | false =>
      exact ⟨.notice notice, [], rfl, .refl joins n _, .nil false h n, fun _ => rfl⟩

/-- A prompt wire tells the server every notice that may be said. -/
lemma Prompt.tells (hw : Prompt joins wire) {notice : Notice}
    (hsay : Sayable joins h n (.message notice.message)) :
    Tells joins n notice h (notify wire n notice h).2 :=
  (hw.hands n notice h).tells hsay

/-- On a usable wire telling is a talk; nothing is said where no endpoint is open. -/
lemma Usable.talk_notify (hw : Usable joins wire) {notice : Notice}
    (hsay : Sayable joins h n (.message notice.message))
    (hlists : h.ListsFolders n (.message notice.message)) :
    ∃ l, Talk joins n h (notify wire n notice h).2 l ∧ (∀ x ∈ l, h.ListsFolders n x) ∧
      ((h.session n).isWired = true → (h.session n).endpoint.isSome = false → l = []) := by
  cases htakes : (h.session n).takes notice.word with
  | false =>
    obtain ⟨fault, hrun⟩ := notify_refused wire htakes
    rw [hrun]
    exact ⟨[], .refl joins n h, by simp, fun _ _ => rfl⟩
  | true =>
    rw [notify_takes htakes]
    cases hwired : (h.session n).isWired with
    | true =>
      have hopen : (h.session n).endpoint.isSome = true :=
        (Session.takes_of_isWired hwired notice.word).symm.trans htakes
      obtain ⟨l, a, hl⟩ := hw.chats (plain_notice notice) hsay hlists
      exact ⟨l, a, hl.lists, fun _ hclosed => absurd hopen (by simp [hclosed])⟩
    | false =>
      exact ⟨_, talk_noteSent (sayable_notice hsay),
        List.forall_mem_singleton.2 (lists_notice hlists), by simp⟩

/-! ## Seeding -/

lemma buildSettings_run (store : Nat) (h : Host γ) :
    ∃ platform : Platform, platform.cwd = h.platform.cwd ∧ buildSettings store h =
      (.ok (Settings.build (h.store store)).1, { h with platform }) := by
  have hrun : buildSettings store h =
      (.ok (Settings.buildNoted (h.store store) h.platform).1,
        { h with platform := (Settings.buildNoted (h.store store) h.platform).2 }) := rfl
  have hsame : (Settings.buildNoted (h.store store) h.platform).1 =
      (Settings.build (h.store store)).1 := by
    rw [Settings.buildNoted]
    rcases Settings.build (h.store store) with ⟨settings, _ | problem⟩ <;> rfl
  exact ⟨_, Settings.cwd_buildNoted _ _, by rw [hrun, hsame]⟩

/-- A handler that only notes the fault adds nothing to what was said. -/
lemma quiet_guarded {a : Act γ Unit} {handler : Fault → Act γ Unit} (h : Host γ)
    (hhandler : ∀ fault h', Talk joins n h' (handler fault h').2 []) :
    Talk joins n (a h).2 (Act.guarded a handler h).2 [] := by
  rcases hres : a h with ⟨result, h'⟩
  cases result with
  | ok x =>
    rw [Act.guarded, tryCatch_ok hres]
    exact .refl joins n h'
  | error fault =>
    rw [Act.guarded, tryCatch_error hres]
    exact hhandler fault h'

/-- The settings of the store that a session seeds its server with may be sent. -/
lemma truthful_configuration {store workspace : Nat}
    (hhook : (h.session n).endpoint.isSome = true → (h.session n).hook = .seed store workspace) :
    h.Truthful n (.message (Notice.configuration (Settings.build (h.store store)).1).message) := by
  intro settings st ws hsettings hopen hseed
  rw [settings?_message] at hsettings
  cases hsettings
  rw [hhook hopen] at hseed
  cases hseed
  rfl

lemma truthful_folders (params : Json) :
    h.Truthful n (.message (Notice.folders params).message) :=
  truthful_of_notice? (settings?_message _)

lemma sayable_configuration {store workspace : Nat}
    (hhook : (h.session n).endpoint.isSome = true → (h.session n).hook = .seed store workspace) :
    Sayable joins h n
      (.message (Notice.configuration (Settings.build (h.store store)).1).message) :=
  ⟨truthful_configuration hhook, by simp [Sent.starts, Sent.notice?]⟩

lemma sayable_folders (params : Json) :
    Sayable joins h n (.message (Notice.folders params).message) :=
  ⟨truthful_folders params, by simp [Sent.starts, Sent.notice?]⟩

section Guarded

variable {α : Type} {find : Act γ α} {handler : Fault → Act γ Unit}

/-- What is found out first, without touching more than the platform, is told by a prompt wire. -/
lemma Prompt.tells_guarded (hw : Prompt joins wire) (notice : α → Notice)
    (hhandler : ∀ fault h', Talk joins n h' (handler fault h').2 []) {x : α} {platform : Platform}
    (hcwd : platform.cwd = h.platform.cwd) (hfind : find h = (.ok x, { h with platform }))
    (hsay : Sayable joins h n (.message (notice x).message)) :
    Tells joins n (notice x) h
      (Act.guarded (find >>= fun x => notify wire n (notice x)) handler h).2 := by
  refine Tells.quiet ?_ (quiet_guarded h hhandler)
  rw [bind_ok hfind]
  exact Tells.after (talk_platform joins n hcwd) (hw.tells ⟨hsay.truthful, hsay.greets⟩)

lemma Usable.talk_guarded (hw : Usable joins wire) (notice : α → Notice)
    (hhandler : ∀ fault h', Talk joins n h' (handler fault h').2 [])
    (hfind : ∃ platform : Platform,
      platform.cwd = h.platform.cwd ∧ (find h).2 = { h with platform })
    (hsay : ∀ x, (find h).1 = .ok x → Sayable joins h n (.message (notice x).message))
    (hlists : ∀ x, (find h).1 = .ok x → h.ListsFolders n (.message (notice x).message)) :
    ∃ l, Talk joins n h (Act.guarded (find >>= fun x => notify wire n (notice x)) handler h).2 l ∧
      (∀ x ∈ l, h.ListsFolders n x) ∧
      ((h.session n).isWired = true → (h.session n).endpoint.isSome = false → l = []) := by
  have hlast := quiet_guarded (a := find >>= fun x => notify wire n (notice x)) h hhandler
  obtain ⟨platform, hcwd, hfind⟩ := hfind
  have hfirst := talk_platform joins n hcwd
  rcases hres : find h with ⟨result, h'⟩
  rw [hres] at hfind hsay hlists
  dsimp only at hfind hsay hlists
  subst hfind
  cases result with
  | error fault =>
    rw [bind_error hres] at hlast
    exact ⟨[], hfirst.trans hlast, by simp, fun _ _ => rfl⟩
  | ok x =>
    rw [bind_ok hres] at hlast
    obtain ⟨htrue, hgreets⟩ := hsay x rfl
    obtain ⟨l, a, hl⟩ := hw.talk_notify (n := n) (h := { h with platform }) ⟨htrue, hgreets⟩
      (hlists x rfl)
    refine ⟨l, ?_, hl⟩
    have hall := (hfirst.trans a).trans hlast
    rwa [List.nil_append, List.append_nil] at hall

end Guarded

lemma Prompt.tells_settings (hw : Prompt joins wire) {store workspace : Nat}
    (hhook : (h.session n).endpoint.isSome = true → (h.session n).hook = .seed store workspace) :
    Tells joins n (.configuration (Settings.build (h.store store)).1) h
      (sendSettings wire store n h).2 := by
  obtain ⟨platform, hcwd, hbuild⟩ := buildSettings_run store h
  exact hw.tells_guarded .configuration (fun fault h' => talk_log joins n h' _ _ _ _) hcwd hbuild
    (sayable_configuration hhook)

lemma Usable.talk_sendSettings (hw : Usable joins wire) {store workspace : Nat}
    (hhook : (h.session n).endpoint.isSome = true → (h.session n).hook = .seed store workspace) :
    ∃ l, Talk joins n h (sendSettings wire store n h).2 l ∧ (∀ x ∈ l, h.ListsFolders n x) ∧
      ((h.session n).isWired = true → (h.session n).endpoint.isSome = false → l = []) := by
  obtain ⟨platform, hcwd, hbuild⟩ := buildSettings_run store h
  refine hw.talk_guarded .configuration (fun fault h' => talk_log joins n h' _ _ _ _)
    ⟨platform, hcwd, congrArg Prod.snd hbuild⟩ (fun settings hsettings => ?_)
    fun settings _ => lists_of_folders? (folders?_message _)
  rw [hbuild] at hsettings
  cases hsettings
  exact sayable_configuration hhook

lemma cwd_of_initial {workspace : Nat} {result : Except Fault (List String)} {platform : Platform}
    (hinitial : Folders.initial (h.workspace workspace) h.platform = (result, platform)) :
    platform.cwd = h.platform.cwd := by
  have hcwd := Folders.cwd_initial (h.workspace workspace) h.platform
  rwa [hinitial] at hcwd

/-- The folders of a workspace are told as they are found, unless the search for them fails. -/
lemma Prompt.tells_folders (hw : Prompt joins wire) {workspace : Nat} {uris : List String}
    {platform : Platform}
    (hinitial : Folders.initial (h.workspace workspace) h.platform = (.ok uris, platform)) :
    Tells joins n (.folders (Folders.changeParams uris [])) h
      (sendFolders wire workspace n h).2 := by
  have hfind : findFolders workspace h = (.ok uris, { h with platform }) := by
    change (let (result, platform) := Folders.initial (h.workspace workspace) h.platform
      (result, { h with platform })) = _
    rw [hinitial]
  exact hw.tells_guarded (fun uris => .folders (Folders.changeParams uris []))
    (fun fault h' => talk_log joins n h' _ _ _ _) (cwd_of_initial hinitial) hfind
    (sayable_folders _)

/-- A search for folders that fails is noted, and nothing is said. -/
lemma talk_sendFolders_failed {workspace : Nat} {fault : Fault} {platform : Platform}
    (hinitial : Folders.initial (h.workspace workspace) h.platform = (.error fault, platform)) :
    Talk joins n h (sendFolders wire workspace n h).2 [] := by
  have hfind : findFolders workspace h = (.error fault, { h with platform }) := by
    change (let (result, platform) := Folders.initial (h.workspace workspace) h.platform
      (result, { h with platform })) = _
    rw [hinitial]
  have hlast : Talk joins n (_ : Host γ) (sendFolders wire workspace n h).2 [] :=
    quiet_guarded h fun fault h' => talk_log joins n h' _ _ _ _
  rw [bind_error hfind] at hlast
  exact (talk_platform joins n (cwd_of_initial hinitial)).trans hlast

/-- Either some folders are told, or nothing is. -/
lemma Prompt.folders_cases (hw : Prompt joins wire) (workspace n : Nat) (h : Host γ) :
    (∃ uris, Tells joins n (.folders (Folders.changeParams uris [])) h
      (sendFolders wire workspace n h).2) ∨
    Talk joins n h (sendFolders wire workspace n h).2 [] := by
  rcases hinitial : Folders.initial (h.workspace workspace) h.platform with
    ⟨fault | uris, platform⟩
  · exact Or.inr (talk_sendFolders_failed hinitial)
  · exact Or.inl ⟨uris, hw.tells_folders hinitial⟩

lemma Usable.talk_sendFolders (hw : Usable joins wire) {store workspace : Nat}
    (hhook : (h.session n).endpoint.isSome = true → (h.session n).hook = .seed store workspace) :
    ∃ l, Talk joins n h (sendFolders wire workspace n h).2 l ∧ (∀ x ∈ l, h.ListsFolders n x) ∧
      ((h.session n).isWired = true → (h.session n).endpoint.isSome = false → l = []) := by
  refine hw.talk_guarded (fun uris => .folders (Folders.changeParams uris []))
    (fun fault h' => talk_log joins n h' _ _ _ _) ⟨_, Folders.cwd_initial _ h.platform, rfl⟩
    (fun uris _ => sayable_folders _) fun uris huris params st ws hfolders hopen hseed => ?_
  rw [hhook hopen] at hseed
  cases hseed
  have hinitial : (Folders.initial (h.workspace workspace) h.platform).1 = .ok uris := huris
  rw [folders?_message] at hfolders
  cases hfolders
  rw [Folders.initial_ok (Prod.ext hinitial rfl)]

lemma seed_idle {message : Json} (hm : Message.isStartResult message ≠ .ok true)
    (store workspace : Nat) : (seed wire store workspace n message h).2 = h := by
  have hrun : seed wire store workspace n message h =
      (Act.ofExcept (Message.isStartResult message) >>= fun isStart =>
        if isStart then sendSettings wire store n >>= fun _ => sendFolders wire workspace n
        else pure ()) h := rfl
  rw [hrun]
  rcases hres : Message.isStartResult message with fault | isStart
  · rfl
  · cases isStart with
    | true => exact absurd hres hm
    | false => rfl

lemma seed_run {message : Json} (hm : Message.isStartResult message = .ok true)
    (store workspace : Nat) : (seed wire store workspace n message h).2 =
      (sendFolders wire workspace n (sendSettings wire store n h).2).2 := by
  have hrun : seed wire store workspace n message h =
      (Act.ofExcept (Message.isStartResult message) >>= fun isStart =>
        if isStart then sendSettings wire store n >>= fun _ => sendFolders wire workspace n
        else pure ()) h := rfl
  have hok : (sendSettings wire store n h).1 = .ok () := guarded_fst h fun fault h' => rfl
  rw [hrun, hm]
  exact congrArg Prod.snd (bind_of_fst hok)

section Seeding

variable {R : Host γ → Host γ → Prop} [Std.Refl R] [IsTrans (Host γ) R]
  (hplatform : ∀ (h : Host γ) (platform : Platform), R h { h with platform })
  (hnotify : ∀ notice, Lasts R (notify wire n notice))

include hplatform hnotify

/-- Seeding a server keeps to whatever the machine and what the server is told do not matter to. -/
lemma leads_seed (store workspace : Nat) (message : Json) :
    Lasts R (seed wire store workspace n message) := by
  have hsettings : Lasts R (sendSettings wire store n) := by
    refine .guarded (.bind (fun h => ?_) fun settings => hnotify _) fun _ h => hplatform h _
    obtain ⟨platform, -, hrun⟩ := buildSettings_run store h
    rw [hrun]
    exact hplatform h platform
  have hfolders : Lasts R (sendFolders wire workspace n) :=
    .guarded (.bind (.get_all fun _ h => hplatform h _) fun uris => hnotify _)
      fun _ h => hplatform h _
  refine .bind (.ofExcept _) fun isStart => ?_
  split
  · exact .bind hsettings fun _ => hfolders
  · exact .pure ()

end Seeding

/-! ## The hook -/

/-- The host after the provider's hook was called. -/
def behindHook (wire : Wire γ) (n : Nat) (message : Json) (h : Host γ) : Host γ :=
  (Act.guarded (callHook wire n message) (fun fault =>
    logFor n .error "Message hook failed" [("error", .str fault.message)]) h).2

/-- The hook never fails, and behind it the endpoint takes the message in if it is still open. -/
lemma attend_eq (message : Json) (h : Host γ) : attend wire n message h =
    (if ((behindHook wire n message h).session n).endpoint.isSome then take wire n message
      else pure ()) (behindHook wire n message h) :=
  bind_of_fst (guarded_fst h fun _ _ => rfl)

/-- The hook seeds the server, or it does nothing that lasts. -/
lemma leads_behindHook {R : Host γ → Host γ → Prop} [Std.Refl R] [IsTrans (Host γ) R]
    (hplatform : ∀ (h : Host γ) (platform : Platform), R h { h with platform })
    (hnotify : ∀ notice, Lasts R (notify wire n notice)) (message : Json) (h : Host γ) :
    R { h with hooked := h.hooked ++ [(h.session n).rootUri h.platform.cwd] }
      (behindHook wire n message h) := by
  set h₀ : Host γ := { h with hooked := h.hooked ++ [(h.session n).rootUri h.platform.cwd] }
  have hhook : R h₀ (callHook wire n message h).2 := by
    simp only [callHook, get_bind, set_bind]
    cases (h.session n).hook with
    | none => exact refl_of R h₀
    | fail words => exact refl_of R h₀
    | seed store workspace => exact leads_seed hplatform hnotify store workspace message h₀
  unfold behindHook Act.guarded
  rcases hres : callHook wire n message h with ⟨result, h'⟩
  rw [hres] at hhook
  cases result with
  | ok x =>
    rw [tryCatch_ok hres]
    exact hhook
  | error fault =>
    rw [tryCatch_error hres]
    exact trans_of R hhook (hplatform h' _)

/-! ## Taking in a message -/

/-- Calling the hook is a talk. Nothing is said for a message that starts nothing, or where no
endpoint is open; and a server that is seeded gets its settings over a prompt wire. -/
lemma Usable.talk_callHook (hw : Usable joins wire) (message : Json) (h : Host γ) :
    ∃ l, Talk joins n h (callHook wire n message h).2 l ∧ (∀ x ∈ l, h.ListsFolders n x) ∧
      (Message.isStartResult message ≠ .ok true → l = []) ∧
      ((h.session n).isWired = true → (h.session n).endpoint.isSome = false → l = []) ∧
      (Prompt joins wire → Message.isStartResult message = .ok true →
        ∀ st ws, (h.session n).hook = .seed st ws → (h.session n).takes "config" = true →
          lastSettings l ≠ none) := by
  have hcalled := talk_hooked joins n h (h.hooked ++ [(h.session n).rootUri h.platform.cwd])
  simp only [callHook, get_bind, set_bind]
  cases hhook : (h.session n).hook with
  | none => exact ⟨[], hcalled, by simp, fun _ => rfl, fun _ _ => rfl, by simp⟩
  | fail words => exact ⟨[], hcalled, by simp, fun _ => rfl, fun _ _ => rfl, by simp⟩
  | seed store workspace =>
    dsimp only
    by_cases hm : Message.isStartResult message = .ok true
    · rw [seed_run hm]
      set h₀ : Host γ := { h with hooked := h.hooked ++ [(h.session n).rootUri h.platform.cwd] }
      obtain ⟨l, a, hlists, hl⟩ := hw.talk_sendSettings (n := n) (h := h₀) fun _ => hhook
      obtain ⟨l', b, hlists', hl'⟩ :=
        hw.talk_sendFolders (n := n) (h := (Wire.sendSettings wire store n h₀).2)
          fun _ => a.self.hook.trans hhook
      have hlisted : ∀ x ∈ l ++ l', h₀.ListsFolders n x :=
        List.forall_mem_append.2 ⟨hlists, fun x hx => (a.lists_iff x).1 (hlists' x hx)⟩
      refine ⟨[] ++ (l ++ l'), hcalled.trans (a.trans b), hlisted, fun hstart => absurd hm hstart,
        ?_, ?_⟩
      · intro hwired hclosed
        rw [hl hwired hclosed,
          hl' (a.self.isWired.trans hwired) (a.self.endpoint.trans hclosed)]
        rfl
      · intro hprompt _ st ws _ htakes
        rcases hprompt.tells_settings (n := n) (h := h₀) fun _ => hhook with
          ⟨hrefused, -⟩ | ⟨-, x, rest, hx, hnotice, -⟩
        · exact absurd (hrefused.symm.trans htakes) (by simp)
        · rw [a.unique hx, List.nil_append]
          exact lastSettings_append_ne_none (Or.inl (lastSettings_cons_ne_none hnotice rest))
    · rw [seed_idle hm]
      exact ⟨[], hcalled, by simp, fun _ => rfl, fun _ _ => rfl, fun _ hstart => absurd hstart hm⟩

/-- What follows the welcome is a talk: of answers to requests only, unless a server is seeded. -/
lemma Usable.talk_attend (hw : Usable joins wire) (message : Json) (h : Host γ) :
    ∃ l, Talk joins n h (attend wire n message h).2 l ∧ (∀ x ∈ l, h.ListsFolders n x) ∧
      (Message.isStartResult message ≠ .ok true → Opened false l) ∧
      ((h.session n).isWired = true → (h.session n).endpoint.isSome = false → l = []) ∧
      (Prompt joins wire → Message.isStartResult message = .ok true →
        ∀ st ws, (h.session n).hook = .seed st ws → (h.session n).takes "config" = true →
          lastSettings l ≠ none) := by
  obtain ⟨l, a, hlists, hidle, hclosed, hseeded⟩ := hw.talk_callHook (n := n) message h
  have b : Talk joins n (callHook wire n message h).2 (behindHook wire n message h) [] :=
    quiet_guarded h fun fault h' => talk_log joins n h' _ _ _ _
  have hcall := a.trans b
  have htail : ∀ h' : Host γ, Chats joins n false h'
      ((if (h'.session n).endpoint.isSome then take wire n message else pure ()) h').2 := by
    intro h'
    split
    · exact lasts_take hw message h'
    · exact refl_of _ h'
  obtain ⟨l', c, hl'⟩ := htail (behindHook wire n message h)
  rw [attend_eq]
  refine ⟨l ++ [] ++ l', hcall.trans c, ?_, fun hm => ?_, fun hwired hshut => ?_,
    fun hprompt hm st ws hhook htakes => ?_⟩
  · rw [List.append_nil]
    exact List.forall_mem_append.2 ⟨hlists, (hcall.orderly hl').lists⟩
  · rw [hidle hm]
    exact hl'.opened
  · have hshut' : ((behindHook wire n message h).session n).endpoint.isSome = false :=
      hcall.self.endpoint.trans hshut
    rw [if_neg (Bool.eq_false_iff.1 hshut')] at c
    rw [hclosed hwired hshut, c.unique (Talk.refl joins n _)]
    rfl
  · rw [List.append_nil]
    exact lastSettings_append_ne_none (Or.inl (hseeded hprompt hm st ws hhook htakes))

/-! ## The welcome -/

/-- The message answers the first request of a session whose endpoint is open. -/
def Welcomes (h : Host γ) (n : Nat) (message : Json) : Prop :=
  (h.session n).endpoint.isSome = true ∧ Message.isStartResult message = .ok true

lemma welcome_eq (message : Json) : welcome wire n message h =
    (if (h.session n).endpoint.isSome = true then
      Act.ofExcept (Message.isStartResult message) >>= fun isStart =>
        if isStart then wire n Notice.started.message >>= fun _ => modify (Host.register n)
        else pure ()
      else pure () : Act γ Unit) h := by
  rfl

lemma welcome_idle (wire : Wire γ) {message : Json} (hidle : ¬ Welcomes h n message) :
    (welcome wire n message h).2 = h := by
  rw [welcome_eq]
  by_cases hopen : (h.session n).endpoint.isSome = true
  · rw [if_pos hopen]
    rcases hm : Message.isStartResult message with fault | isStart
    · rfl
    · cases isStart with
      | true => exact absurd ⟨hopen, hm⟩ hidle
      | false => rfl
  · rw [if_neg hopen]
    rfl

lemma welcome_run (wire : Wire γ) {message : Json} (hwelcome : Welcomes h n message) :
    welcome wire n message h =
      (wire n Notice.started.message >>= fun _ => modify (Host.register n)) h := by
  rw [welcome_eq, if_pos hwelcome.1, hwelcome.2]
  rfl

/-- A message that welcomes no one is taken in as a talk without an introduction. -/
theorem Usable.talk_consume_idle (hw : Usable joins wire) {message : Json}
    (hidle : ¬ Welcomes h n message) :
    ∃ l, Talk joins n h (consume wire n message h).2 l ∧
      ((h.session n).isWired = true → Orderly false h n l) ∧
      ((h.session n).isWired = true → (h.session n).endpoint.isSome = false → l = []) := by
  have hsame := welcome_idle wire hidle
  rcases hres : welcome wire n message h with ⟨result, h'⟩
  rw [hres] at hsame
  dsimp only at hsame
  subst hsame
  cases result with
  | error fault =>
    have hrun : consume wire n message h' = (.error fault, h') := bind_error hres
    rw [hrun]
    exact ⟨[], .refl joins n h', fun _ => .nil false h' n, fun _ _ => rfl⟩
  | ok x =>
    have hrun : consume wire n message h' = attend wire n message h' := bind_ok hres
    obtain ⟨l, a, hlists, hl, hclosed, -⟩ := hw.talk_attend (n := n) message h'
    rw [hrun]
    refine ⟨l, a, fun hwired => ⟨?_, hlists⟩, hclosed⟩
    by_cases hm : Message.isStartResult message = .ok true
    · rw [hclosed hwired (Bool.eq_false_iff.2 fun hopen => hidle ⟨hopen, hm⟩)]
      trivial
    · exact hl hm

/-- After `initialized` anything may be said that is not about folders, and the folders of the
workspace. -/
lemma orderly_started {l : List Sent} (hl : ∀ x ∈ l, h.ListsFolders n x) :
    Orderly false h n (.message Notice.started.message :: l) := by
  refine ⟨opened_cons_starts ?_ ?_ false, List.forall_mem_cons.2 ⟨?_, hl⟩⟩
  · simp [Sent.informs, Sent.settings?, Sent.folders?, Sent.notice?, Notice.settings?,
      Notice.folders?]
  · simp [Sent.starts, Sent.notice?]
  · exact lists_of_folders? (folders?_message _)

/-- An answer to the first request introduces the session before all else, and registers it unless
the introduction fails. -/
theorem Prompt.talk_consume (hw : Prompt joins wire) {message : Json}
    (hwelcome : Welcomes h n message) :
    ∃ l, Talk true n h (consume wire n message h).2 (.message Notice.started.message :: l) ∧
      (∀ x ∈ l, h.ListsFolders n x) ∧
      ((wire n Notice.started.message h).1 = .ok () → n ∈ (consume wire n message h).2.active) := by
  obtain ⟨l, c, hl⟩ := hw n Notice.started.message h (plain_notice _)
  have hsent : Talk true n h (h.noteSent n (.message Notice.started.message)) [_] :=
    talk_noteSent ⟨truthful_of_notice? (settings?_message _), fun _ => rfl⟩
  have hlists := (hsent.orderly hl).lists
  have a := hsent.trans c.mono
  rcases hres : wire n Notice.started.message h with ⟨result, h'⟩
  rw [hres, List.singleton_append] at a
  dsimp only at a
  have hstart := welcome_run wire hwelcome
  cases result with
  | error fault =>
    have hfailed : consume wire n message h = (.error fault, h') :=
      bind_error (hstart.trans (bind_error hres))
    rw [hfailed]
    exact ⟨l, a, hlists, by simp⟩
  | ok x =>
    have hrun : consume wire n message h = attend wire n message (h'.register n) :=
      bind_ok (hstart.trans (bind_ok hres))
    obtain ⟨l', b, hlists', -, -, hseeded⟩ :=
      Usable.talk_attend (n := n) (Or.inr hw) message (h'.register n)
    have hregister : ∀ x, (h'.register n).ListsFolders n x ↔ h'.ListsFolders n x := fun x => by
      simp only [ListsFolders, session_register, (undisturbed_register n h').workspace]
    have hlisted : ∀ x ∈ l', h.ListsFolders n x := fun x hx =>
      (a.lists_iff x).1 ((hregister x).1 (hlists' x hx))
    rw [hrun]
    refine ⟨l ++ l', ?_, List.forall_mem_append.2 ⟨hlists, hlisted⟩,
      fun _ => b.subset_active (mem_active_register_self n h')⟩
    have hsame := a.self
    refine a.welcome b.mono hwelcome.1 ⟨by simp [Sent.starts, Sent.notice?], ?_⟩
    intro st ws hhook htakes
    refine lastSettings_append_ne_none (Or.inr (hseeded hw hwelcome.2 st ws ?_ ?_))
    · rw [session_register]
      exact hsame.hook.trans hhook
    · rw [session_register]
      exact (hsame.takes _).trans htakes

/-- Whatever a wired session takes in over a usable wire is a talk in the right order. -/
theorem Usable.talk_consume (hw : Usable joins wire) (message : Json) (h : Host γ) :
    ∃ l, Talk true n h (consume wire n message h).2 l ∧
      ((h.session n).isWired = true → Orderly false h n l) ∧
      ((h.session n).isWired = true → (h.session n).endpoint.isSome = false → l = []) := by
  by_cases hwelcome : Welcomes h n message
  · rcases hw with hw | hw
    · have hstart := welcome_run wire hwelcome
      have hfailed : consume wire n message h = (.error .tooDeep, h) :=
        bind_error (hstart.trans (bind_error (hw n _ h)))
      rw [hfailed]
      exact ⟨[], .refl true n h, fun _ => .nil false h n, fun _ _ => rfl⟩
    · obtain ⟨l, a, hlists, -⟩ := hw.talk_consume hwelcome
      exact ⟨_, a, fun _ => orderly_started hlists,
        fun _ hclosed => absurd hwelcome.1 (Bool.eq_false_iff.1 hclosed)⟩
  · obtain ⟨l, a, hl⟩ := hw.talk_consume_idle hwelcome
    exact ⟨l, a.mono, hl⟩

/-! ## The open wire -/

/-- A session that talks over a wire talked of its own accord. -/
def Converses (n : Nat) (h h' : Host γ) : Prop :=
  (h.session n).isWired = true → Chats true n false h h'

instance (n : Nat) : Std.Refl (Converses (γ := γ) n) where
  refl h := fun _ => refl_of _ h

instance (n : Nat) : IsTrans (Host γ) (Converses n) where
  trans := by
    intro h h' h'' a b hwired
    obtain ⟨l, t, hl⟩ := a hwired
    exact trans_of (Chats true n false) ⟨l, t, hl⟩ (b (t.self.isWired.trans hwired))

lemma lasts_converses {α : Type} {act : Act γ α} (hact : Lasts (Chats true n false) act) :
    Lasts (Converses n) act :=
  fun h _ => hact h

lemma Usable.lasts_consume (hw : Usable joins wire) (message : Json) :
    Lasts (Converses (γ := γ) n) (consume wire n message) := by
  intro h hwired
  obtain ⟨l, a, hl, -⟩ := hw.talk_consume (n := n) message h
  exact ⟨l, a, hl hwired⟩

lemma Usable.lasts_consumeAll (hw : Usable joins wire) (messages : List Json) :
    Lasts (Converses (γ := γ) n) (consumeAll wire n messages) := by
  induction messages with
  | nil => exact .pure ()
  | cons message rest ih => exact .bind (hw.lasts_consume message) fun _ => ih

/-- Handing a message to a child always succeeds, and only the child itself takes notice. -/
lemma writeToChild_run (n : Nat) (message : Json) (h : Host γ) :
    (writeToChild n message h).1 = .ok () ∧
      Talk false n (h.noteSent n (.message message)) (writeToChild n message h).2 [] := by
  set h₀ := h.noteSent n (.message message) with hh₀
  unfold writeToChild
  rw [modify_bind, get_bind, ← hh₀]
  cases (h₀.session n).provider.child? with
  | none => exact ⟨rfl, .refl false n h₀⟩
  | some child =>
    refine ⟨rfl, ?_⟩
    exact (talk_received false n h₀ _).trans
      (talk_setSession false ⟨rfl, rfl, rfl, rfl, rfl, rfl, rfl⟩)

theorem prompt_writeToChild : Prompt false (writeToChild (γ := γ)) := by
  intro n message h _
  exact (writeToChild_run n message h).2.chats false

lemma lasts_takeFrame : Lasts (Converses (γ := γ) n) (takeFrame n) := by
  refine lasts_converses (Lasts.get_all fun h => ?_)
  dsimp only
  split
  · exact .pure _
  · split
    · exact .pure _
    · exact .pure _
    · exact .bind (lasts_modifySession fun s => ⟨rfl, rfl, rfl, rfl, rfl, rfl, rfl⟩) fun _ => .pure _
    · exact .bind (lasts_modifySession fun s => ⟨rfl, rfl, rfl, rfl, rfl, rfl, rfl⟩) fun _ => .pure _
    · exact .pure _

lemma lasts_endReading : Lasts (Converses (γ := γ) n) (endReading n) :=
  lasts_converses (lasts_modifySession fun _ => ⟨rfl, rfl, rfl, rfl, rfl, rfl, rfl⟩)

lemma lasts_readBody (bytes : List UInt8) : Lasts (Converses (γ := γ) n) (readBody n bytes) := by
  refine .guarded ?_ fun _ => lasts_endReading
  unfold consumeBody
  cases Framing.parse? bytes with
  | none => exact .pure ()
  | some message => exact Usable.lasts_consume (Or.inr prompt_writeToChild) message

lemma lasts_drain (fuel : Nat) : Lasts (Converses (γ := γ) n) (drain n fuel) := by
  induction fuel with
  | zero => exact .pure ()
  | succ fuel ih =>
    refine .get_all fun h => ?_
    split
    · refine .bind lasts_takeFrame fun taken => ?_
      cases taken with
      | nothing => exact .pure ()
      | broken => exact lasts_endReading
      | body bytes => exact .bind (lasts_readBody bytes) fun _ => ih
      | again =>
        refine .get_all fun h' => ?_
        cases (h'.session n).reader.last with
        | some bytes => exact .bind (lasts_readBody bytes) fun _ => ih
        | none => exact lasts_endReading
    · exact .pure ()

/-- To whatever depth replies are followed, the wire sends in the right order or refuses. -/
theorem prompt_openWithin (depth : Nat) : Prompt true (openWithin (γ := γ) (depth + 1)) := by
  have husable : Usable true (openWithin (γ := γ) depth) := by
    cases depth with
    | zero => exact Or.inl fun _ _ _ => rfl
    | succ depth => exact Or.inr (prompt_openWithin depth)
  intro n message h hplain
  simp only [openWithin, get_bind]
  cases hpeer : (h.session n).peer with
  | standIn failing stopFault => exact refl_of _ _
  | script conversation =>
    have hwired : ((h.noteSent n (.message message)).session n).isWired = true := by
      change (h.session n).isWired = true
      rw [Session.isWired, hpeer]
    obtain ⟨l, b, hl⟩ := husable.lasts_consumeAll (repliesTo conversation message) _ hwired
    refine ⟨l, ?_, hl⟩
    dsimp only
    rw [asScripted_plain hplain]
    exact b
  | child =>
    have hwired : (h.session n).isWired = true := by
      rw [Session.isWired, hpeer]
    obtain ⟨hok, hquiet⟩ := writeToChild_run n message h
    obtain ⟨l, c, hl⟩ := lasts_drain maxFrames _ (hquiet.self.isWired.trans hwired)
    refine ⟨l, ?_, hquiet.orderly hl⟩
    dsimp only
    rw [bind_of_fst hok]
    exact hquiet.mono.trans c

/-- Over the open wire a message is sent at once, and what comes back is a talk in the order that
the protocol asks for. -/
theorem prompt_opened : Prompt true (opened (γ := γ)) :=
  prompt_openWithin 99

end LanguageHost.Wire
