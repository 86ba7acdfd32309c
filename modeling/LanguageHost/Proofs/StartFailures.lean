import LanguageHost.Proofs.FirstAnswer

/-!
# What a start that fails reports

A start goes well if the answer to the first request is a result with capabilities, or one that
counts as nothing. It fails with a problem of the server if the process cannot be launched, and if
there is no answer in time and the stream to the server is not clogged when the session gives up.
All other failures are of other kinds: a NUL in the command, the failure that the server answers
with, a result that holds no names, and the fault of closing a clogged stream.
-/

namespace LanguageHost

open Act Host Message

variable {γ : Type} {n : Nat} {h : Host γ}

/-! ## Problems of a server -/

/-- The fault is a problem of a server. -/
def Fault.IsLsp (fault : Fault) : Prop :=
  ∃ problem, fault = .problem problem ∧ problem.kind.isA .lsp = true

/-- The failure of a request is no problem of the server. -/
lemma Failure.not_isLsp {error : Json} {fault : Fault} (h : ofError error = .ok fault) :
    ¬ fault.IsLsp := by
  have hrpc : ∃ kind words, fault = .rpc kind words := by
    unfold ofError at h
    cases hcode : error.require "code" with
    | error missing =>
      rw [hcode] at h
      cases h
    | ok code =>
      rw [hcode] at h
      cases hkind : kindOf code with
      | error disorder =>
        simp only [hkind, bind, Except.bind] at h
        cases h
      | ok kind =>
        simp only [hkind, bind, Except.bind, throw, throwThe, MonadExceptOf.throw, pure,
          Except.pure] at h
        grind
  obtain ⟨kind, words, rfl⟩ := hrpc
  rintro ⟨problem, ⟨⟩, -⟩

/-- Neither is a time that cannot be waited for. -/
lemma Waiting.not_isLsp {timeout : Json} {fault : Fault} (h : fault? timeout = some fault) :
    ¬ fault.IsLsp := by
  rintro ⟨problem, rfl, -⟩
  unfold fault? at h
  split at h <;> simp at h

/-! ## Launching -/

namespace Launch

variable {p : Platform} {command : List String} {folder : Option String}

/-- A NUL is noticed before anything else. -/
lemma start_nul (hnul : ∃ text ∈ command ++ folder.toList, '\x00' ∈ text.toList) :
    start p command folder = .error .nulByte := by
  obtain ⟨text, hmem, hin⟩ := hnul
  have hany : (command ++ folder.toList).any (fun t => t.toList.contains '\x00') = true :=
    List.any_eq_true.2 ⟨text, hmem, by simpa using hin⟩
  unfold start
  dsimp only
  rw [if_pos hany]

/-- Without one it is the operating system that refuses to launch. -/
lemma start_clean (hclean : ∀ text ∈ command ++ folder.toList, '\x00' ∉ text.toList) {fault : Fault}
    (hfault : start p command folder = .error fault) : ∃ f, fault = .os f := by
  have hnone : ¬ (command ++ folder.toList).any (fun t => t.toList.contains '\x00') = true := by
    intro hany
    obtain ⟨text, hmem, hin⟩ := List.any_eq_true.1 hany
    exact hclean text hmem (by simpa using hin)
  unfold start at hfault
  dsimp only at hfault
  rw [if_neg hnone] at hfault
  split at hfault
  · cases hfault
    exact ⟨_, rfl⟩
  · split at hfault
    · cases hfault
      exact ⟨_, rfl⟩
    · cases hfault

end Launch

/-- There is no NUL in what the connection hands to the operating system. -/
def Connection.IsClean (provider : Connection) : Prop :=
  provider.commands ≠ [] →
    ∀ text ∈ provider.commands ++ provider.folder.toList, '\x00' ∉ text.toList

/-- A connection starts, or fails with a problem of the server, unless there is a NUL in its way. -/
lemma Connection.start_reports (provider : Connection) (p : Platform) :
    (∀ fault, (provider.start p).1 = .error fault → fault.IsLsp) ↔ provider.IsClean := by
  unfold IsClean
  cases hcommands : provider.commands with
  | nil =>
    refine iff_of_true (fun fault hfault => ?_) (by simp)
    unfold Connection.start at hfault
    rw [hcommands] at hfault
    cases hfault
    exact ⟨_, rfl, rfl⟩
  | cons program arguments =>
    rw [← hcommands]
    have hsome : ¬ provider.commands.isEmpty = true := by simp [hcommands]
    set p' := p.log "lsp.connection" .info "Starting language server"
      [("command", (" ".intercalate provider.commands : String))]
    have hlogged : Task.log "lsp.connection" .info "Starting language server"
      [("command", (" ".intercalate provider.commands : String))] p = (.ok (), p') := rfl
    unfold Connection.start
    rw [if_neg hsome]
    dsimp only
    rw [bind_ok hlogged, get_bind]
    by_cases hnul : ∃ text ∈ provider.commands ++ provider.folder.toList, '\x00' ∈ text.toList
    · rw [Launch.start_nul hnul]
      refine iff_of_false (fun hall => ?_) fun hclean => ?_
      · obtain ⟨problem, hproblem, -⟩ := hall _ rfl
        cases hproblem
      · obtain ⟨text, hmem, hin⟩ := hnul
        exact hclean (by simp [hcommands]) text hmem hin
    · have hclean : ∀ text ∈ provider.commands ++ provider.folder.toList, '\x00' ∉ text.toList :=
        fun text hmem hin => hnul ⟨text, hmem, hin⟩
      refine iff_of_true (fun fault hfault => ?_) fun _ => hclean
      cases hlaunch : Launch.start p' provider.commands provider.folder with
      | ok child =>
        rw [hlaunch] at hfault
        cases hfault
      | error refusal =>
        obtain ⟨f, rfl⟩ := Launch.start_clean hclean hlaunch
        rw [hlaunch] at hfault
        cases hfault
        exact ⟨_, rfl, rfl⟩

namespace Session

variable {c : Conduct γ} {timeout : Json}

lemma launch_reports (n : Nat) (h : Host γ) :
    (∀ fault, (launch n h).1 = .error fault → fault.IsLsp) ↔
      (h.session n).provider.IsClean := by
  rw [← Connection.start_reports (h.session n).provider h.platform]
  unfold launch
  rw [get_bind]
  rcases hstart : (h.session n).provider.start h.platform with ⟨result, platform⟩
  have honPlatform : Act.onPlatform (h.session n).provider.start h =
      (result, { h with platform }) := by
    rw [Act.onPlatform, hstart]
  cases result with
  | ok provider =>
    rw [bind_ok honPlatform]
    exact iff_of_true (by rintro fault ⟨⟩) (by rintro fault ⟨⟩)
  | error fault =>
    rw [bind_error honPlatform]
    simp

/-! ## The answer -/

/-- What a server does about the first request is foreseen: it gives a result with capabilities or
one that counts as nothing; or it gives no answer that could be made use of, this can be waited for,
and nothing is left unsent. -/
inductive Foreseen (heard : Json → Prop) (timeout : Json) (clogged : Bool) : Prop
  | result {message : Json} (h : heard message) (herror : part message "error" = .null)
    (hresult : (part message "result").isEmpty = true ∨
      ∃ members, part message "result" = .obj members)
  | silence (h : ∀ message, ¬ heard message) (htimeout : Waiting.fault? timeout = none)
    (hclear : clogged = false)
  | spoiled {message : Json} {fault : Fault} (h : heard message)
    (herror : part message "error" ≠ .null)
    (hspoiled : Failure.ofError (part message "error") = .error fault)
    (htimeout : Waiting.fault? timeout = none) (hclear : clogged = false)

/-- Capabilities are found in objects and in what is empty. Otherwise a member is missed. -/
lemma capabilitiesOf_run (result : Json) :
    (∃ capabilities, capabilitiesOf result = .ok capabilities) ∧
        (result.isEmpty = true ∨ ∃ members, result = .obj members) ∨
      capabilitiesOf result = .error (.noMember result.kindWord "get") ∧
        ¬ (result.isEmpty = true ∨ ∃ members, result = .obj members) := by
  unfold capabilitiesOf
  by_cases hempty : result.isEmpty = true
  · rw [if_pos hempty]
    exact .inl ⟨⟨_, rfl⟩, .inl hempty⟩
  · rw [if_neg hempty]
    cases result with
    | obj members => exact .inl ⟨⟨_, rfl⟩, .inr ⟨members, rfl⟩⟩
    | _ => exact .inr ⟨rfl, by simp [hempty]⟩

lemma unanswered_isLsp_iff {server seconds : String} :
    (unanswered server seconds timeout).IsLsp ↔ Waiting.fault? timeout = none := by
  unfold unanswered
  cases hfault : Waiting.fault? timeout with
  | none => exact iff_of_true ⟨_, rfl, rfl⟩ rfl
  | some fault => exact iff_of_false (Waiting.not_isLsp hfault) (by simp)

variable {heard : Json → Prop}

/-- A start in vain is foreseen if its reason is a problem of the server that gets reported. -/
lemma Answers.foreseen_iff {server seconds : String} {reason : Fault} {clogged : Bool}
    (hunique : ∀ message other, heard message → heard other → message = other)
    (hanswers : Answers heard (unanswered server seconds timeout) (.error reason)) :
    Foreseen heard timeout clogged ↔ clogged = false ∧ reason.IsLsp := by
  cases hanswers with
  | silence hnone =>
    rw [unanswered_isLsp_iff]
    refine ⟨fun hforeseen => ?_, fun ⟨hclear, htimeout⟩ => .silence hnone htimeout hclear⟩
    cases hforeseen with
    | silence _ htimeout hclear => exact ⟨hclear, htimeout⟩
    | result hheard => exact absurd hheard (hnone _)
    | spoiled hheard => exact absurd hheard (hnone _)
  | spoiled hheard herror hspoiled =>
    rw [unanswered_isLsp_iff]
    refine ⟨fun hforeseen => ?_,
      fun ⟨hclear, htimeout⟩ => .spoiled hheard herror hspoiled htimeout hclear⟩
    cases hforeseen with
    | silence hnone => exact absurd hheard (hnone _)
    | result hother hnull =>
      cases hunique _ _ hheard hother
      exact absurd hnull herror
    | spoiled _ _ _ htimeout hclear => exact ⟨hclear, htimeout⟩
  | failure hheard herror hfailure =>
    refine iff_of_false (fun hforeseen => ?_) fun hlsp => Failure.not_isLsp hfailure hlsp.2
    cases hforeseen with
    | silence hnone => exact hnone _ hheard
    | result hother hnull =>
      cases hunique _ _ hheard hother
      exact herror hnull
    | spoiled hother _ hspoiled =>
      cases hunique _ _ hheard hother
      cases hfailure.symm.trans hspoiled
  | @unfit message _ hheard hnull hunfit =>
    obtain ⟨⟨capabilities, hfit⟩, -⟩ | ⟨hmissed, hunlike⟩ :=
      capabilitiesOf_run (part message "result")
    · cases hunfit.symm.trans hfit
    · cases hunfit.symm.trans hmissed
      refine iff_of_false (fun hforeseen => ?_) (by rintro ⟨-, problem, ⟨⟩, -⟩)
      cases hforeseen with
      | silence hnone => exact hnone _ hheard
      | result hother _ hresult =>
        cases hunique _ _ hheard hother
        exact hunlike hresult
      | spoiled hother herror =>
        cases hunique _ _ hheard hother
        exact herror hnull

/-- A start that goes well is foreseen. -/
lemma Answers.foreseen_of_ok {nothing : Fault} (clogged : Bool)
    (hanswers : Answers heard nothing (.ok ())) : Foreseen heard timeout clogged := by
  cases hanswers with
  | @result message capabilities hheard hnull hresult =>
    obtain ⟨-, hlike⟩ | ⟨hmissed, -⟩ := capabilitiesOf_run (part message "result")
    · exact .result hheard hnull hlike
    · cases hresult.symm.trans hmissed

lemma closing_reports (clogged : Bool) (reason : Fault) :
    (∀ fault, closing clogged (.error reason) = .error fault → fault.IsLsp) ↔
      clogged = false ∧ reason.IsLsp := by
  cases clogged with
  | true =>
    refine iff_of_false (fun hall => ?_) (by simp)
    obtain ⟨problem, ⟨⟩, -⟩ := hall .brokenPipe rfl
  | false =>
    refine ⟨fun hall => ⟨rfl, hall reason rfl⟩, ?_⟩
    rintro ⟨-, hlsp⟩ fault ⟨⟩
    exact hlsp

/-- Behind a launch it depends on the answer what is reported. -/
lemma launched_reports (c : Conduct γ) (hwired : (h.session n).isWired = true) (timeout : Json)
    (hlaunch : (launch n h).1 = .ok ()) :
    (∀ fault, (start (.attended c n) n timeout h).1 = .error fault → fault.IsLsp) ↔
      Foreseen (IsFirstAnswer (toString ((h.session n).asked + 1)) (heardBy n (c.mail .connected))
          (heardBy n (c.mail .asked))) timeout
        ((giveUp (.attended c n) n timeout h).2.session n).clogged := by
  have hline : (Line.attended c n).Tends n := tends_attended c n
  obtain ⟨server, seconds, hanswers⟩ := approach_answers c hwired timeout hlaunch
  cases hanswer : (approach (.attended c n) n timeout h).1 with
  | ok x =>
    rw [hanswer] at hanswers
    rw [(start_approached hline hlaunch).1 hanswer]
    exact iff_of_true (by simp) (hanswers.foreseen_of_ok _)
  | error reason =>
    rw [hanswer] at hanswers
    rw [(start_run hline hwired hlaunch hanswer).1, closing_reports]
    exact (hanswers.foreseen_iff fun _ _ hfirst hother =>
      hfirst.answered.unique hother.answered).symm

/-- **What a start reports.** A session is started while its server does what it likes. The start
goes well or fails with a problem of the server exactly if there is no NUL in the command or the
folder, and what the server does about the first request is foreseen. -/
theorem start_reports_iff (c : Conduct γ) (hwired : (h.session n).isWired = true) (timeout : Json) :
    (∀ fault, (start (.attended c n) n timeout h).1 = .error fault → fault.IsLsp) ↔
      (h.session n).provider.IsClean ∧ ((launch n h).1 = .ok () →
        Foreseen (IsFirstAnswer (toString ((h.session n).asked + 1))
            (heardBy n (c.mail .connected)) (heardBy n (c.mail .asked))) timeout
          ((giveUp (.attended c n) n timeout h).2.session n).clogged) := by
  rw [← launch_reports n h]
  cases hlaunch : (launch n h).1 with
  | error fault =>
    have hfailed : (start (.attended c n) n timeout h).1 = .error fault :=
      congrArg Prod.fst (bind_error (Prod.ext hlaunch rfl))
    rw [hfailed]
    exact ⟨fun hall => ⟨hall, by simp⟩, And.left⟩
  | ok x =>
    rw [launched_reports c hwired timeout hlaunch]
    exact ⟨fun hforeseen => ⟨by simp, fun _ => hforeseen⟩, fun hboth => hboth.2 rfl⟩

/-- A server that says nothing is reported. -/
theorem silence_is_reported :
    (launchable.session 0).isWired = true ∧
      (start (.attended .silent 0) 0 startTimeout launchable).1.isOk = false ∧
      ∀ fault, (start (.attended .silent 0) 0 startTimeout launchable).1 = .error fault →
        fault.IsLsp := by
  have hwired : (launchable.session 0).isWired = true := by decide
  have hclean : (launchable.session 0).provider.IsClean := fun _ => by decide +kernel
  have hclear : ((giveUp (.attended .silent 0) 0 startTimeout launchable).2.session 0).clogged =
      false := by decide +kernel
  have hnone : ∀ message, ¬ IsFirstAnswer (toString ((launchable.session 0).asked + 1))
      (heardBy 0 (Conduct.silent.mail .connected)) (heardBy 0 (Conduct.silent.mail .asked))
      message := fun message hfirst => by cases hfirst.answered
  exact ⟨hwired, by decide +kernel, (start_reports_iff .silent hwired startTimeout).2
    ⟨hclean, fun _ => .silence hnone (by decide +kernel) hclear⟩⟩

/-- The failure that a server refuses the first request with. -/
def refusal : Json :=
  Message.errorResponse (.str "1") (-32603) "no"

/-- A server that refuses to start. -/
def Conduct.refusing : Conduct Empty :=
  { silent with mail := fun moment => if moment = .asked then [(0, refusal)] else [] }

/-- A refusal is no problem, and nothing makes it one. -/
theorem refusal_escapes :
    ∃ fault, (start (.attended .refusing 0) 0 startTimeout launchable).1 = .error fault ∧
      ¬ fault.IsLsp := by
  have hlaunch : (launch 0 launchable).1 = .ok () := ok_of_toOption (by decide +kernel)
  have hresponds : Responds (toString ((launchable.session 0).asked + 1)) refusal := by
    decide +kernel
  have hunique (message : Json) (hfirst : IsFirstAnswer
      (toString ((launchable.session 0).asked + 1)) (heardBy 0 (Conduct.refusing.mail .connected))
      (heardBy 0 (Conduct.refusing.mail .asked)) message) : message = refusal :=
    hfirst.answered.unique (.here hresponds)
  have hmade : (Failure.ofError (part refusal "error")).isOk = true := by decide +kernel
  by_contra hall
  simp only [not_exists, not_and, not_not] at hall
  rw [launched_reports .refusing (by decide) startTimeout hlaunch] at hall
  cases hall with
  | silence hnone => exact hnone refusal ⟨List.forall_mem_nil _, .here hresponds⟩
  | result hfirst hnull =>
    rw [hunique _ hfirst] at hnull
    rw [hnull] at hmade
    cases hmade
  | spoiled hfirst _ hspoiled =>
    rw [hunique _ hfirst] at hspoiled
    rw [hspoiled] at hmade
    cases hmade

end Session

end LanguageHost
