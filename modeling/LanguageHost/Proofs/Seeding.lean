import Mathlib.Data.List.Nodup
import LanguageHost.Proofs.Digestible
import LanguageHost.Proofs.FolderSearch
import LanguageHost.Proofs.Turn

/-!
# Seeding a server

A session that takes in the answer to its first request says `initialized`, registers itself, and
has its provider's hook offer the server the settings of its store and then the folders of its
workspace. Then its endpoint takes the answer in.

The wire may refuse any of these messages, but brings nothing back at once: it `Relays`. What it
refuses is not sent, and does not keep the messages after it from being offered. `Host.Sends`
follows a session from host to host along what it sent.
-/

namespace LanguageHost

open Act Host

variable {γ : Type}

/-! ## What is handed over -/

namespace Host

/-- From one host to another a session sent what is listed, and whatever decides what it sends next
stayed as it was. -/
structure Sends (n : Nat) (l : List Sent) (h h' : Host γ) : Prop where
  undisturbed : Undisturbed h h'
  tree : h.platform.files.SameTree h'.platform.files
  self : Session.SameEnd (h.session n) (h'.session n)
  active : h'.active = h.active
  sent : h'.sent = h.sent ++ l.map (Prod.mk n)

namespace Sends

variable {n : Nat} {h h' h'' : Host γ} {l l' : List Sent}

lemma refl (n : Nat) (h : Host γ) : Sends n [] h h :=
  ⟨.refl h, .refl _, .refl _, rfl, by simp⟩

lemma trans (a : Sends n l h h') (b : Sends n l' h' h'') : Sends n (l ++ l') h h'' :=
  ⟨a.undisturbed.trans b.undisturbed, a.tree.trans b.tree, a.self.trans b.self,
    b.active.trans a.active, by rw [b.sent, a.sent, List.map_append, List.append_assoc]⟩

/-- Steps that send nothing may come first. -/
lemma before (a : Sends n [] h h') (b : Sends n l h' h'') : Sends n l h h'' :=
  a.trans b

lemma said (a : Sends n l h h') : h'.said n = h.said n ++ l :=
  said_append a.sent

lemma said_other (a : Sends n l h h') {other : Nat} (hother : other ≠ n) :
    h'.said other = h.said other :=
  said_append_other hother.symm a.sent

end Sends

variable {n : Nat} {h : Host γ}

lemma sends_platform {platform : Platform} (htree : h.platform.files.SameTree platform.files) :
    Sends n [] h { h with platform } :=
  ⟨⟨rfl, rfl, rfl, rfl, rfl, rfl, rfl, rfl, rfl, rfl⟩, htree, .refl _, rfl, by simp⟩

lemma sends_log (service : String) (level : Level) (message : Text) (extra : Tags) :
    Sends n [] h (Act.log service level message extra h).2 :=
  sends_platform (Platform.sameTree_log service level message extra h.platform)

/-- Noting a failure sends nothing. -/
lemma Sends.guarded {l : List Sent} {a : Act γ Unit} {handler : Fault → Act γ Unit}
    (ha : Sends n l h (a h).2) (hhandler : ∀ fault h', Sends n [] h' (handler fault h').2) :
    Sends n l h (Act.guarded a handler h).2 := by
  rcases hres : a h with ⟨result, h'⟩
  rw [hres] at ha
  cases result with
  | ok x =>
    rw [Act.guarded, tryCatch_ok hres]
    exact ha
  | error fault =>
    rw [Act.guarded, tryCatch_error hres]
    have hall := ha.trans (hhandler fault h')
    rwa [List.append_nil] at hall

/-- The host in which the address of the session's root was handed to its provider's hook. -/
def noteHook (n : Nat) (h : Host γ) : Host γ :=
  { h with hooked := h.hooked ++ [(h.session n).rootUri h.platform.cwd] }

lemma sends_noteHook (n : Nat) (h : Host γ) : Sends n [] h (h.noteHook n) :=
  ⟨⟨rfl, rfl, rfl, rfl, rfl, rfl, rfl, rfl, rfl, rfl⟩, .refl _, .refl _, rfl, by simp [noteHook]⟩

end Host

namespace Wire

variable {wire : Wire γ} {n store workspace : Nat} {h : Host γ}

/-! ### Wires that relay -/

/-- What the session has sent after it handed a message to the wire: the message, or nothing if the
wire refuses it. -/
def handed (wire : Wire γ) (n : Nat) (message : Json) (h : Host γ) : List Sent :=
  if (wire n message h).1.isOk then [.message message] else []

/-- The wire hands every message over or refuses it, and brings nothing back. -/
def Relays (wire : Wire γ) (n : Nat) : Prop :=
  ∀ message h, Sends n (handed wire n message h) h (wire n message h).2

lemma handed_writeToChild (n : Nat) (message : Json) (h : Host γ) :
    handed writeToChild n message h = [.message message] := by
  rw [handed, (writeToChild_run n message h).1]
  rfl

/-- A wire into a child's input relays. -/
theorem relays_writeToChild (n : Nat) : Relays (writeToChild (γ := γ)) n := by
  intro message h
  have t := (writeToChild_run n message h).2
  have hplatform : (writeToChild n message h).2.platform = h.platform := by
    unfold writeToChild
    rw [modify_bind, get_bind]
    cases ((h.noteSent n (.message message)).session n).provider.child? <;> rfl
  have hactive : (writeToChild n message h).2.active = h.active := by
    rcases t.active with hsame | ⟨hjoins, -⟩
    · exact hsame
    · cases hjoins
  refine ⟨(undisturbed_noteSent n _ h).trans t.undisturbed, ?_, t.self, hactive, ?_⟩
  · rw [hplatform]
    exact .refl _
  · rw [t.sent, handed_writeToChild, List.map_nil, List.append_nil]
    rfl

/-! ### The hook -/

/-- The host in which the settings are handed to the wire. -/
def atSettings (store n : Nat) (h : Host γ) : Host γ :=
  (buildSettings store (h.noteHook n)).2

/-- The host in which the folders are handed to the wire. -/
def atFolders (wire : Wire γ) (store workspace n : Nat) (h : Host γ) : Host γ :=
  (findFolders workspace (sendSettings wire store n (h.noteHook n)).2).2

lemma sends_buildSettings (store : Nat) (h : Host γ) :
    Sends n [] h (buildSettings store h).2 := by
  have htree : h.platform.files.SameTree
      (Settings.buildNoted (h.store store) h.platform).2.files := by
    rw [Settings.buildNoted]
    rcases Settings.build (h.store store) with ⟨settings, _ | problem⟩
    · exact .refl _
    · exact Platform.sameTree_log _ _ _ _ h.platform
  exact sends_platform htree

lemma sends_findFolders (workspace : Nat) (h : Host γ) :
    Sends n [] h (findFolders workspace h).2 :=
  sends_platform (Folders.sameTree_initial (h.workspace workspace) h.platform)

/-- Over an open endpoint a notice is handed to the wire. -/
lemma notify_open (hwired : (h.session n).isWired = true)
    (hopen : (h.session n).endpoint.isSome = true) (notice : Notice) :
    notify wire n notice h = wire n notice.message h := by
  rw [notify_takes ((Session.takes_of_isWired hwired _).trans hopen), if_pos hwired]

lemma sends_logFor (level : Level) (message : Text) (extra : Tags) (h : Host γ) :
    Sends n [] h (logFor n level message extra h).2 := by
  unfold logFor
  rw [get_bind]
  exact sends_log _ level message extra

lemma callHook_seed {message : Json} (hhook : (h.session n).hook = .seed store workspace) :
    callHook wire n message h = seed wire store workspace n message (h.noteHook n) := by
  unfold callHook
  rw [get_bind, set_bind, hhook]
  rfl

/-- A hook that does not seed sends nothing. -/
lemma sends_unseeded {message : Json}
    (hhook : ∀ store workspace, (h.session n).hook ≠ .seed store workspace) :
    Sends n [] h (behindHook wire n message h) := by
  refine Sends.guarded ?_ fun fault h' => sends_logFor _ _ _ h'
  have hcalled : (callHook wire n message h).2 = h.noteHook n := by
    unfold callHook
    rw [get_bind, set_bind]
    cases hkind : (h.session n).hook with
    | none => rfl
    | fail words => rfl
    | seed store workspace => exact absurd hkind (hhook store workspace)
  rw [hcalled]
  exact sends_noteHook n h

/-- Nothing is sent for a message that is no answer to the first request. -/
lemma sends_idle {message : Json} (hidle : Message.isStartResult message ≠ .ok true) :
    Sends n [] h (behindHook wire n message h) := by
  cases hhook : (h.session n).hook with
  | none => exact sends_unseeded (by rw [hhook]; nofun)
  | fail words => exact sends_unseeded (by rw [hhook]; nofun)
  | seed store workspace =>
    refine Sends.guarded ?_ fun fault h' => sends_logFor _ _ _ h'
    rw [callHook_seed hhook, seed_idle hidle]
    exact sends_noteHook n h

/-- What an answer to the first request makes the hook send. -/
lemma sends_seeded {message : Json} {l : List Sent}
    (hstart : Message.isStartResult message = .ok true)
    (hhook : (h.session n).hook = .seed store workspace)
    (hseed : Sends n l h
      (sendFolders wire workspace n (sendSettings wire store n (h.noteHook n)).2).2) :
    Sends n l h (behindHook wire n message h) := by
  refine Sends.guarded ?_ fun fault h' => sends_logFor _ _ _ h'
  rw [callHook_seed hhook, seed_run hstart]
  exact hseed

section Relayed

variable (hrelays : Relays wire n) (hwired : (h.session n).isWired = true)
  (hopen : (h.session n).endpoint.isSome = true)

include hrelays hwired hopen

lemma Relays.sendSettings (store : Nat) :
    Sends n (handed wire n (Notice.configuration (Settings.build (h.store store)).1).message
      (buildSettings store h).2) h (sendSettings wire store n h).2 := by
  refine Sends.guarded ?_ fun fault h' => sends_log _ _ _ _
  have hbuilt := sends_buildSettings (n := n) store h
  obtain ⟨platform, -, hrun⟩ := buildSettings_run store h
  rw [bind_ok hrun]
  rw [hrun] at hbuilt ⊢
  rw [notify_open (hbuilt.self.isWired.trans hwired) (hbuilt.self.endpoint ▸ hopen)]
  exact hbuilt.before (hrelays _ _)

/-- The folders are offered if they can be found. -/
lemma Relays.sendFolders (workspace : Nat) :
    Sends n ((Folders.initial (h.workspace workspace) h.platform).1.toOption.elim [] fun uris =>
      handed wire n (Notice.folders (Folders.changeParams uris [])).message
        (findFolders workspace h).2) h (sendFolders wire workspace n h).2 := by
  refine Sends.guarded ?_ fun fault h' => sends_log _ _ _ _
  have hfound := sends_findFolders (n := n) workspace h
  have hresult : (findFolders workspace h).1 =
      (Folders.initial (h.workspace workspace) h.platform).1 := rfl
  rw [← hresult]
  rcases hrun : findFolders workspace h with ⟨fault | uris, h'⟩
  · rw [bind_error hrun]
    rw [hrun] at hfound
    exact hfound
  · rw [bind_ok hrun]
    rw [hrun] at hfound
    rw [notify_open (hfound.self.isWired.trans hwired) (hfound.self.endpoint ▸ hopen)]
    exact hfound.before (hrelays _ _)

/-- The provider's hook offers the settings and then the folders. -/
theorem Relays.seeds {message : Json} (hstart : Message.isStartResult message = .ok true)
    (hhook : (h.session n).hook = .seed store workspace) :
    Sends n (handed wire n (Notice.configuration (Settings.build (h.store store)).1).message
        (atSettings store n h) ++
      (Folders.initial (h.workspace workspace) h.platform).1.toOption.elim [] fun uris =>
        handed wire n (Notice.folders (Folders.changeParams uris [])).message
          (atFolders wire store workspace n h)) h (behindHook wire n message h) := by
  have hnoted := sends_noteHook n h
  have hwired₀ := hnoted.self.isWired.trans hwired
  have hopen₀ := hnoted.self.endpoint.trans hopen
  have a := hrelays.sendSettings hwired₀ hopen₀ store
  have b := hrelays.sendFolders (a.self.isWired.trans hwired₀) (a.self.endpoint.trans hopen₀)
    workspace
  rw [a.undisturbed.workspace, hnoted.undisturbed.workspace,
    Folders.toOption_initial_congr _ (hnoted.tree.trans a.tree)] at b
  rw [hnoted.undisturbed.store] at a
  exact sends_seeded hstart hhook (hnoted.before (a.trans b))

/-- Whatever the hook does, it sends over the wire only. -/
lemma Relays.calls_hook (message : Json) :
    ∃ l, Sends n l h (behindHook wire n message h) := by
  by_cases hstart : Message.isStartResult message = .ok true
  · cases hhook : (h.session n).hook with
    | seed store workspace => exact ⟨_, hrelays.seeds hwired hopen hstart hhook⟩
    | none => exact ⟨[], sends_unseeded (by rw [hhook]; nofun)⟩
    | fail words => exact ⟨[], sends_unseeded (by rw [hhook]; nofun)⟩
  · exact ⟨[], sends_idle hstart⟩

/-- After the welcome the endpoint takes the message in, behind the hook. -/
lemma Relays.attend_run (message : Json) :
    attend wire n message h = take wire n message (behindHook wire n message h) := by
  obtain ⟨l, a⟩ := hrelays.calls_hook hwired hopen message
  rw [attend_eq, if_pos (a.self.endpoint.trans hopen)]

end Relayed

/-! ### The greeting -/

/-- An answer to the first request makes the session say `initialized` and register, if the wire
takes that. -/
lemma Relays.greets {message : Json} (hrelays : Relays wire n)
    (hopen : (h.session n).endpoint.isSome = true)
    (hstart : Message.isStartResult message = .ok true)
    (htaken : (wire n Notice.started.message h).1 = .ok ()) :
    ∃ h₀, welcome wire n message h = (.ok (), h₀.register n) ∧
      Sends n [.message Notice.started.message] h h₀ := by
  have a := hrelays Notice.started.message h
  have hsent : handed wire n Notice.started.message h = [.message Notice.started.message] := by
    rw [handed, htaken]
    rfl
  rw [hsent] at a
  exact ⟨_, (welcome_run wire ⟨hopen, hstart⟩).trans (bind_of_fst htaken), a⟩

/-- Being registered does not change how a session talks to its server. -/
lemma sameEnd_greeted {h₀ : Host γ} {l : List Sent} (a : Sends n l h h₀) :
    Session.SameEnd (h.session n) ((h₀.register n).session n) := by
  rw [session_register]
  exact a.self

/-- After the greeting the hook offers what it would have offered before. -/
lemma Relays.seeds_greeted {message : Json} (hrelays : Relays wire n)
    (hwired : (h.session n).isWired = true) (hopen : (h.session n).endpoint.isSome = true)
    (hstart : Message.isStartResult message = .ok true)
    (hhook : (h.session n).hook = .seed store workspace) {h₀ : Host γ} {l : List Sent}
    (a : Sends n l h h₀) :
    Sends n (handed wire n (Notice.configuration (Settings.build (h.store store)).1).message
        (atSettings store n (h₀.register n)) ++
      (Folders.initial (h.workspace workspace) h.platform).1.toOption.elim [] fun uris =>
        handed wire n (Notice.folders (Folders.changeParams uris [])).message
          (atFolders wire store workspace n (h₀.register n))) (h₀.register n)
      (behindHook wire n message (h₀.register n)) := by
  have hsame := sameEnd_greeted a
  have hregistered := undisturbed_register n h₀
  have htree : h.platform.files.SameTree (h₀.register n).platform.files := by
    rw [platform_register]
    exact a.tree
  have b := hrelays.seeds (hsame.isWired.trans hwired) (hsame.endpoint.trans hopen) hstart
    (hsame.hook.trans hhook)
  rwa [hregistered.store, a.undisturbed.store, hregistered.workspace, a.undisturbed.workspace,
    Folders.toOption_initial_congr _ htree] at b

/-- Any other object is passed on. -/
lemma welcome_other (wire : Wire γ) {members : List (Text × Json)}
    (hidle : Message.isStartResult (.obj members) ≠ .ok true) :
    welcome wire n (.obj members) h = (.ok (), h) := by
  obtain ⟨isStart, hm⟩ := Message.isStartResult_obj members
  have hfalse : isStart = false := by
    cases isStart with
    | true => exact absurd hm hidle
    | false => rfl
  rw [welcome_eq, hm, hfalse]
  split <;> rfl

/-- Whatever the hook does, the endpoint takes an object in behind it, unless the wire refuses the
greeting. -/
lemma Relays.consume_eq (hrelays : Relays wire n) (hwired : (h.session n).isWired = true)
    (hopen : (h.session n).endpoint.isSome = true) (members : List (Text × Json))
    (htaken : Message.isStartResult (.obj members) = .ok true →
      (wire n Notice.started.message h).1 = .ok ()) :
    consume wire n (.obj members) h = take wire n (.obj members)
      (behindHook wire n (.obj members) (welcome wire n (.obj members) h).2) := by
  by_cases hstart : Message.isStartResult (.obj members) = .ok true
  · obtain ⟨h₀, hrun, a⟩ := hrelays.greets hopen hstart (htaken hstart)
    have hconsume : consume wire n (.obj members) h =
        attend wire n (.obj members) (h₀.register n) := bind_ok hrun
    have hsame := sameEnd_greeted a
    rw [hconsume, hrun]
    exact hrelays.attend_run (hsame.isWired.trans hwired) (hsame.endpoint.trans hopen) _
  · have hrun := welcome_other (n := n) (h := h) wire hstart
    have hconsume : consume wire n (.obj members) h = attend wire n (.obj members) h := bind_ok hrun
    rw [hconsume, hrun, hrelays.attend_run hwired hopen]

end Wire

lemma Host.count_register {n : Nat} {h : Host γ} (hdistinct : h.active.Nodup) :
    (h.register n).active.count n = 1 := by
  rw [active_register]
  split
  next hn => exact List.count_eq_one_of_mem hdistinct hn
  next hn =>
    rw [List.count_append, List.count_eq_zero.2 hn, List.count_singleton_self]

/-! ## The answer to the first request -/

section

open Wire

/-- **A server that answers the first request is seeded.** The session says `initialized`, and is
registered once before it offers anything else; its provider's hook offers the settings of the
store and then the folders of the workspace, whether or not the settings are taken, and says nothing
to other servers. For any other object the hook sends nothing and no session comes or goes. In each
case the endpoint takes the message in after that, whatever became of the hook.

The folders are offered only if they can be found, and they are found if no walk over a project is
ended by an error of the operating system. -/
theorem greeting_seeds_server {wire : Wire γ} {n : Nat} {h : Host γ}
    (members : List (Text × Json)) (hrelays : Relays wire n)
    (hwired : (h.session n).isWired = true) (hopen : (h.session n).endpoint.isSome = true)
    (hdistinct : h.active.Nodup) :
    let message : Json := .obj members
    let greeting := Notice.started.message
    let h₁ := (welcome wire n message h).2
    let h₂ := behindHook wire n message h₁
    ((Message.isStartResult message = .ok true → (wire n greeting h).1 = .ok ()) →
      consume wire n message h = take wire n message h₂) ∧
    (Message.isStartResult message = .ok true → (wire n greeting h).1 = .ok () →
      h₁.said n = h.said n ++ [.message greeting] ∧ h₁.active.count n = 1 ∧
      (∀ other, other ≠ n → h₂.said other = h.said other) ∧ h₂.active = h₁.active ∧
      ∀ store workspace, (h.session n).hook = .seed store workspace →
        let settings := (Settings.build (h.store store)).1
        let found := (Folders.initial (h.workspace workspace) h.platform).1.toOption
        (atSettings store n h₁).said n = h₁.said n ∧
        (atSettings store n h₁).active = h₁.active ∧
        h₂.said n = h₁.said n ++
          (handed wire n (Notice.configuration settings).message (atSettings store n h₁) ++
            found.elim [] fun uris =>
              handed wire n (Notice.folders (Folders.changeParams uris [])).message
                (atFolders wire store workspace n h₁)) ∧
        found = if (h.workspace workspace).Searchable h.platform.files then
          some (h.workspace workspace).eligible else none) ∧
    (Message.isStartResult message ≠ .ok true →
      h₁ = h ∧ (∀ other, h₂.said other = h.said other) ∧ h₂.active = h.active) := by
  intro message greeting h₁ h₂
  refine ⟨hrelays.consume_eq hwired hopen members, fun hstart htaken => ?_, fun hidle => ?_⟩
  · obtain ⟨h₀, hrun, a⟩ := hrelays.greets hopen hstart htaken
    have hh₁ : h₁ = h₀.register n := congrArg Prod.snd hrun
    have hsame : Session.SameEnd (h.session n) (h₁.session n) := hh₁ ▸ sameEnd_greeted a
    obtain ⟨l, b⟩ := hrelays.calls_hook (hsame.isWired.trans hwired) (hsame.endpoint.trans hopen)
      message
    refine ⟨?_, ?_, fun other hother => ?_, b.active, fun store workspace hhook => ?_⟩
    · rw [hh₁, said_register, a.said]
    · rw [hh₁]
      exact count_register (a.active ▸ hdistinct)
    · rw [b.said_other hother, hh₁, said_register, a.said_other hother]
    · intro settings found
      have hnoted : Sends n [] h₁ (atSettings store n h₁) :=
        (sends_noteHook n h₁).before (sends_buildSettings store _)
      have c := hrelays.seeds_greeted hwired hopen hstart hhook a
      rw [← hh₁] at c
      exact ⟨by rw [hnoted.said, List.append_nil], hnoted.active, c.said,
        Folders.toOption_initial _ _⟩
  · have hsame : h₁ = h := congrArg Prod.snd (welcome_other wire hidle)
    have a : Sends n [] h₁ h₂ := sends_idle hidle
    rw [hsame] at a
    refine ⟨hsame, fun other => ?_, a.active⟩
    by_cases hother : other = n
    · rw [hother, a.said, List.append_nil]
    · exact a.said_other hother

end

/-- The small host with a project. -/
def Host.housed : Host Empty :=
  { Host.small with workspaces := [⟨[("b", ⟨⟨.root, ["b"]⟩, false, true⟩)], .empty⟩] }

namespace Wire

/-- A wire that refuses some messages. -/
def refusing (refused : Json → Bool) (wire : Wire γ) : Wire γ :=
  fun n message => if refused message then throw (.raised "broken pipe") else wire n message

lemma handed_refusing (refused : Json → Bool) (wire : Wire γ) (n : Nat) (message : Json)
    (h : Host γ) : handed (refusing refused wire) n message h =
      if refused message then [] else handed wire n message h := by
  unfold handed refusing
  cases refused message <;> rfl

lemma Relays.refusing {wire : Wire γ} {n : Nat} (hrelays : Relays wire n)
    (refused : Json → Bool) : Relays (Wire.refusing refused wire) n := by
  intro message h
  rw [handed_refusing]
  unfold Wire.refusing
  cases refused message with
  | true => exact .refl n h
  | false => exact hrelays message h

/-- The message tells of changed settings. -/
def tellsSettings (message : Json) : Bool :=
  (message.member? "method").bind Json.text? =
    some (Text.ofString "workspace/didChangeConfiguration")

lemma tellsSettings_configuration (settings : Json) :
    tellsSettings (Notice.configuration settings).message = true :=
  rfl

lemma tellsSettings_folders (params : Json) :
    tellsSettings (Notice.folders params).message = false :=
  rfl

end Wire

/-- If the wire refuses the settings the folders are sent all the same. -/
theorem greeting_seeds_past_refusal :
    let wire : Wire Empty := Wire.refusing Wire.tellsSettings Wire.writeToChild
    let message := StartResult.plain.val
    let h₁ := (Wire.welcome wire 0 message Host.housed).2
    Wire.consume wire 0 message Host.housed =
        Wire.take wire 0 message (Wire.behindHook wire 0 message h₁) ∧
      h₁.active.count 0 = 1 ∧
      (Wire.behindHook wire 0 message h₁).said 0 = [.message Notice.started.message,
        .message (Notice.folders (Folders.changeParams ["file:///b"] [])).message] := by
  intro wire message h₁
  have hrelays : Wire.Relays wire 0 := (Wire.relays_writeToChild 0).refusing Wire.tellsSettings
  obtain ⟨htaken, hseeded, -⟩ := greeting_seeds_server
    [(Text.ofString "id", "1"),
      (Text.ofString "result", Json.object [("capabilities", Json.object [])])]
    hrelays (h := Host.housed) rfl rfl List.nodup_nil
  have hgreeted : (wire 0 Notice.started.message Host.housed).1 = .ok () := rfl
  obtain ⟨hsaid, hcount, -, -, hhook⟩ := hseeded rfl hgreeted
  obtain ⟨-, -, hoffered, hfound⟩ := hhook 0 0 rfl
  have hsearchable : (Host.housed.workspace 0).Searchable Host.housed.platform.files := by
    decide +kernel
  have heligible : (Host.housed.workspace 0).eligible = ["file:///b"] := by decide +kernel
  rw [if_pos hsearchable, heligible] at hfound
  rw [hfound, hsaid, Option.elim_some, Wire.handed_refusing, Wire.handed_refusing,
    Wire.tellsSettings_configuration, Wire.tellsSettings_folders, if_pos rfl, if_neg nofun,
    Wire.handed_writeToChild] at hoffered
  exact ⟨htaken fun _ => hgreeted, hcount, hoffered⟩

/-- The small host on a machine with an empty folder at its root, with a project whose location has
too long a name, and with another project. -/
def Host.strained : Host Empty :=
  { Host.small with
    platform := { (default : Platform) with
      files := { (default : FileSystem) with root := .folder 0 [] } }
    workspaces := [⟨[(".x", ⟨⟨.root, [String.ofList FileSystem.overlong]⟩, false, true⟩),
      ("b", ⟨⟨.root, ["b"]⟩, false, true⟩)], .empty⟩] }

lemma Host.eligible_strained : (Host.strained.workspace 0).eligible = ["file:///b"] := by
  have hsorted : (Host.strained.workspace 0).sortedProjects =
      (Host.strained.workspace 0).projects :=
    List.mergeSort_of_pairwise (by decide)
  rw [Workspace.eligible, hsorted]
  rfl

/-- If a location has too long a name no folders are sent at all: when the endpoint takes the answer
in, the server was told of its settings only, and there is a folder to be told of. -/
theorem folders_withheld_beside_overlong :
    let message := StartResult.plain.val
    let h₁ := (Wire.welcome Wire.writeToChild 0 message Host.strained).2
    let h₂ := Wire.behindHook Wire.writeToChild 0 message h₁
    Message.isStartResult message = .ok true ∧
      (Host.strained.workspace 0).eligible = ["file:///b"] ∧
      Wire.consume Wire.writeToChild 0 message Host.strained =
        Wire.take Wire.writeToChild 0 message h₂ ∧
      h₂.said 0 = [.message Notice.started.message,
        .message (Notice.configuration (Settings.wrap (Json.object []))).message] := by
  intro message h₁ h₂
  have hrelays : Wire.Relays (Wire.writeToChild (γ := Empty)) 0 := Wire.relays_writeToChild 0
  have hstart : Message.isStartResult message = .ok true := rfl
  have hsearch : ¬ (h₁.workspace 0).Searchable h₁.platform.files := by
    intro hall
    have hanswers := hall _ List.mem_cons_self
    rw [Project.Answers, Project.walkAt_overlong rfl rfl rfl rfl] at hanswers
    cases hanswers
  have a := hrelays.seeds (h := h₁) rfl rfl hstart (show (h₁.session 0).hook = .seed 0 0 from rfl)
  rw [Folders.toOption_initial, if_neg hsearch, Option.elim_none, Wire.handed_writeToChild,
    List.append_nil] at a
  exact ⟨hstart, Host.eligible_strained, hrelays.consume_eq rfl rfl _ fun _ => rfl, a.said⟩

end LanguageHost
