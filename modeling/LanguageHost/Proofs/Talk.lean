import LanguageHost.Host.Wire
import LanguageHost.Proofs.Folders
import LanguageHost.Proofs.Outbound

/-!
# What talking over one wire can change

While a session talks to its server, the host changes in few places: the session itself, what it
has sent, the journal, and the list of registered sessions if the server's answer to the first
request comes in meanwhile. `Host.Talk` says this once, together with what was sent. Everything that
is done over a wire is shown to be such a talk, and the invariants of whole runs then look at talks
only.

A talk is truthful: if the session seeds its server with a store, then all settings that are sent
are the ones of that store. And whoever is registered by a talk was welcomed in it: its server was
told `initialized`, and its settings if they can be sent. What a session says of its own accord is
orderly as well: `initialized` comes first, and the folders are those of the workspace.
-/

namespace LanguageHost

namespace Session

/-- The session can tell its server a notice of this kind. -/
def takes (word : String) (s : Session) : Bool :=
  match s.peer with
  | .standIn failing _ => !failing.contains word
  | _ => s.endpoint.isSome

/-- The session talks to a server over a wire. -/
def isWired (s : Session) : Bool :=
  match s.peer with
  | .standIn _ _ => false
  | _ => true

lemma takes_of_isWired {s : Session} (hs : s.isWired = true) (word : String) :
    s.takes word = s.endpoint.isSome := by
  rw [isWired] at hs
  rw [takes]
  split <;> simp_all

/-- Two states of one session that differ only in what talking changes. -/
structure SameEnd (s s' : Session) : Prop where
  title : s'.title = s.title
  definition : s'.definition = s.definition
  hook : s'.hook = s.hook
  root : s'.root = s.root
  peer : s'.peer = s.peer
  endpoint : s'.endpoint.isSome = s.endpoint.isSome
  held : s'.held = s.held

lemma SameEnd.refl (s : Session) : SameEnd s s :=
  ⟨rfl, rfl, rfl, rfl, rfl, rfl, rfl⟩

lemma SameEnd.trans {s s' s'' : Session} (h : SameEnd s s') (h' : SameEnd s' s'') :
    SameEnd s s'' :=
  ⟨h'.title.trans h.title, h'.definition.trans h.definition, h'.hook.trans h.hook,
    h'.root.trans h.root, h'.peer.trans h.peer, h'.endpoint.trans h.endpoint,
    h'.held.trans h.held⟩

lemma SameEnd.takes {s s' : Session} (h : SameEnd s s') (word : String) :
    s'.takes word = s.takes word := by
  rw [Session.takes, Session.takes, h.peer, h.endpoint]

lemma SameEnd.isWired {s s' : Session} (h : SameEnd s s') : s'.isWired = s.isWired := by
  rw [Session.isWired, Session.isWired, h.peer]

/-- The stream welcomes the session's server: it holds `initialized`, and settings if the session
seeds its server and they can be sent. -/
structure Welcomed (s : Session) (l : List Sent) : Prop where
  started : l.any Sent.starts = true
  configured : ∀ st ws, s.hook = .seed st ws → s.takes "config" = true → lastSettings l ≠ none

lemma Welcomed.append {s : Session} {l : List Sent} (hl : Welcomed s l) (l' : List Sent) :
    Welcomed s (l ++ l') :=
  ⟨by simp [hl.started], fun st ws hhook htakes =>
    lastSettings_append_ne_none (Or.inl (hl.configured st ws hhook htakes))⟩

lemma Welcomed.prepend {s : Session} {l : List Sent} (hl : Welcomed s l) (l' : List Sent) :
    Welcomed s (l' ++ l) :=
  ⟨by simp [hl.started], fun st ws hhook htakes =>
    lastSettings_append_ne_none (Or.inr (hl.configured st ws hhook htakes))⟩

lemma Welcomed.of_sameEnd {s s' : Session} {l : List Sent} (h : SameEnd s s')
    (hl : Welcomed s' l) : Welcomed s l :=
  ⟨hl.started, fun st ws hhook htakes =>
    hl.configured st ws (h.hook.trans hhook) ((h.takes _).trans htakes)⟩

end Session

namespace Host

variable {γ : Type}

/-! ## Sessions by number -/

lemma session_setSession (n other : Nat) (s : Session) (h : Host γ) :
    (h.setSession n s).session other =
      if other = n ∧ n < h.sessions.length then s else h.session other := by
  simp only [session, setSession, List.getD_eq_getElem?_getD, List.getElem?_set]
  by_cases hother : n = other
  · subst hother
    by_cases hlt : n < h.sessions.length
    · simp [hlt]
    · simp [hlt]
  · simp [hother, Ne.symm hother]

/-- There is no session behind the last one. -/
lemma session_of_le {n : Nat} {h : Host γ} (hle : h.sessions.length ≤ n) :
    h.session n = default := by
  have hnone : h.sessions[n]? = none := List.getElem?_eq_none hle
  rw [session, List.getD_eq_getElem?_getD, hnone]
  rfl

lemma active_register (n : Nat) (h : Host γ) :
    (h.register n).active = if n ∈ h.active then h.active else h.active ++ [n] := by
  unfold register
  by_cases hn : n ∈ h.active
  · simp [hn]
  · simp [hn]

lemma active_register_of_mem {n : Nat} {h : Host γ} (hn : n ∈ h.active) :
    (h.register n).active = h.active := by
  rw [active_register, if_pos hn]

lemma mem_active_register_self (n : Nat) (h : Host γ) : n ∈ (h.register n).active :=
  (mem_active_register n n h).2 (Or.inl rfl)

@[simp] lemma session_register (n other : Nat) (h : Host γ) :
    (h.register n).session other = h.session other := by
  unfold register
  split <;> rfl

@[simp] lemma said_register (n other : Nat) (h : Host γ) :
    (h.register n).said other = h.said other := by
  unfold register
  split <;> rfl

@[simp] lemma platform_register (n : Nat) (h : Host γ) :
    (h.register n).platform = h.platform := by
  unfold register
  split <;> rfl

/-! ## Talks -/

/-- Everything that talking does not touch is the same in two hosts. -/
structure Undisturbed (h h' : Host γ) : Prop where
  stores : h'.stores = h.stores
  workspaces : h'.workspaces = h.workspaces
  definitions : h'.definitions = h.definitions
  registries : h'.registries = h.registries
  listeners : h'.listeners = h.listeners
  adapters : h'.adapters = h.adapters
  plugins : h'.plugins = h.plugins
  recorded : h'.recorded = h.recorded
  names : h'.names = h.names
  preferencesPath : h'.preferencesPath = h.preferencesPath

lemma Undisturbed.refl (h : Host γ) : Undisturbed h h :=
  ⟨rfl, rfl, rfl, rfl, rfl, rfl, rfl, rfl, rfl, rfl⟩

lemma Undisturbed.trans {h h' h'' : Host γ} (a : Undisturbed h h') (b : Undisturbed h' h'') :
    Undisturbed h h'' where
  stores := b.stores.trans a.stores
  workspaces := b.workspaces.trans a.workspaces
  definitions := b.definitions.trans a.definitions
  registries := b.registries.trans a.registries
  listeners := b.listeners.trans a.listeners
  adapters := b.adapters.trans a.adapters
  plugins := b.plugins.trans a.plugins
  recorded := b.recorded.trans a.recorded
  names := b.names.trans a.names
  preferencesPath := b.preferencesPath.trans a.preferencesPath

lemma Undisturbed.store {h h' : Host γ} (a : Undisturbed h h') (n : Nat) :
    h'.store n = h.store n := by
  rw [Host.store, Host.store, a.stores]

lemma Undisturbed.workspace {h h' : Host γ} (a : Undisturbed h h') (n : Nat) :
    h'.workspace n = h.workspace n := by
  rw [Host.workspace, Host.workspace, a.workspaces]

lemma undisturbed_register (n : Nat) (h : Host γ) : Undisturbed h (h.register n) := by
  unfold register
  split
  · exact .refl h
  · exact ⟨rfl, rfl, rfl, rfl, rfl, rfl, rfl, rfl, rfl, rfl⟩

lemma undisturbed_noteSent (n : Nat) (x : Sent) (h : Host γ) : Undisturbed h (h.noteSent n x) :=
  ⟨rfl, rfl, rfl, rfl, rfl, rfl, rfl, rfl, rfl, rfl⟩

/-- Settings that a session with an open endpoint sends are those of the store that it seeds its
server with. -/
def Truthful (h : Host γ) (n : Nat) (x : Sent) : Prop :=
  ∀ settings st ws, x.settings? = some settings → (h.session n).endpoint.isSome = true →
    (h.session n).hook = .seed st ws → settings = (Settings.build (h.store st)).1

lemma truthful_of_notice? {h : Host γ} {n : Nat} {x : Sent} (hx : x.settings? = none) :
    h.Truthful n x := by
  intro settings st ws hsettings
  rw [hx] at hsettings
  cases hsettings

lemma Truthful.congr {h : Host γ} {n : Nat} {x y : Sent} (hsame : y.notice? = x.notice?)
    (hx : h.Truthful n x) : h.Truthful n y := by
  intro settings st ws hsettings
  rw [Sent.settings?, hsame] at hsettings
  exact hx settings st ws hsettings

/-- Folders that a session with an open endpoint sends are those of the workspace that it seeds its
server with, and none is removed. -/
def ListsFolders (h : Host γ) (n : Nat) (x : Sent) : Prop :=
  ∀ params st ws, x.folders? = some params → (h.session n).endpoint.isSome = true →
    (h.session n).hook = .seed st ws → params = Folders.changeParams (h.workspace ws).eligible []

lemma lists_of_folders? {h : Host γ} {n : Nat} {x : Sent} (hx : x.folders? = none) :
    h.ListsFolders n x := by
  intro params st ws hfolders
  rw [hx] at hfolders
  cases hfolders

/-- What a session says of its own accord: its server is told `initialized` before anything else,
if it was not told so before, and is sent the folders of the workspace. -/
structure Orderly (told : Bool) (h : Host γ) (n : Nat) (l : List Sent) : Prop where
  opened : Opened told l
  lists : ∀ x ∈ l, h.ListsFolders n x

namespace Orderly

variable {told : Bool} {h : Host γ} {n : Nat} {l l' : List Sent}

lemma nil (told : Bool) (h : Host γ) (n : Nat) : Orderly told h n [] :=
  ⟨trivial, by simp⟩

lemma mono (hl : Orderly false h n l) : Orderly told h n l :=
  ⟨hl.opened.mono, hl.lists⟩

lemma append (hl : Orderly told h n l) (hl' : Orderly told h n l') :
    Orderly told h n (l ++ l') :=
  ⟨hl.opened.append hl'.opened, List.forall_mem_append.2 ⟨hl.lists, hl'.lists⟩⟩

end Orderly

/-- What a session may say: no settings but true ones, and `initialized` only if joining is
allowed. -/
structure Sayable (joins : Bool) (h : Host γ) (n : Nat) (x : Sent) : Prop where
  truthful : h.Truthful n x
  greets : x.starts = true → joins = true

/-- It is the notice in something that decides whether it may be said. -/
lemma Sayable.congr {joins : Bool} {h : Host γ} {n : Nat} {x y : Sent}
    (hsame : y.notice? = x.notice?) (hx : Sayable joins h n x) : Sayable joins h n y := by
  have hstarts : y.starts = x.starts := by rw [Sent.starts, hsame, Sent.starts]
  exact ⟨hx.truthful.congr hsame, fun hsome => hx.greets (hstarts.symm.trans hsome)⟩

/-- From one host to another nothing happened but that a session talked, and sent what is listed.
It is registered by that only if joining is allowed. -/
structure Talk (joins : Bool) (n : Nat) (h h' : Host γ) (l : List Sent) : Prop where
  undisturbed : Undisturbed h h'
  cwd : h'.platform.cwd = h.platform.cwd
  others : ∀ other, other ≠ n → h'.session other = h.session other
  self : Session.SameEnd (h.session n) (h'.session n)
  sent : h'.sent = h.sent ++ l.map (Prod.mk n)
  sayable : ∀ x ∈ l, Sayable joins h n x
  active : h'.active = h.active ∨
    joins = true ∧ h'.active = (h.register n).active ∧
      (h.session n).endpoint.isSome = true ∧ Session.Welcomed (h.session n) l

namespace Talk

variable {joins : Bool} {n : Nat} {h h' h'' : Host γ} {l l' : List Sent}

lemma sameEnd (a : Talk joins n h h' l) (other : Nat) :
    Session.SameEnd (h.session other) (h'.session other) := by
  by_cases hother : other = n
  · rw [hother]
    exact a.self
  · rw [a.others other hother]
    exact .refl _

lemma truthful_iff (a : Talk joins n h h' l) (x : Sent) : h'.Truthful n x ↔ h.Truthful n x := by
  simp only [Truthful, a.self.endpoint, a.self.hook, a.undisturbed.store]

lemma truthful (a : Talk joins n h h' l) : ∀ x ∈ l, h.Truthful n x :=
  fun x hx => (a.sayable x hx).truthful

lemma lists_iff (a : Talk joins n h h' l) (x : Sent) :
    h'.ListsFolders n x ↔ h.ListsFolders n x := by
  simp only [ListsFolders, a.self.endpoint, a.self.hook, a.undisturbed.workspace]

lemma orderly (a : Talk joins n h h' l) {told : Bool} (hl' : Orderly told h' n l') :
    Orderly told h n l' :=
  ⟨hl'.opened, fun x hx => (a.lists_iff x).1 (hl'.lists x hx)⟩

/-- Without joining nobody is greeted. -/
lemma unstarted (a : Talk false n h h' l) : l.any Sent.starts = false :=
  List.any_eq_false.2 fun x hx hstarts => absurd ((a.sayable x hx).greets hstarts) (by simp)

lemma said (a : Talk joins n h h' l) : h'.said n = h.said n ++ l :=
  said_append a.sent

lemma said_other (a : Talk joins n h h' l) {other : Nat} (hother : other ≠ n) :
    h'.said other = h.said other :=
  said_append_other hother.symm a.sent

/-- What was sent stays sent. -/
lemma said_grows (a : Talk joins n h h' l) (other : Nat) :
    ∃ l', h'.said other = h.said other ++ l' := by
  by_cases hother : other = n
  · exact ⟨l, hother ▸ a.said⟩
  · exact ⟨[], by rw [a.said_other hother, List.append_nil]⟩

/-- What was said in a talk is seen from its two ends. -/
lemma unique (a : Talk joins n h h' l) {joins' : Bool} (b : Talk joins' n h h' l') : l = l' := by
  have hsent := List.append_cancel_left (a.sent.symm.trans b.sent)
  exact (List.map_inj_right fun x y hxy => congrArg Prod.snd hxy).1 hsent

lemma refl (joins : Bool) (n : Nat) (h : Host γ) : Talk joins n h h [] :=
  ⟨.refl h, rfl, fun _ _ => rfl, .refl _, by simp, by simp, Or.inl rfl⟩

lemma mono (a : Talk joins n h h' l) : Talk true n h h' l :=
  ⟨a.undisturbed, a.cwd, a.others, a.self, a.sent, fun x hx => ⟨a.truthful x hx, fun _ => rfl⟩,
    a.active.imp_right fun hjoin => ⟨rfl, hjoin.2⟩⟩

lemma mem_active (a : Talk joins n h h' l) {other : Nat} (hother : other ∈ h'.active) :
    other ∈ h.active ∨ other = n := by
  rcases a.active with heq | ⟨-, heq, -⟩
  · rw [heq] at hother
    exact Or.inl hother
  · rw [heq] at hother
    exact ((mem_active_register n other h).1 hother).symm

lemma subset_active (a : Talk joins n h h' l) {other : Nat} (hother : other ∈ h.active) :
    other ∈ h'.active := by
  rcases a.active with heq | ⟨-, heq, -⟩
  · rwa [heq]
  · rw [heq]
    exact (mem_active_register n other h).2 (Or.inr hother)

/-- A session that is registered already is not registered anew. -/
lemma active_eq (a : Talk joins n h h' l) (hn : n ∈ h.active) : h'.active = h.active := by
  rcases a.active with heq | ⟨-, heq, -⟩
  · exact heq
  · rw [heq, active_register_of_mem hn]

lemma nodup (a : Talk joins n h h' l) (hdistinct : h.active.Nodup) : h'.active.Nodup := by
  rcases a.active with heq | ⟨-, heq, -⟩
  · rwa [heq]
  · rw [heq]
    exact nodup_active_register n hdistinct

lemma trans (a : Talk joins n h h' l) (b : Talk joins n h' h'' l') :
    Talk joins n h h'' (l ++ l') where
  undisturbed := a.undisturbed.trans b.undisturbed
  cwd := b.cwd.trans a.cwd
  others other hother := (b.others other hother).trans (a.others other hother)
  self := a.self.trans b.self
  sent := by rw [b.sent, a.sent, List.map_append, List.append_assoc]
  sayable x hx := by
    rcases List.mem_append.1 hx with hx | hx
    · exact a.sayable x hx
    · obtain ⟨htrue, hgreets⟩ := b.sayable x hx
      exact ⟨(a.truthful_iff x).1 htrue, hgreets⟩
  active := by
    rcases a.active with ha | ⟨hjoins, ha, hopen, hwelcome⟩
    · rcases b.active with hb | ⟨hjoins, hb, hopen, hwelcome⟩
      · exact Or.inl (hb.trans ha)
      · refine Or.inr ⟨hjoins, ?_, a.self.endpoint ▸ hopen, ?_⟩
        · rw [hb, active_register, active_register, ha]
        · exact (hwelcome.of_sameEnd a.self).prepend l
    · refine Or.inr ⟨hjoins, ?_, hopen, hwelcome.append l'⟩
      have hn : n ∈ h'.active := by
        rw [ha]
        exact mem_active_register_self n h
      rw [b.active_eq hn, ha]

/-- A talk in two parts, between which the session is registered: together they have to welcome
its server. -/
lemma welcome (a : Talk joins n h h' l) (b : Talk joins n (h'.register n) h'' l')
    (hopen : (h.session n).endpoint.isSome = true)
    (hwelcome : Session.Welcomed (h.session n) (l ++ l')) : Talk true n h h'' (l ++ l') where
  undisturbed := (a.undisturbed.trans (undisturbed_register n h')).trans b.undisturbed
  cwd := by rw [b.cwd, platform_register, a.cwd]
  others other hother := by
    rw [b.others other hother, session_register, a.others other hother]
  self := by
    have hb := b.self
    rw [session_register] at hb
    exact a.self.trans hb
  sent := by
    have hreg : (h'.register n).sent = h'.sent := by
      unfold register
      split <;> rfl
    rw [b.sent, hreg, a.sent, List.map_append, List.append_assoc]
  sayable x hx := by
    refine ⟨?_, fun _ => rfl⟩
    rcases List.mem_append.1 hx with hx | hx
    · exact a.truthful x hx
    · refine (a.truthful_iff x).1 ?_
      have hb := b.truthful x hx
      simp only [Truthful, session_register, (undisturbed_register n h').store] at hb
      exact hb
  active := by
    have hactive := b.active_eq (mem_active_register_self n h')
    refine Or.inr ⟨rfl, ?_, hopen, hwelcome⟩
    rcases a.active with ha | ⟨-, ha, -⟩
    · rw [hactive, active_register, active_register, ha]
    · have hn : n ∈ h'.active := by
        rw [ha]
        exact mem_active_register_self n h
      rw [hactive, active_register_of_mem hn, ha]

end Talk

/-! ## Single steps -/

lemma talk_platform (joins : Bool) (n : Nat) {h : Host γ} {platform : Platform}
    (hcwd : platform.cwd = h.platform.cwd) : Talk joins n h { h with platform } [] :=
  ⟨⟨rfl, rfl, rfl, rfl, rfl, rfl, rfl, rfl, rfl, rfl⟩, hcwd, fun _ _ => rfl, .refl _, by simp,
    by simp, Or.inl rfl⟩

lemma talk_log (joins : Bool) (n : Nat) (h : Host γ) (service : String) (level : Level)
    (message : Text) (extra : Tags) : Talk joins n h (h.log service level message extra) [] :=
  talk_platform joins n (Platform.cwd_log service level message extra h.platform)

lemma talk_hooked (joins : Bool) (n : Nat) (h : Host γ) (hooked : List (Option String)) :
    Talk joins n h { h with hooked } [] :=
  ⟨⟨rfl, rfl, rfl, rfl, rfl, rfl, rfl, rfl, rfl, rfl⟩, rfl, fun _ _ => rfl, .refl _, by simp,
    by simp, Or.inl rfl⟩

lemma talk_received (joins : Bool) (n : Nat) (h : Host γ) (received : List Json) :
    Talk joins n h { h with received } [] :=
  ⟨⟨rfl, rfl, rfl, rfl, rfl, rfl, rfl, rfl, rfl, rfl⟩, rfl, fun _ _ => rfl, .refl _, by simp,
    by simp, Or.inl rfl⟩

lemma talk_setSession (joins : Bool) {n : Nat} {h : Host γ} {s : Session}
    (hs : Session.SameEnd (h.session n) s) : Talk joins n h (h.setSession n s) [] where
  undisturbed := ⟨rfl, rfl, rfl, rfl, rfl, rfl, rfl, rfl, rfl, rfl⟩
  cwd := rfl
  others other hother := by
    rw [session_setSession, if_neg fun hsame => hother hsame.1]
  self := by
    rw [session_setSession]
    split
    · exact hs
    · exact .refl _
  sent := by simp [setSession]
  sayable := by simp
  active := Or.inl rfl

lemma talk_noteSent {joins : Bool} {n : Nat} {h : Host γ} {x : Sent} (hx : Sayable joins h n x) :
    Talk joins n h (h.noteSent n x) [x] :=
  ⟨undisturbed_noteSent n x h, rfl, fun _ _ => rfl, .refl _, rfl, by simpa, Or.inl rfl⟩

/-- The session talked of its own accord. -/
def Chats (joins : Bool) (n : Nat) (told : Bool) (h h' : Host γ) : Prop :=
  ∃ l, Talk joins n h h' l ∧ Orderly told h n l

lemma Talk.chats {joins : Bool} {n : Nat} {h h' : Host γ} (a : Talk joins n h h' [])
    (told : Bool) : Chats joins n told h h' :=
  ⟨[], a, .nil told h n⟩

instance (joins : Bool) (n : Nat) (told : Bool) : Std.Refl (Chats (γ := γ) joins n told) where
  refl h := (Talk.refl joins n h).chats told

instance (joins : Bool) (n : Nat) (told : Bool) :
    IsTrans (Host γ) (Chats joins n told) where
  trans := by
    rintro h h' h'' ⟨l, a, hl⟩ ⟨l', b, hl'⟩
    exact ⟨l ++ l', a.trans b, hl.append (a.orderly hl')⟩

/-- The session said nothing. -/
def Silent (joins : Bool) (n : Nat) (h h' : Host γ) : Prop :=
  Talk joins n h h' []

instance (joins : Bool) (n : Nat) : Std.Refl (Silent (γ := γ) joins n) where
  refl h := .refl joins n h

instance (joins : Bool) (n : Nat) : IsTrans (Host γ) (Silent joins n) where
  trans _ _ _ := Talk.trans

/-- The session handed its server a notice, if it could, and talked on from there, whether or not
it may say what is in the notice. A stand-in has nothing more to say. -/
def Hands (joins : Bool) (n : Nat) (notice : Notice) (h h' : Host γ) : Prop :=
  ((h.session n).takes notice.word = false ∧ Talk joins n h h' []) ∨
    ((h.session n).takes notice.word = true ∧
      ∃ x l, x.notice? = some notice ∧ Talk joins n (h.noteSent n x) h' l ∧
        Orderly false h n l ∧ ((h.session n).isWired = false → l = []))

/-- The session told its server a notice, if it could, and talked on from there. A stand-in has
nothing more to say. -/
def Tells (joins : Bool) (n : Nat) (notice : Notice) (h h' : Host γ) : Prop :=
  ((h.session n).takes notice.word = false ∧ Talk joins n h h' []) ∨
    ((h.session n).takes notice.word = true ∧
      ∃ x l, Talk joins n h h' (x :: l) ∧ x.notice? = some notice ∧ Orderly false h n l ∧
        ((h.session n).isWired = false → l = []))

namespace Hands

variable {joins : Bool} {n : Nat} {notice : Notice} {h h' h'' : Host γ}

/-- Quiet steps behind a notice change nothing about it. -/
lemma quiet (a : Hands joins n notice h h') (b : Talk joins n h' h'' []) :
    Hands joins n notice h h'' := by
  rcases a with ⟨htakes, a⟩ | ⟨htakes, x, l, hx, a, hl, hwired⟩
  · exact Or.inl ⟨htakes, a.trans b⟩
  · refine Or.inr ⟨htakes, x, l, hx, ?_, hl, hwired⟩
    have hab := a.trans b
    rwa [List.append_nil] at hab

/-- A notice that may be said is told. -/
lemma tells (a : Hands joins n notice h h')
    (hsay : Sayable joins h n (.message notice.message)) : Tells joins n notice h h' := by
  rcases a with ⟨htakes, a⟩ | ⟨htakes, x, l, hx, a, hl, hwired⟩
  · exact Or.inl ⟨htakes, a⟩
  · have hsame := hx.trans (Sent.notice?_message notice).symm
    exact Or.inr ⟨htakes, x, l, (talk_noteSent (hsay.congr hsame)).trans a, hx, hl, hwired⟩

end Hands

namespace Tells

variable {joins : Bool} {n : Nat} {notice : Notice} {h h' h'' : Host γ}

/-- Quiet steps behind a notice change nothing about it. -/
lemma quiet (a : Tells joins n notice h h') (b : Talk joins n h' h'' []) :
    Tells joins n notice h h'' := by
  rcases a with ⟨htakes, a⟩ | ⟨htakes, x, l, a, hx, hl, hwired⟩
  · exact Or.inl ⟨htakes, a.trans b⟩
  · refine Or.inr ⟨htakes, x, l, ?_, hx, hl, hwired⟩
    have hab := a.trans b
    rwa [List.append_nil] at hab

/-- Quiet steps in front of a notice change nothing about it. -/
lemma after (a : Talk joins n h h' []) (b : Tells joins n notice h' h'') :
    Tells joins n notice h h'' := by
  rcases b with ⟨htakes, b⟩ | ⟨htakes, x, l, b, hx, hl, hwired⟩
  · exact Or.inl ⟨(a.self.takes _).symm.trans htakes, a.trans b⟩
  · refine Or.inr ⟨(a.self.takes _).symm.trans htakes, x, l, a.trans b, hx, a.orderly hl,
      fun hw => ?_⟩
    exact hwired (a.self.isWired.trans hw)

lemma talk (a : Tells joins n notice h h') : ∃ l, Talk joins n h h' l := by
  rcases a with ⟨-, a⟩ | ⟨-, x, l, a, -⟩
  · exact ⟨[], a⟩
  · exact ⟨x :: l, a⟩

end Tells

end Host

namespace Act

open Host

variable {γ α : Type} {joins told : Bool} {n : Nat}

lemma Lasts.chats {a : Act γ α} (ha : Lasts (Silent joins n) a) : Lasts (Chats joins n told) a :=
  fun h => Talk.chats (ha h) told

lemma silent_modifySession {change : Session → Session}
    (hchange : ∀ s : Session, Session.SameEnd s (change s)) :
    Lasts (Silent (γ := γ) joins n) (Act.modifySession n change) :=
  Lasts.modify fun _ => talk_setSession joins (hchange _)

lemma lasts_modifySession {change : Session → Session}
    (hchange : ∀ s : Session, Session.SameEnd s (change s)) :
    Lasts (Chats (γ := γ) joins n told) (Act.modifySession n change) :=
  (silent_modifySession hchange).chats

end Act

end LanguageHost
