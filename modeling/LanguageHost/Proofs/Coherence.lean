import LanguageHost.Proofs.Turn

/-!
# Servers know the settings

While an adapter runs, the last settings that a registered session of its definition has sent are
always the ones that the store says now. A change is announced exactly if it changes the settings,
and a session that joins is told them at once; the invariant is the one of `Host.Coherent`, and each
kind of turn keeps it.

Sessions to which settings cannot be sent are left out, whatever they heard before.
-/

namespace LanguageHost

open Act Host

variable {γ : Type} {d st ws n : Nat} {h h' : Host γ}

namespace Settings

/-- The settings depend on one preference only. -/
lemma build_congr {s s' : PreferenceStore} (hsame : s.get schemaKey = s'.get schemaKey) :
    build s = build s' := by
  rw [build, build, hsame]

end Settings

namespace PreferenceStore

/-- Setting a key that announces nothing leaves the settings as they are. -/
lemma build_write {key value : Text} {store : PreferenceStore}
    (hsilent : key = schemaKey → store.changeOf key value = none) :
    Settings.build (store.write key value) = Settings.build store := by
  refine Settings.build_congr ?_
  rw [get_write]
  by_cases hkey : key = schemaKey
  · rw [if_pos hkey]
    have hnone := hsilent hkey
    simp only [changeOf] at hnone
    split at hnone
    · rename_i hsame
      rw [← hsame, hkey]
    · cases hnone
  · rw [if_neg hkey]

end PreferenceStore

namespace Host

/-- The session has sent the settings of the store last. -/
def KnowsSettings (st n : Nat) (h : Host γ) : Prop :=
  lastSettings (h.said n) = some (Settings.build (h.store st)).1

/-- Every registered session of a definition that can be told settings knows those of the store. -/
def Coherent (d st : Nat) (h : Host γ) : Prop :=
  ∀ n ∈ h.active, (h.session n).definition = some d → (h.session n).takes "config" = true →
    KnowsSettings st n h

/-! ## One session -/

/-- Whoever knew the settings, or was told some, knows them if nothing else was said. -/
lemma knowsSettings_append {l : List Sent} (hsaid : h'.said n = h.said n ++ l)
    (hall : ∀ x ∈ l, ∀ j, x.settings? = some j → j = (Settings.build (h'.store st)).1)
    (hknown : lastSettings (h.said n) = some (Settings.build (h'.store st)).1 ∨
      lastSettings l ≠ none) : KnowsSettings st n h' := by
  rw [KnowsSettings, hsaid, lastSettings_append]
  by_cases hl : lastSettings l = none
  · rw [hl]
    exact hknown.resolve_right fun hne => hne hl
  · rw [lastSettings_eq hl hall]
    rfl

/-- A wired session of the definition sends no settings but those of the store. -/
lemma Linked.settings_true (hlinked : Linked d st ws h)
    (hdefinition : (h.session n).definition = some d) (hwired : (h.session n).isWired = true)
    (htakes : (h.session n).takes "config" = true) {x : Sent} (hx : h.Truthful n x) {j : Json}
    (hj : x.settings? = some j) : j = (Settings.build (h.store st)).1 := by
  have hopen : (h.session n).endpoint.isSome = true :=
    (Session.takes_of_isWired hwired "config").symm.trans htakes
  exact hx j st ws hj hopen (hlinked.seeds n hdefinition hopen)

/-- The settings of the store are true for every session of the definition. -/
lemma Linked.truthful (hlinked : Linked d st ws h) (hdefinition : (h.session n).definition = some d)
    {notice : Notice}
    (hnotice : ∀ j, notice.settings? = some j → j = (Settings.build (h.store st)).1) :
    h.Truthful n (.message notice.message) := by
  intro settings st' ws' hsettings hopen hhook
  rw [hlinked.seeds n hdefinition hopen] at hhook
  cases hhook
  rw [Wire.settings?_message] at hsettings
  exact hnotice settings hsettings

/-- A talk of a wired session keeps what it knows. -/
lemma Talk.knowsSettings {joins : Bool} {l : List Sent} (hlinked : Linked d st ws h)
    (a : Talk joins n h h' l) (hdefinition : (h.session n).definition = some d)
    (hwired : (h.session n).isWired = true) (htakes : (h.session n).takes "config" = true)
    (hknown : KnowsSettings st n h ∨ lastSettings l ≠ none) : KnowsSettings st n h' := by
  have hstore := a.undisturbed.store st
  refine knowsSettings_append a.said (fun x hx j hj => ?_) ?_
  · rw [hstore]
    exact hlinked.settings_true hdefinition hwired htakes (a.truthful x hx) hj
  · rwa [hstore]

/-- A notice keeps what a session knows unless it brings other settings. -/
lemma Hears.knowsSettings {notice : Notice} {recipients : List Nat} {l : List Sent}
    (hlinked : Linked d st ws h) (hears : Hears notice recipients h n l)
    (hsaid : h'.said n = h.said n ++ l) (hstore : h'.store st = h.store st)
    (hdefinition : (h.session n).definition = some d)
    (htakes : (h.session n).takes "config" = true)
    (hnotice : ∀ j, notice.settings? = some j → j = (Settings.build (h.store st)).1)
    (hknown : KnowsSettings st n h ∨
      n ∈ recipients ∧ notice.word = "config" ∧ notice.settings? ≠ none) :
    KnowsSettings st n h' := by
  by_cases htold : n ∈ recipients ∧ (h.session n).takes notice.word = true
  · obtain ⟨x, rest, rfl, hx, -, hrest⟩ := hears.told htold.1 htold.2
    have hxs : x.settings? = notice.settings? := by
      rw [Sent.settings?, hx]
      rfl
    refine knowsSettings_append hsaid (fun y hy j hj => ?_) ?_
    · rw [hstore]
      rcases List.mem_cons.1 hy with rfl | hy'
      · exact hnotice j (hxs.symm.trans hj)
      · cases hwired : (h.session n).isWired with
        | true =>
          have htruthful := hears.truthful (hlinked.truthful hdefinition hnotice) y hy
          exact hlinked.settings_true hdefinition hwired htakes htruthful hj
        | false =>
          rw [hrest hwired] at hy'
          cases hy'
    · rw [hstore]
      refine hknown.imp_right fun hsome => lastSettings_append_ne_none (l := [x]) (Or.inl ?_)
      obtain ⟨j, hj⟩ := Option.ne_none_iff_exists'.1 hsome.2.2
      simp [lastSettings, hxs, hj]
  · have hnone : l = [] := hears.quiet (by
      by_cases hmem : n ∈ recipients
      · exact Or.inr (Bool.eq_false_iff.2 fun ht => htold ⟨hmem, ht⟩)
      · exact Or.inl hmem)
    rcases hknown with hknown | ⟨hmem, hword, -⟩
    · rw [KnowsSettings, hsaid, hnone, List.append_nil, hstore]
      exact hknown
    · exact absurd ⟨hmem, hword ▸ htakes⟩ htold

/-! ## One turn -/

/-- Whatever a wired session of any definition talks, the others know what they knew. -/
lemma Coherent.of_talk {l : List Sent} (hlinked : Linked d st ws h) (hcoherent : Coherent d st h)
    (a : Talk true n h h' l) (hwired : (h.session n).isWired = true) : Coherent d st h' := by
  intro m hm hdefinition htakes
  have hsame := a.sameEnd m
  rw [hsame.definition] at hdefinition
  rw [hsame.takes] at htakes
  by_cases hmn : m = n
  · subst hmn
    refine a.knowsSettings hlinked hdefinition hwired htakes ?_
    by_cases hin : m ∈ h.active
    · exact Or.inl (hcoherent m hin hdefinition htakes)
    · -- it was registered in this talk, which therefore welcomed its server
      rcases a.active with heq | ⟨-, -, hopen, hwelcome⟩
      · rw [heq] at hm
        exact absurd hm hin
      · exact Or.inr (hwelcome.configured st ws (hlinked.seeds m hdefinition hopen) htakes)
  · have hin := (a.mem_active hm).resolve_right hmn
    rw [KnowsSettings, a.said_other hmn, a.undisturbed.store]
    exact hcoherent m hin hdefinition htakes

/-- When the sessions of the definition are told the settings of the store, all of them know
these. -/
lemma Coherent.of_announced {notice : Notice} (hlinked : Linked d st ws h)
    (a : Announced notice (h.matching (some d)) h h')
    (hnotice : ∀ j, notice.settings? = some j → j = (Settings.build (h.store st)).1)
    (hknown : Coherent d st h ∨ notice.word = "config" ∧ notice.settings? ≠ none) :
    Coherent d st h' := by
  intro m hm hdefinition htakes
  rw [(a.ends m).definition] at hdefinition
  rw [(a.ends m).takes] at htakes
  rw [a.active] at hm
  obtain ⟨l, hsaid, hears⟩ := a.said m
  refine hears.knowsSettings hlinked hsaid (a.undisturbed.store st) hdefinition htakes hnotice ?_
  exact hknown.imp (fun hcoherent => hcoherent m hm hdefinition htakes)
    fun hsome => ⟨mem_matching.2 ⟨hm, hdefinition⟩, hsome⟩

/-- The settings in the news about a preference are the new ones, and without news the settings
stay what they were. -/
lemma settings_of_settingsNews (hst : st < h.stores.length) (key value : Text) :
    let edited := h.setStore st ((h.store st).write key value)
    (∀ notice, Change.settingsNews st key value h = some notice →
      notice = .configuration (Settings.build (edited.store st)).1) ∧
    (Change.settingsNews st key value h = none →
      Settings.build (edited.store st) = Settings.build (h.store st)) := by
  intro edited
  have hstore : edited.store st = (h.store st).write key value := by
    rw [store_setStore, if_pos ⟨rfl, hst⟩]
  rw [hstore, Change.settingsNews]
  constructor
  · intro notice hnews
    split at hnews
    · obtain ⟨change, -, rfl⟩ := Option.map_eq_some_iff.1 hnews
      rfl
    · cases hnews
  · intro hnone
    refine PreferenceStore.build_write fun hkey => ?_
    rw [if_pos hkey] at hnone
    exact Option.map_eq_none_iff.1 hnone

/-- Changes of projects leave the stores alone, and bring news of folders only. -/
lemma settings_of_projects (st ws : Nat) (h : Host γ) {change : Change}
    (hset : ∀ key value, change ≠ .set key value)
    (hreset : ∀ key, change ≠ .reset key) :
    (change.edit st ws h).stores = h.stores ∧
      ∀ notice, change.news st ws h = some notice → notice.settings? = none := by
  cases change with
  | set key value => exact absurd rfl (hset key value)
  | reset key => exact absurd rfl (hreset key)
  | create name location hidden isOpen =>
    rw [Change.edit, Change.news, Workspace.create]
    cases (h.workspace ws).find? name <;> simp [setWorkspace, Notice.settings?]
  | delete name =>
    rw [Change.edit, Change.news, Workspace.delete, Workspace.require]
    cases (h.workspace ws).find? name <;> simp [setWorkspace, Notice.settings?]
  | setOpen name isOpen =>
    refine ⟨?_, by simp [Change.news]⟩
    rw [Change.edit]
    split <;> rfl
  | touch r => exact ⟨rfl, by simp [Change.news]⟩

/-- What the news say about the settings after any change. -/
lemma settings_of_news (ws : Nat) (hst : st < h.stores.length) (change : Change) :
    (change.news st ws h = none →
      Settings.build ((change.edit st ws h).store st) = Settings.build (h.store st)) ∧
    ∀ notice, change.news st ws h = some notice →
      notice = .configuration (Settings.build ((change.edit st ws h).store st)).1 ∨
      notice.settings? = none ∧
        Settings.build ((change.edit st ws h).store st) = Settings.build (h.store st) := by
  by_cases hset : ∃ key value, change = .set key value
  · obtain ⟨key, value, rfl⟩ := hset
    obtain ⟨hsome, hnone⟩ := settings_of_settingsNews hst key value
    exact ⟨hnone, fun notice hnews => Or.inl (hsome notice hnews)⟩
  by_cases hreset : ∃ key, change = .reset key
  · obtain ⟨key, rfl⟩ := hreset
    obtain ⟨hsome, hnone⟩ := settings_of_settingsNews hst key ((h.store st).getDefault key)
    exact ⟨hnone, fun notice hnews => Or.inl (hsome notice hnews)⟩
  · obtain ⟨hstores, hfolders⟩ := settings_of_projects st ws h
      (fun key value hsame => hset ⟨key, value, hsame⟩) fun key hsame => hreset ⟨key, hsame⟩
    have hsame : (change.edit st ws h).store st = h.store st := by
      rw [Host.store, Host.store, hstores]
    rw [hsame]
    exact ⟨fun _ => rfl, fun notice hnews => Or.inr ⟨hfolders notice hnews, rfl⟩⟩

lemma Coherent.of_change (react : List γ → Act γ Unit) (hlinked : Linked d st ws h)
    (hcoherent : Coherent d st h) (change : Change) :
    Coherent d st (change.perform react st ws h).2 := by
  have hperformed := Change.performed react hlinked.toSubscribed change
  have hedited := Change.edited st ws change h
  have hlinked' := hlinked.of_edited hedited
  -- where the settings are the old ones, the edited host is as coherent as the one before
  have hkept : ∀ platform, Settings.build ((change.edit st ws h).store st) =
      Settings.build (h.store st) → Coherent d st { change.edit st ws h with platform } := by
    intro platform hsame m hm hdefinition htakes
    have hsession : ({ change.edit st ws h with platform } : Host γ).session m = h.session m :=
      hedited.session m
    rw [hsession] at hdefinition htakes
    have hactive : m ∈ h.active := hedited.active ▸ hm
    have hsaid := hedited.said m
    have hknown := hcoherent m hactive hdefinition htakes
    rw [KnowsSettings, ← hsame, ← hsaid] at hknown
    exact hknown
  obtain ⟨hnone, hsome⟩ := settings_of_news ws hlinked.store change
  rcases hnews : change.news st ws h with _ | notice
  · obtain ⟨platform, hsame⟩ := hperformed.silent hnews
    rw [hsame]
    exact hkept platform (hnone hnews)
  · obtain ⟨platform, htold⟩ := hperformed.told notice hnews
    set h₁ : Host γ := { change.edit st ws h with platform }
    have hlinked₁ : Linked d st ws h₁ :=
      hlinked'.of_undisturbed (undisturbed_platform _ platform) (fun _ => .refl _) hlinked'.distinct
    have hmatching : h₁.matching (some d) = h.matching (some d) := by
      have hactive : h₁.active = h.active := hedited.active
      have hsession : ∀ n, h₁.session n = h.session n := hedited.session
      simp only [matching, hactive, hsession]
    rw [← hmatching] at htold
    rcases hsome notice hnews with rfl | ⟨hfolders, hsame⟩
    · exact Coherent.of_announced hlinked₁ htold (fun j hj => (Option.some.inj hj).symm)
        (Or.inr ⟨rfl, by simp [Notice.settings?]⟩)
    · refine Coherent.of_announced hlinked₁ htold (fun j hj => ?_) (Or.inl (hkept platform hsame))
      rw [hfolders] at hj
      cases hj

/-- A session is told a notice that is true of the settings, while the others know them. -/
lemma Coherent.of_tells {notice : Notice} (hlinked : Linked d st ws h)
    (hothers : ∀ m ∈ h.active, m ≠ n → (h.session m).definition = some d →
      (h.session m).takes "config" = true → KnowsSettings st m h)
    (a : Tells true n notice h h') (hn : n ∈ h.active)
    (hnotice : ∀ j, notice.settings? = some j → j = (Settings.build (h.store st)).1)
    (hknown : (h.session n).definition = some d → (h.session n).takes "config" = true →
      KnowsSettings st n h ∨ notice.word = "config" ∧ notice.settings? ≠ none) :
    Coherent d st h' := by
  obtain ⟨l, t, heard⟩ := a.hears
  intro m hm hdefinition htakes
  rw [(t.sameEnd m).definition] at hdefinition
  rw [(t.sameEnd m).takes] at htakes
  rw [t.active_eq hn] at hm
  by_cases hmn : m = n
  · subst hmn
    refine heard.knowsSettings hlinked t.said (t.undisturbed.store st) hdefinition htakes hnotice ?_
    exact (hknown hdefinition htakes).imp_right fun hsome => ⟨List.mem_cons_self, hsome⟩
  · rw [KnowsSettings, t.said_other hmn, t.undisturbed.store]
    exact hothers m hm hmn hdefinition htakes

lemma Coherent.of_quiet (hcoherent : Coherent d st h) (a : Talk true n h h' []) :
    Coherent d st h' := by
  intro m hm hdefinition htakes
  rw [(a.sameEnd m).definition] at hdefinition
  rw [(a.sameEnd m).takes] at htakes
  have hactive : h'.active = h.active := by
    rcases a.active with heq | ⟨-, -, -, hwelcome⟩
    · exact heq
    · exact absurd hwelcome.started (by simp)
  have hsaid : h'.said m = h.said m := by
    by_cases hmn : m = n
    · rw [hmn, a.said, List.append_nil]
    · exact a.said_other hmn
  rw [hactive] at hm
  rw [KnowsSettings, hsaid, a.undisturbed.store]
  exact hcoherent m hm hdefinition htakes

/-- Who joins is told the settings before anything else. -/
lemma Coherent.of_join (react : List γ → Act γ Unit) (hlinked : Linked d st ws h)
    (hcoherent : Coherent d st h) (n : Nat) (answer : StartResult) :
    Coherent d st ((Turn.join n answer).perform react d st ws h).2 := by
  have hlinked₁ := hlinked.of_register n
  have hn : n ∈ (h.register n).active := mem_active_register_self n h
  -- the sessions that were there before know what they knew
  have hothers : ∀ m ∈ (h.register n).active, m ≠ n ∨ (h.session n).definition ≠ some d →
      ((h.register n).session m).definition = some d →
      ((h.register n).session m).takes "config" = true → KnowsSettings st m (h.register n) := by
    intro m hm hother hdefinition htakes
    rw [session_register] at hdefinition htakes
    have hin : m ∈ h.active := by
      rcases (mem_active_register n m h).1 hm with rfl | hin
      · exact absurd hdefinition (hother.resolve_left fun hne => hne rfl)
      · exact hin
    rw [KnowsSettings, said_register, (undisturbed_register n h).store]
    exact hcoherent m hin hdefinition htakes
  by_cases hdefinition : (h.session n).definition = some d
  · rw [Turn.join_run react answer hdefinition]
    set h₁ := h.register n
    have hsettings := Wire.prompt_opened.tells_settings (n := n)
      (hlinked₁.seeds n (by rw [session_register, hdefinition]))
    have hsettled : Coherent d st (Wire.sendSettings Wire.opened st n h₁).2 :=
      Coherent.of_tells hlinked₁ (fun m hm hne => hothers m hm (Or.inl hne)) hsettings hn
        (fun j hj => (Option.some.inj hj).symm) fun _ _ =>
          Or.inr ⟨rfl, by simp [Notice.settings?]⟩
    obtain ⟨l, t⟩ := hsettings.talk
    rcases Wire.prompt_opened.folders_cases ws n (Wire.sendSettings Wire.opened st n h₁).2 with
      ⟨uris, hfolders⟩ | hquiet
    · refine Coherent.of_tells (hlinked₁.of_talk t) (fun m hm _ => hsettled m hm) hfolders
        (t.subset_active hn) (fun j hj => by cases hj) fun hdefinition htakes => ?_
      exact Or.inl (hsettled n (t.subset_active hn) hdefinition htakes)
    · exact hsettled.of_quiet hquiet
  · rw [Turn.join_other react answer hdefinition]
    exact fun m hm => hothers m hm (Or.inr hdefinition)

/-! ## Runs -/

/-- Every turn keeps the sessions of the definition coherent with the store. -/
theorem Coherent.of_turn (react : List γ → Act γ Unit) (hlinked : Linked d st ws h)
    (hcoherent : Coherent d st h) (turn : Turn) :
    Coherent d st (turn.perform react d st ws h).2 := by
  cases turn with
  | change c => exact hcoherent.of_change react hlinked c
  | join n answer => exact hcoherent.of_join react hlinked n answer
  | leave n => exact fun m hm => hcoherent m (List.mem_of_mem_erase hm)
  | receive n message =>
    cases hwired : (h.session n).isWired with
    | true =>
      obtain ⟨l, a, -⟩ :=
        Wire.Usable.talk_consume (n := n) (Or.inr Wire.prompt_opened) message h
      rw [Turn.receive_wired react message hwired]
      exact hcoherent.of_talk hlinked a hwired
    | false =>
      rw [Turn.receive_standIn react message hwired]
      exact hcoherent

/-- **Registered servers know the settings.** An adapter is started while no session of its
definition is registered. After any run of changes, arrivals, departures and messages, every
registered session of the definition that can be told settings has sent those of the store as it
is now last. -/
theorem settings_known_after_run (react : List γ → Act γ Unit) {k : Nat}
    (hprep : Prepared k d st ws h)
    (hnone : ∀ n ∈ h.active, (h.session n).definition ≠ some d) (turns : List Turn) :
    let reached := run react d st ws turns (startAdapter k h).2
    ∀ n ∈ reached.active, (reached.session n).definition = some d →
      (reached.session n).takes "config" = true →
        lastSettings (reached.said n) = some (Settings.build (reached.store st)).1 := by
  have hstart : Linked d st ws (startAdapter k h).2 ∧ Coherent d st (startAdapter k h).2 := by
    refine ⟨hprep.linked, fun n hn hdefinition => ?_⟩
    obtain ⟨hsessions, hactive, -, -⟩ := hprep.left
    rw [session, hsessions] at hdefinition
    exact absurd hdefinition (hnone n (hactive ▸ hn))
  have hall := run_induction (P := fun h => Linked d st ws h ∧ Coherent d st h) react turns
    (fun h turn _ hinv => ⟨hinv.1.of_turn react turn, hinv.2.of_turn react hinv.1 turn⟩) hstart
  exact hall.2

/-- A server that was told the settings when it joined is told the new ones. -/
theorem settings_known_after_set :
    let turns := [Turn.join 0 .plain, .change (.set schemaKey "x"), .join 1 .plain]
    let reached := run (fun _ => pure ()) 0 0 0 turns (startAdapter 0 Host.small).2
    Prepared 0 0 0 0 Host.small ∧ Host.small.active = [] ∧
      lastSettings (reached.said 0) = some (Settings.build (reached.store 0)).1 := by
  intro turns reached
  refine ⟨prepared_small, rfl, ?_⟩
  exact settings_known_after_run (fun _ => pure ()) prepared_small (by simp [small, empty]) turns 0
    (by decide +kernel) (by decide +kernel) (by decide +kernel)

end Host

end LanguageHost
