import LanguageHost.Proofs.Printing
import LanguageHost.Proofs.Turn

/-!
# The round trip of a schema text

A mapping that is written as text into the schema preference reaches the server as settings with the
same mapping, which is written as the same text again. Such a text is in normal form: it is what
reading a schema text and writing its mapping leads to, and doing so again changes nothing.
-/

namespace LanguageHost

open Act Host

/-! ## Normal forms -/

namespace Schema

/-- The text that a schema text becomes when its mapping is read and written. -/
def normalize (u : Text) : Except Rejection Text :=
  (check u).map SchemaMapping.text

/-- A normal form is the text of the mapping that was read. -/
lemma normalize_eq_ok {u t : Text} :
    normalize u = .ok t ↔ ∃ m, check u = .ok m ∧ m.text = t := by
  rw [normalize]
  cases check u with
  | error complaints => exact iff_of_false (by rintro ⟨⟩) (by rintro ⟨m, ⟨⟩, -⟩)
  | ok m => simp [Except.map]

/-- The mapping that was read is written so that it is read again. -/
lemma check_text_of_check {u : Text} {m : SchemaMapping} (h : check u = .ok m) :
    check m.text = .ok m := by
  obtain ⟨hkeys, hm⟩ := check_eq_ok h
  exact check_text hkeys hm

lemma normalize_idem {u t : Text} (h : normalize u = .ok t) : normalize t = .ok t := by
  obtain ⟨m, hcheck, rfl⟩ := normalize_eq_ok.1 h
  exact normalize_eq_ok.2 ⟨m, check_text_of_check hcheck, rfl⟩

end Schema

/-! ## Settings -/

namespace Settings

/-- The schemas in some settings. -/
def schemas? (settings : Json) : Option Json :=
  (settings.member? "yaml").bind fun block => block.member? "schemas"

lemma schemas?_wrap (m : SchemaMapping) : schemas? (wrap (blockOf m)) = some m.toJson := by
  have hyaml : (wrap (blockOf m)).member? "yaml" = some (blockOf m) := by
    simp [wrap, Json.object, Json.member?, findMember?]
  have hschemas : (blockOf m).member? "schemas" = some m.toJson := by
    simp [blockOf, Json.object, Json.member?, findMember?]
  rw [schemas?, hyaml, Option.bind_some, hschemas]

/-- A preference that is a schema text in normal form asks for the block of its mapping. -/
lemma blockFor_text {m : SchemaMapping} (hkeys : (m.map Prod.fst).Nodup) (hm : m.IsWhole) :
    blockFor m.text = .ok (blockOf m) :=
  blockFor_schemaText hkeys (Json.schemaText_write hm)

lemma build_text {m : SchemaMapping} (hkeys : (m.map Prod.fst).Nodup) (hm : m.IsWhole)
    {store : PreferenceStore} (hstore : store.get schemaKey = m.text) :
    build store = (wrap (blockOf m), none) := by
  rw [build, hstore, blockFor_text hkeys hm]

end Settings

/-! ## The preference and the server -/

namespace Host

variable {γ : Type} {d st ws n : Nat} {h : Host γ}

/-- Setting a key succeeds, whatever listeners do. -/
lemma setPreference_fst (react : List γ → Act γ Unit) (st : Nat) (key value : Text) (h : Host γ) :
    (setPreference react st key value h).1 = .ok () := by
  unfold setPreference
  rw [get_bind, modify_bind]
  cases (h.store st).changeOf key value with
  | none => rfl
  | some change =>
    dsimp only
    rw [get_bind]
    exact Change.publish_fst react _ _ _ _ _

/-- A registered session that can be told settings hears the ones of the new schema preference
first. -/
lemma said_setPreference (react : List γ → Act γ Unit) (hsub : Subscribed d st ws h)
    {value : Text} (hvalue : (h.store st).get schemaKey ≠ value) (hactive : n ∈ h.active)
    (hdefinition : (h.session n).definition = some d)
    (htakes : (h.session n).takes "config" = true) :
    ∃ x rest, (setPreference react st schemaKey value h).2.said n = h.said n ++ x :: rest ∧
      x.notice? =
        some (.configuration (Settings.build ((h.store st).write schemaKey value)).1) ∧
      Opened false rest ∧ ((h.session n).isWired = false → rest = []) := by
  have hnews : Change.news st ws (.set schemaKey value) h =
      some (.configuration (Settings.build ((h.store st).write schemaKey value)).1) := by
    simp only [Change.news, Change.settingsNews, PreferenceStore.changeOf, if_neg hvalue,
      if_true, Option.map_some]
  have hedited := Change.edited st ws (.set schemaKey value) h
  obtain ⟨platform, htold⟩ :=
    (Change.performed_setPreference react hsub schemaKey value).told _ hnews
  obtain ⟨l, hl, hears⟩ := htold.said n
  have hsession := hedited.session n
  obtain ⟨x, rest, rfl, hx, hopened, hrest⟩ :=
    hears.told (mem_matching.2 ⟨hactive, hdefinition⟩) (hsession ▸ htakes)
  refine ⟨x, rest, hl.trans (congrArg (· ++ x :: rest) (hedited.said n)), hx, hopened, ?_⟩
  exact fun hwired => hrest (hsession ▸ hwired)

/-- **The round trip of a schema text.** An adapter is started, and any run of turns follows. If the
schema preference now becomes the text of a mapping that it did not show before, then every
registered session of the definition that can be told settings is sent settings with this mapping
first, its entries in order, and they are written as the same text again. And the mapping of any
schema text is read again from what is written for it, so a normal form is its own normal form. -/
theorem schema_text_round_trip :
    (∀ (react : List γ → Act γ Unit) {k d st ws : Nat} {h : Host γ}, Prepared k d st ws h →
      ∀ (turns : List Turn) (m : SchemaMapping), (m.map Prod.fst).Nodup → m.IsWhole →
        let reached := run react d st ws turns (startAdapter k h).2
        let changed := setPreference react st schemaKey m.text reached
        (reached.store st).get schemaKey ≠ m.text → changed.1 = .ok () ∧
          ∀ n ∈ reached.active, (reached.session n).definition = some d →
            (reached.session n).takes "config" = true →
              ∃ x rest settings schemas, changed.2.said n = reached.said n ++ x :: rest ∧
                x.notice? = some (.configuration settings) ∧
                Settings.schemas? settings = some schemas ∧ schemas = m.toJson ∧
                Text.ofChars (Json.write schemas) = m.text ∧
                Opened false rest ∧ ((reached.session n).isWired = false → rest = [])) ∧
    (∀ u m, Schema.check u = .ok m → Schema.check m.text = .ok m) ∧
    ∀ u t, Schema.normalize u = .ok t → Schema.normalize t = .ok t := by
  refine ⟨?_, fun u m => Schema.check_text_of_check, fun u t => Schema.normalize_idem⟩
  intro react k d st ws h hprep turns m hkeys hm reached changed hnew
  refine ⟨setPreference_fst react st schemaKey m.text reached, ?_⟩
  intro n hactive hdefinition htakes
  have hlinked : Linked d st ws reached :=
    run_induction (P := Linked d st ws) react turns
      (fun h turn _ hlinked => hlinked.of_turn react turn) hprep.linked
  obtain ⟨x, rest, hsaid, hx, hopened, hrest⟩ :=
    said_setPreference react hlinked.toSubscribed hnew hactive hdefinition htakes
  have hshown : ((reached.store st).write schemaKey m.text).get schemaKey = m.text := by
    rw [PreferenceStore.get_write, if_pos rfl]
  rw [Settings.build_text hkeys hm hshown] at hx
  exact ⟨x, rest, _, m.toJson, hsaid, hx, Settings.schemas?_wrap m, rfl, rfl, hopened, hrest⟩

/-- Schemas whose texts need every kind of escape. -/
def escapedSchemas : SchemaMapping :=
  [(Text.ofChars ['"', '\\', '/', '\n', '\x00'], .many [[], Text.ofChars ['\x7f', Char.ofNat 0xE9]]),
    (Text.ofChars [Char.ofNat 0x1F600, Char.ofNat 0xFFFF], .one (Text.ofChars ['a']))]

/-- A schema text with a space and a repeated address. -/
def spacedSchemas : List Char :=
  ['\x7b', '"', 'a', '"', ':', '"', 'b', '"', ',', ' ', '"', 'a', '"', ':', '[', ']', '\x7d']

lemma isWhole_escapedSchemas : SchemaMapping.IsWhole escapedSchemas := by
  refine List.forall_mem_cons.2 ⟨⟨Text.isWhole_ofChars _, ?_⟩,
    List.forall_mem_singleton.2 ⟨Text.isWhole_ofChars _, Text.isWhole_ofChars _⟩⟩
  exact List.forall_mem_cons.2
    ⟨List.forall_mem_nil _, List.forall_mem_singleton.2 (Text.isWhole_ofChars _)⟩

/-- A server that joined is sent schemas that have to be escaped, and a stand-in as well. What is
written for a mapping that was read is read again. -/
theorem escaped_schemas_round_trip :
    let react : List Empty → Act Empty Unit := fun _ => pure ()
    let turns := [Turn.join 0 .plain, .change (.set schemaKey "x"), .join 1 .plain]
    let reached := run react 0 0 0 turns (startAdapter 0 Host.small).2
    let changed := setPreference react 0 schemaKey escapedSchemas.text reached
    (∀ n ∈ [0, 1], ∃ x rest settings, changed.2.said n = reached.said n ++ x :: rest ∧
      x.notice? = some (.configuration settings) ∧
      Settings.schemas? settings = some (SchemaMapping.toJson escapedSchemas)) ∧
    Schema.check (Text.ofChars spacedSchemas) = .ok [(Text.ofChars ['a'], .many [])] ∧
    Schema.check (SchemaMapping.text [(Text.ofChars ['a'], .many [])]) =
      .ok [(Text.ofChars ['a'], .many [])] := by
  intro react turns reached changed
  have htheorem := schema_text_round_trip (γ := Empty)
  have hchecked : Schema.check (Text.ofChars spacedSchemas) = .ok [(Text.ofChars ['a'], .many [])] :=
    rfl
  refine ⟨fun n hn => ?_, hchecked, htheorem.2.1 _ _ hchecked⟩
  obtain ⟨-, hsent⟩ := htheorem.1 react prepared_small turns escapedSchemas (by decide)
    isWhole_escapedSchemas (by decide +kernel)
  have hready : n ∈ reached.active ∧ (reached.session n).definition = some 0 ∧
      (reached.session n).takes "config" = true := by
    revert n
    decide +kernel
  obtain ⟨x, rest, settings, schemas, hsaid, hx, hschemas, rfl, -, -, -⟩ :=
    hsent n hready.1 hready.2.1 hready.2.2
  exact ⟨x, rest, settings, hsaid, hx, hschemas⟩

end Host

end LanguageHost
