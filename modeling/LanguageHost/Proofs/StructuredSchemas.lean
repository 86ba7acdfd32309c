import Mathlib
import LanguageHost.Proofs.Coherence
import LanguageHost.Proofs.Delivery
import LanguageHost.Proofs.PreferenceLog
import LanguageHost.Proofs.Saving
import LanguageHost.Proofs.Shapes

/-!
# Structured schema preferences

A preference file may hold the schemas as a JSON object of its own, and need not hold them as a
text. Loading keeps such a value as its compact form, so the settings are those of a schema text in
normal form; and since only a value in the shape of a mapping is written as a schema text, every
other value but a string is a problem.
-/

namespace LanguageHost

open Act Grammar

/-! ## Values in the shape of a mapping -/

lemma Glob.isWhole_of_toJson {files : Glob} (h : files.toJson.IsWhole) : files.IsWhole := by
  cases files with
  | one pattern =>
    cases h with
    | atom hatom => cases hatom
    | str hpattern => exact hpattern
  | many patterns =>
    cases h with
    | atom hatom => cases hatom
    | arr hpatterns =>
      intro pattern hpattern
      cases hpatterns _ (List.mem_map_of_mem hpattern) with
      | atom hatom => cases hatom
      | str hwhole => exact hwhole

namespace SchemaMapping

variable {m : SchemaMapping}

lemma isWhole_of_toJson (h : m.toJson.IsWhole) : m.IsWhole := by
  cases h with
  | atom hatom => cases hatom
  | obj hkeys hvalues =>
    intro entry hentry
    have hmem := List.mem_map_of_mem (f := fun entry : Text × Glob => (entry.1, entry.2.toJson)) hentry
    exact ⟨hkeys _ hmem, Glob.isWhole_of_toJson (hvalues _ hmem)⟩

lemma nodup_of_formed (h : Json.Loose.Formed m.toJson) : (m.map Prod.fst).Nodup := by
  cases h with
  | atom hatom => cases hatom
  | obj hnodup _ _ =>
    rw [List.map_map] at hnodup
    exact hnodup

end SchemaMapping

namespace Preferences

/-- A preference is kept under its key as what its value is kept as. -/
lemma findMember?_valuesOf (key : Text) (members : List (Text × Json)) :
    findMember? key (valuesOf members) = (findMember? key members).map valueText := by
  induction members with
  | nil => rfl
  | cons m members ih =>
    rw [valuesOf, List.map_cons, findMember?_cons, findMember?_cons, ← valuesOf, ih]
    split <;> rfl

/-- The members of an object that was read are made up as the object is. -/
lemma formed_of_findMember? {path : Path} {bytes : List UInt8} {members : List (Text × Json)}
    {key : Text} {v : Json} (hparse : parse path bytes = .ok (.obj members))
    (hv : findMember? key members = some v) : Json.Loose.Formed v := by
  cases formed_of_parse hparse with
  | atom hatom => cases hatom
  | obj _ _ hvalues => exact hvalues _ (mem_of_findMember? hv)

lemma valueText_of_not_str {v : Json} (hv : ∀ t, v ≠ .str t) :
    valueText v = Text.ofChars (Json.write v) := by
  cases v with
  | str t => exact absurd rfl (hv t)
  | _ => rfl

end Preferences

namespace Settings

/-! ## Settings of written values -/

/-- The text of a value is not blank, whatever the value is. -/
lemma isBlank_write (v : Json) : (Text.ofChars (Json.write v)).isBlank = false := by
  obtain ⟨c, more, hwritten, hbegins⟩ := Json.begins_write v
  have hc : Json.IsInk c := by
    cases hbegins with
    | atom hc _ => exact hc.isInk
    | _ => decide
  rw [hwritten, Text.ofChars, List.map_cons, Text.isBlank, List.all_cons, hc.isBlank_eq, Bool.false_and]

/-- A value that does not have the shape of a mapping asks for no block. -/
lemma blockFor_shapeless {v : Json} (hwhole : v.IsWhole) (hv : ∀ m, v ≠ SchemaMapping.toJson m) :
    ∃ reason, blockFor (Text.ofChars (Json.write v)) =
      .error (.schemaInvalid schemaKey.display reason) := by
  have hinvalid : ∀ found, schemasOf (Text.ofChars (Json.write v)) ≠ .ok found := by
    intro found hfound
    have hblank : (Text.ofChars (Json.write v)).trim ≠ [] := fun htrim => by
      have hsome := Text.trim_eq_nil.1 htrim
      rw [isBlank_write] at hsome
      cases hsome
    obtain ⟨entries, -, htext, -, -⟩ := (schemasOf_eq_ok hblank).1 hfound
    exact hv entries (Json.eq_of_schemaText_write hwhole htext)
  obtain ⟨reason, hreason⟩ := exists_schemaInvalid hinvalid
  exact ⟨reason, by rw [blockFor, hreason]⟩

variable {store : PreferenceStore}

lemma buildNoted_of_block {preference : Text} {block : Json}
    (hstore : store.get schemaKey = preference) (hblock : blockFor preference = .ok block)
    (p : Platform) : buildNoted store p = (wrap block, p) := by
  rw [buildNoted, build, hstore, hblock]

/-- The tags of the line about a problem of the settings. -/
def problemTags : Tags :=
  [("preference", .str schemaKey)]

lemma buildNoted_of_problem {preference : Text} {problem : Problem}
    (hstore : store.get schemaKey = preference) (hproblem : blockFor preference = .error problem)
    (p : Platform) : buildNoted store p =
      (wrap (Json.object []), p.log "yaml.settings" .error problem.message problemTags) := by
  rw [buildNoted, build, hstore, hproblem]
  rfl

/-- Settings and what is noted depend on one preference only. -/
lemma buildNoted_congr {other : PreferenceStore} (hsame : store.get schemaKey = other.get schemaKey)
    (p : Platform) : buildNoted store p = buildNoted other p := by
  rw [buildNoted, buildNoted, build_congr hsame]

end Settings

namespace Host

variable {γ : Type}

/-- A preference that is set is shown, if no listener meddles with the stores. -/
lemma setPreference_shows {react : List γ → Act γ Unit} {st : Nat} {h : Host γ}
    (hst : st < h.stores.length) (hh : h.Unmeddled react st) (key value : Text) :
    (setPreference react st key value h).1 = .ok () ∧
      ((setPreference react st key value h).2.store st).get key = value := by
  have hstore := PreferenceCall.store_perform_unmeddled hst hh (.set key value)
  refine ⟨congrArg Prod.fst (PreferenceCall.perform_eq react st h (.set key value)), ?_⟩
  change ((setPreference react st key value h).2.store st) = _ at hstore
  rw [hstore, PreferenceStore.get_write]
  exact if_pos rfl

/-- **Structured and textual schema preferences agree.** A file is loaded whose schema preference is
any JSON value without lone surrogates. If all members of the value are strings or arrays of strings,
then the settings hold this value as their schemas, and so they do after any store was set to a text
that writes the same members, in whatever order, and repeats none of them. If the value is a string,
then the settings are those of a store that was set to the string. For any other value they are
empty, and the journal has one more line, an error. -/
theorem structured_schemas_agree (react : List γ → Act γ Unit) {st : Nat} {h : Host γ}
    {bytes : List UInt8} {members : List (Text × Json)} {v : Json} (hst : st < h.stores.length)
    (hexists : h.platform.files.pathExists (h.store st).path = .ok true)
    (hread : h.platform.files.readFile (h.store st).path = .ok bytes)
    (hparse : Preferences.parse (h.store st).path bytes = .ok (.obj members))
    (hv : findMember? schemaKey members = some v) (hwhole : v.IsWhole) :
    ∃ loaded, loadPreferences st h = (.ok (), loaded) ∧
      (∀ m, v = SchemaMapping.toJson m →
        (∀ p, Settings.buildNoted (loaded.store st) p =
          (Json.object [("yaml", Json.object [("schemas", v), ("validate", .bool true),
            ("completion", .bool true), ("hover", .bool true)])], p)) ∧
        ∀ s entries, SchemaText s entries → entries.Perm m →
          ∀ (n : Nat) (g : Host γ), n < g.stores.length → g.Unmeddled react n →
            let set := setPreference react n schemaKey (Text.ofChars s) g
            set.1 = .ok () ∧ ∀ p, Settings.buildNoted (set.2.store n) p =
              (Json.object [("yaml", Json.object [("schemas", SchemaMapping.toJson entries),
                ("validate", .bool true), ("completion", .bool true), ("hover", .bool true)])],
                p)) ∧
      (∀ t, v = .str t → ∀ (n : Nat) (g : Host γ), n < g.stores.length → g.Unmeddled react n →
        let set := setPreference react n schemaKey t g
        set.1 = .ok () ∧ ∀ p,
          Settings.buildNoted (loaded.store st) p = Settings.buildNoted (set.2.store n) p) ∧
      ((∀ m, v ≠ SchemaMapping.toJson m) → (∀ t, v ≠ .str t) →
        ∃ reason, ∀ p, let noted := Settings.buildNoted (loaded.store st) p
          let problem := Problem.schemaInvalid schemaKey.display reason
          noted.1 = Json.object [("yaml", Json.object [])] ∧
          noted.2 = p.log "yaml.settings" .error problem.message Settings.problemTags ∧
          ∃ logger : Logger, noted.2.journal.lines = p.journal.lines ++
            [logger.line p.clock .error (.str problem.message) Settings.problemTags]) := by
  have hload : Preferences.load (h.store st).path h.platform =
      (.ok (some (Preferences.valuesOf members)), h.platform) :=
    Preferences.load_eq_ok.2 ⟨rfl, .inr ⟨hexists, bytes, members, hread, hparse, rfl⟩⟩
  have hshown : ((h.setStore st { h.store st with
      values := Preferences.valuesOf members }).store st).get schemaKey =
        Preferences.valueText v := by
    rw [store_setStore, if_pos ⟨rfl, hst⟩, PreferenceStore.get, Preferences.findMember?_valuesOf, hv]
    rfl
  refine ⟨_, loadPreferences_some (Preferences.valuesOf members) hload, fun m hm => ⟨fun p => ?_, ?_⟩,
    fun t ht n g hn hg => ?_, fun hshape hstr => ?_⟩
  · have hkeys : (m.map Prod.fst).Nodup :=
      SchemaMapping.nodup_of_formed (hm ▸ Preferences.formed_of_findMember? hparse hv)
    have hblock := Settings.blockFor_schemaText hkeys
      (Json.schemaText_write (SchemaMapping.isWhole_of_toJson (hm ▸ hwhole)))
    rw [hm]
    exact Settings.buildNoted_of_block (hshown.trans (by rw [hm]; rfl)) hblock p
  · intro s entries htext hperm n g hn hg
    obtain ⟨hok, hset⟩ := setPreference_shows hn hg schemaKey (Text.ofChars s)
    have hkeys : (entries.map Prod.fst).Nodup := ((hperm.map Prod.fst).nodup_iff).2
      (SchemaMapping.nodup_of_formed (hm ▸ Preferences.formed_of_findMember? hparse hv))
    exact ⟨hok, fun p =>
      Settings.buildNoted_of_block hset (Settings.blockFor_schemaText hkeys htext) p⟩
  · obtain ⟨hok, hset⟩ := setPreference_shows hn hg schemaKey t
    refine ⟨hok, fun p => Settings.buildNoted_congr ?_ p⟩
    rw [hshown, hset, ht]
    rfl
  · obtain ⟨reason, hreason⟩ := Settings.blockFor_shapeless hwhole hshape
    refine ⟨reason, fun p => ?_⟩
    rw [Settings.buildNoted_of_problem (hshown.trans (Preferences.valueText_of_not_str hstr))
      hreason p]
    exact ⟨rfl, rfl, (Platform.log_error "yaml.settings" _ Settings.problemTags p).2⟩

/-- A file whose schema preference is an object, with an escaped letter. -/
def structuredFile : List UInt8 :=
  Utf8.encodeString
    "\x7b\"yaml.schema\": \x7b\"u\": [\"a\", \"\\u00e9\"], \"t\": \"b\"\x7d, \"n\": 5\x7d"

/-- The schemas in the file. -/
def structuredSchemas : SchemaMapping :=
  [("u", .many ["a", Text.ofChars [Char.ofNat 0xE9]]), ("t", .one "b")]

/-- The same schemas as a text, in another order and with blanks. -/
def structuredText : List Char :=
  "\x7b \"t\":\"b\",\"u\":[\"a\" , \"\\u00E9\"] \x7d".toList

/-- The host that has the file and no preferences yet. -/
def structured : Host Empty :=
  { Host.empty { mixedPlatform with
      files := ⟨.folder 0 [("p.json", .file 0)], [(0, ⟨structuredFile, 0o644, 0⟩)], 1, 0, [],
        ⟨.root, []⟩⟩ } mixedPath with
    stores := [.withYamlDefaults (.empty mixedPath)] }

lemma isWhole_structuredSchemas : (SchemaMapping.toJson structuredSchemas).IsWhole := by
  have hwhole : ∀ s : String, Text.IsWhole s := fun s => Text.isWhole_ofChars _
  refine .obj (List.forall_mem_cons.2 ⟨hwhole _, List.forall_mem_singleton.2 (hwhole _)⟩)
    (List.forall_mem_cons.2 ⟨.arr (List.forall_mem_cons.2 ⟨.str (hwhole _), ?_⟩),
      List.forall_mem_singleton.2 (.str (hwhole _))⟩)
  exact List.forall_mem_singleton.2 (.str (Text.isWhole_ofChars _))

lemma schemaText_structuredText :
    SchemaText structuredText [("t", .one "b"), ("u", .many ["a", Text.ofChars [Char.ofNat 0xE9]])] :=
  Json.Strict.read_iff.1 (by cbv)

/-- Schemas that a file holds as an object give the settings of a text with the same schemas. -/
theorem structured_file_agrees :
    let react : List Empty → Act Empty Unit := fun _ => pure ()
    ∃ loaded, loadPreferences 0 structured = (.ok (), loaded) ∧
      (Settings.buildNoted (loaded.store 0) loaded.platform).1 =
        Settings.wrap (Settings.blockOf structuredSchemas) ∧
      (Settings.buildNoted ((setPreference react 0 schemaKey (Text.ofChars structuredText)
        structured).2.store 0) loaded.platform).1 =
        Settings.wrap (Settings.blockOf structuredSchemas.reverse) := by
  intro react
  have hparse : Preferences.parse mixedPath structuredFile = .ok
      (.obj [(schemaKey, SchemaMapping.toJson structuredSchemas), ("n", .int 5)]) := by cbv
  have hst : 0 < structured.stores.length := by decide
  obtain ⟨loaded, hload, hshaped, -⟩ :=
    structured_schemas_agree react hst rfl rfl hparse rfl isWhole_structuredSchemas
  obtain ⟨hbuilt, htexts⟩ := hshaped structuredSchemas rfl
  obtain ⟨-, hset⟩ := htexts _ _ schemaText_structuredText (List.reverse_perm structuredSchemas) 0
    structured (by decide) fun n hn => by cases hn
  exact ⟨loaded, hload, congrArg Prod.fst (hbuilt _), congrArg Prod.fst (hset _)⟩

end Host

end LanguageHost
