import LanguageHost.Proofs.Values
import LanguageHost.Settings

/-!
# The settings block and the texts that it comes from

A preference that is not blank gives a block exactly when it is a schema text, and the block holds
the schemas that the text writes. Every other preference is an error, and the server is sent an
empty block for it.

The check of a member's value is the check that it is the JSON of some files, so the check of a
whole text says that the text has entries in the sense of the grammar. What is left is to merge
them.
-/

namespace LanguageHost

open Grammar

/-! ## Checked values -/

namespace Schema

lemma globOf_toJson (files : Glob) : globOf files.toJson = files := by
  cases files with
  | one pattern => rfl
  | many patterns =>
    have hpatterns : (patterns.map Json.str).filterMap Json.text? = patterns := by
      rw [List.filterMap_map]
      exact List.filterMap_some
    rw [Glob.toJson, globOf, hpatterns]

lemma elementComplaints_eq_nil {key : Text} {i : Nat} {xs : List Json} :
    elementComplaints key i (Json.mergedElements xs) = [] ↔ ∃ ts : List Text, xs = ts.map .str := by
  induction xs generalizing i with
  | nil => simp [Json.mergedElements, elementComplaints]
  | cons x xs ih =>
    rw [Json.mergedElements]
    cases x with
    | str t =>
      simp only [Json.merged, elementComplaints, ih]
      constructor
      · rintro ⟨ts, rfl⟩
        exact ⟨t :: ts, rfl⟩
      · rintro ⟨ts, hts⟩
        obtain ⟨_, ts, rfl, -, rfl⟩ := List.map_eq_cons_iff.1 hts.symm
        exact ⟨ts, rfl⟩
    | _ =>
      refine iff_of_false (by simp [Json.merged, elementComplaints]) ?_
      rintro ⟨ts, hts⟩
      obtain ⟨_, ts, rfl, ht, -⟩ := List.map_eq_cons_iff.1 hts.symm
      cases ht

/-- A member's value is faultless exactly when it is the JSON of some files. -/
lemma valueComplaints_eq_nil {key : Text} {x : Json} :
    valueComplaints key x.merged = [] ↔ ∃ files : Glob, x = files.toJson := by
  cases x with
  | str t => exact iff_of_true rfl ⟨.one t, rfl⟩
  | arr xs =>
    simp only [Json.merged, valueComplaints]
    constructor
    · intro h
      split at h
      · rename_i hnone
        obtain ⟨ts, rfl⟩ := elementComplaints_eq_nil.1 hnone
        exact ⟨.many ts, rfl⟩
      · cases h
    · rintro ⟨pattern | patterns, hfiles⟩ <;> cases hfiles
      rw [elementComplaints_eq_nil.2 ⟨patterns, rfl⟩]
  | _ =>
    refine iff_of_false (by simp [Json.merged, valueComplaints]) ?_
    rintro ⟨pattern | patterns, hfiles⟩ <;> cases hfiles

lemma complaints_eq_nil {members : List (Text × Json)} :
    (members.flatMap fun m => valueComplaints m.1 m.2.merged) = [] ↔
      ∃ entries : List (Text × Glob), Json.obj members = SchemaMapping.toJson entries := by
  induction members with
  | nil => exact iff_of_true rfl ⟨[], rfl⟩
  | cons m members ih =>
    obtain ⟨key, x⟩ := m
    rw [List.flatMap_cons, List.append_eq_nil_iff, valueComplaints_eq_nil, ih]
    constructor
    · rintro ⟨⟨files, rfl⟩, entries, hentries⟩
      cases hentries
      exact ⟨(key, files) :: entries, rfl⟩
    · rintro ⟨entries, hentries⟩
      rw [SchemaMapping.toJson, Json.obj.injEq] at hentries
      obtain ⟨⟨_, files⟩, entries, rfl, hentry, rfl⟩ := List.map_eq_cons_iff.1 hentries.symm
      cases hentry
      exact ⟨⟨files, rfl⟩, entries, rfl⟩

lemma map_globOf (entries : List (Text × Glob)) :
    ((entries.map fun entry => (entry.1, entry.2.toJson)).map fun m => (m.1, globOf m.2)) =
      entries := by
  rw [List.map_map]
  exact List.map_id'' (fun entry => by simp [globOf_toJson]) entries

/-- The members of an object make a mapping exactly when they are the JSON of entries. -/
lemma mappingOf_eq_ok {members : List (Text × Json)} {schemas : SchemaMapping} :
    mappingOf members = .ok schemas ↔ ∃ entries : List (Text × Glob),
      Json.obj members = SchemaMapping.toJson entries ∧ schemas = mergeMembers entries := by
  rw [mappingOf]
  constructor
  · intro h
    split at h
    · rename_i hnone
      obtain ⟨entries, hentries⟩ := complaints_eq_nil.1 hnone
      cases hentries
      rw [map_globOf] at h
      cases h
      exact ⟨entries, rfl, rfl⟩
    · cases h
  · rintro ⟨entries, hentries, rfl⟩
    rw [complaints_eq_nil.2 ⟨entries, hentries⟩]
    cases hentries
    rw [map_globOf]

/-- **Schema texts.** The check of a text finds the merged entries of a schema text, and finds
something wrong with every other text. -/
lemma readMapping_eq_ok {s : List Char} {schemas : SchemaMapping} :
    readMapping s = .ok schemas ↔
      ∃ entries, SchemaText s entries ∧ schemas = mergeMembers entries := by
  rw [readMapping]
  constructor
  · intro h
    split at h
    · cases h
    · rename_i members hread
      obtain ⟨entries, hentries, rfl⟩ := mappingOf_eq_ok.1 h
      rw [hentries] at hread
      exact ⟨entries, Json.Strict.read_iff.1 hread, rfl⟩
    · cases h
  · rintro ⟨entries, htext, rfl⟩
    rw [Json.Strict.read_iff.2 htext]
    exact mappingOf_eq_ok.2 ⟨entries, rfl, rfl⟩

end Schema

/-! ## Blank preferences -/

lemma Text.trimEnd_eq_nil {t : Text} : t.trimEnd = [] ↔ t.isBlank = true := by
  simp [trimEnd, isBlank, List.dropWhile_eq_nil_iff]

/-- A text is blank when nothing is left of it once it is trimmed. -/
lemma Text.trim_eq_nil {t : Text} : t.trim = [] ↔ t.isBlank = true := by
  rw [trim, trimEnd_eq_nil]
  induction t with
  | nil => rfl
  | cons c t ih =>
    cases hc : c.isBlank with
    | true => rw [List.dropWhile_cons_of_pos hc, ih, isBlank, isBlank, List.all_cons, hc,
        Bool.true_and]
    | false => rw [List.dropWhile_cons_of_neg (by simp [hc])]

/-- A schema text has an opening brace, so it is not blank. -/
lemma Text.isBlank_of_schemaText {s : List Char} {entries : List (Text × Glob)}
    (h : SchemaText s entries) : (ofChars s).isBlank = false := by
  obtain ⟨start, rest, ⟨blanks, -, hstart⟩, hobject, -⟩ := h
  have hbrace : '\x7b' ∈ s := by
    rw [hstart]
    cases hobject <;> simp
  refine Bool.eq_false_iff.2 fun hblank => ?_
  have hall := List.all_eq_true.1 hblank _ (List.mem_map_of_mem hbrace)
  revert hall
  decide

namespace Settings

/-! ## The block -/

/-- A schema text asks for the block of its entries, if it repeats no address. -/
lemma blockFor_schemaText {s : List Char} {entries : List (Text × Glob)}
    (hkeys : (entries.map Prod.fst).Nodup) (h : SchemaText s entries) :
    blockFor (Text.ofChars s) = .ok (blockOf entries) := by
  have hread : Schema.readMapping s = .ok entries :=
    Schema.readMapping_eq_ok.2 ⟨entries, h, (mergeMembers_of_nodup hkeys).symm⟩
  rw [blockFor, schemasOf, Text.isBlank_of_schemaText h, if_neg Bool.false_ne_true, Schema.check,
    Text.toChars?_ofChars]
  simp only [hread]
  rfl

lemma schemasOf_eq_ok {s : List Char} (hblank : (Text.ofChars s).trim ≠ [])
    {found : Option SchemaMapping} : schemasOf (Text.ofChars s) = .ok found ↔
      ∃ entries schemas, SchemaText s entries ∧ Merges entries schemas ∧ found = some schemas := by
  rw [schemasOf, if_neg (mt Text.trim_eq_nil.2 hblank), Schema.check, Text.toChars?_ofChars]
  simp only
  cases hread : Schema.readMapping s with
  | ok schemas =>
    obtain ⟨entries, htext, hmerged⟩ := Schema.readMapping_eq_ok.1 hread
    constructor
    · intro h
      cases h
      exact ⟨entries, schemas, htext, merges_iff.2 hmerged, rfl⟩
    · rintro ⟨others, merged, hothers, hmerges, rfl⟩
      have hsame := Schema.readMapping_eq_ok.2 ⟨others, hothers, merges_iff.1 hmerges⟩
      cases hread.symm.trans hsame
      rfl
  | error complaints =>
    refine iff_of_false (by rintro ⟨⟩) ?_
    rintro ⟨others, merged, hothers, hmerges, rfl⟩
    have hsame := Schema.readMapping_eq_ok.2 ⟨others, hothers, merges_iff.1 hmerges⟩
    cases hread.symm.trans hsame

/-- An error is about the schema preference. -/
lemma exists_schemaInvalid {preference : Text}
    (h : ∀ found, schemasOf preference ≠ .ok found) :
    ∃ reason, schemasOf preference = .error (.schemaInvalid schemaKey.display reason) := by
  rw [schemasOf] at h ⊢
  split
  · rename_i hblank
    rw [if_pos hblank] at h
    exact absurd rfl (h none)
  · rename_i hblank
    rw [if_neg hblank] at h
    split
    · rename_i schemas hcheck
      rw [hcheck] at h
      exact absurd rfl (h (some schemas))
    · exact ⟨_, rfl⟩

/-- **The settings block.** A preference that is blank gives an empty block. Any other one gives a
block exactly when it is a schema text, and then the block has the merged schemas of the text and
turns validation, completion and hover on. What is left is an error, and the settings have an empty
block for it. -/
theorem blockFor_exact (s : List Char) :
    ((Text.ofChars s).trim = [] → blockFor (Text.ofChars s) = .ok (Json.object [])) ∧
    ((Text.ofChars s).trim ≠ [] →
      (∀ block, blockFor (Text.ofChars s) = .ok block ↔
        ∃ entries schemas, SchemaText s entries ∧ Merges entries schemas ∧
          block = Json.object [("schemas", SchemaMapping.toJson schemas),
            ("validate", .bool true), ("completion", .bool true), ("hover", .bool true)]) ∧
      ((∀ entries, ¬ SchemaText s entries) →
        (∃ reason, blockFor (Text.ofChars s) =
          .error (.schemaInvalid schemaKey.display reason)) ∧
        ∀ store : PreferenceStore, store.get schemaKey = Text.ofChars s →
          (build store).1 = Json.object [("yaml", Json.object [])])) := by
  refine ⟨fun hblank => ?_, fun hblank => ⟨fun block => ?_, fun hnone => ?_⟩⟩
  · rw [blockFor, schemasOf, if_pos (Text.trim_eq_nil.1 hblank)]
  · rw [blockFor]
    constructor
    · intro h
      split at h
      · rename_i hfound
        obtain ⟨_, _, -, -, hnone⟩ := (schemasOf_eq_ok hblank).1 hfound
        cases hnone
      · rename_i schemas hfound
        obtain ⟨entries, merged, htext, hmerges, hsame⟩ := (schemasOf_eq_ok hblank).1 hfound
        cases hsame
        cases h
        exact ⟨entries, schemas, htext, hmerges, rfl⟩
      · cases h
    · rintro ⟨entries, schemas, htext, hmerges, rfl⟩
      rw [(schemasOf_eq_ok hblank).2 ⟨entries, schemas, htext, hmerges, rfl⟩]
      rfl
  · have herror : ∃ reason, blockFor (Text.ofChars s) =
        .error (.schemaInvalid schemaKey.display reason) := by
      have hinvalid : ∀ found, schemasOf (Text.ofChars s) ≠ .ok found := by
        intro found hfound
        obtain ⟨entries, -, htext, -, -⟩ := (schemasOf_eq_ok hblank).1 hfound
        exact hnone entries htext
      obtain ⟨reason, hreason⟩ := exists_schemaInvalid hinvalid
      exact ⟨reason, by rw [blockFor, hreason]⟩
    refine ⟨herror, fun store hstore => ?_⟩
    obtain ⟨reason, hreason⟩ := herror
    rw [build, hstore, hreason]
    rfl

/-- `{"a":[],"a":"b"}`, where both values of the repeated address are looked at and the last one is
kept. -/
theorem blockFor_repeated :
    blockFor (Text.ofChars
      ['\x7b', '"', 'a', '"', ':', '[', ']', ',', '"', 'a', '"', ':', '"', 'b', '"', '\x7d']) =
      .ok (Json.object [("schemas", Json.object [("a", "b")]), ("validate", .bool true),
        ("completion", .bool true), ("hover", .bool true)]) := by
  have htext : SchemaText
      ['\x7b', '"', 'a', '"', ':', '[', ']', ',', '"', 'a', '"', ':', '"', 'b', '"', '\x7d']
      [(Text.ofChars ['a'], .many []), (Text.ofChars ['a'], .one (Text.ofChars ['b']))] :=
    Json.Strict.read_iff.1 rfl
  refine (((blockFor_exact _).2 (by decide)).1 _).2
    ⟨_, [(Text.ofChars ['a'], .one (Text.ofChars ['b']))], htext, merges_iff.2 rfl, ?_⟩
  rfl

end Settings

end LanguageHost
