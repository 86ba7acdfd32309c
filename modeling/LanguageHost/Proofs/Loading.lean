import Mathlib
import LanguageHost.Proofs.Descent
import LanguageHost.Proofs.Saving

/-!
# What loading preferences comes to

Loading takes the members of the file's object over, or it fails and leaves the store, the listeners
and all else as they are, apart from a line in the journal. A failure is reported as a problem of the
configuration if the operating system refuses the file, if the grammar is broken or if the document
is no object. It is not if the file is no UTF-8, or if the reader of documents gives up on it: the
file is not `Legible` then.
-/

namespace LanguageHost

open Act

namespace Preferences

variable {path : Path} {bytes : List UInt8}

/-- The bytes are characters, and on its way through these the reader is not strained. -/
def Legible (bytes : List UInt8) : Prop :=
  ∃ characters, bytes = Utf8.encode (Text.ofChars characters) ∧
    ¬ Json.Loose.Strains (unifyLineEnds characters)

lemma legible_iff_of_decode {characters : List Char} (h : Utf8.decode bytes = .ok characters) :
    Legible bytes ↔ ¬ Json.Loose.Strains (unifyLineEnds characters) := by
  refine ⟨fun ⟨others, hbytes, hothers⟩ => ?_, fun hcalm => ⟨characters, ?_, hcalm⟩⟩
  · rw [← Utf8.decode_eq_ok_iff, h] at hbytes
    cases hbytes
    exact hothers
  · exact Utf8.decode_eq_ok_iff.1 h

lemma parse_problem {problem : Problem} (h : parse path bytes = .error (.problem problem)) :
    ∃ reason, problem = .preferencesUnreadable path.text reason := by
  unfold parse at h
  split at h
  · cases h
  dsimp only at h
  split at h
  all_goals cases h
  exact ⟨_, rfl⟩

/-- A file is legible exactly if whatever keeps its value from being read is a problem. -/
theorem legible_iff_parse (path : Path) (bytes : List UInt8) :
    Legible bytes ↔ ∀ fault, parse path bytes = .error fault →
      ∃ problem, fault = .problem problem := by
  unfold parse
  cases hdecode : Utf8.decode bytes with
  | error fault =>
    refine iff_of_false ?_ fun h => ?_
    · rintro ⟨characters, hbytes, -⟩
      rw [← Utf8.decode_eq_ok_iff, hdecode] at hbytes
      cases hbytes
    · obtain ⟨problem, hfault⟩ := h _ rfl
      cases hfault
  | ok characters =>
    rw [legible_iff_of_decode hdecode, Json.Loose.strains_iff_read]
    dsimp only
    cases hread : Json.Loose.read (unifyLineEnds characters) with
    | ok x => exact iff_of_true (by simp) (by simp)
    | error stop =>
      cases stop with
      | malformed fault rest =>
        refine iff_of_true ?_ fun fault hfault => ?_
        · rintro ⟨stop, hstop, hgivesUp⟩
          cases hstop
          exact Json.Loose.Stop.not_givesUp_malformed hgivesUp
        · cases hfault
          exact ⟨_, rfl⟩
      | longInteger digits =>
        refine iff_of_false (fun h => h ⟨_, rfl, .longInteger digits⟩) fun h => ?_
        obtain ⟨problem, hfault⟩ := h _ rfl
        cases hfault
      | tooDeep =>
        refine iff_of_false (fun h => h ⟨_, rfl, .tooDeep⟩) fun h => ?_
        obtain ⟨problem, hfault⟩ := h _ rfl
        cases hfault

end Preferences

namespace Host

variable {γ : Type} {st : Nat} {h : Host γ}

lemma loadPreferences_error {fault : Fault} {p : Platform}
    (hload : Preferences.load (h.store st).path h.platform = (.error fault, p)) :
    loadPreferences st h = (.error fault, { h with platform := p }) := by
  have honPlatform : onPlatform (Preferences.load (h.store st).path) h =
      (.error fault, { h with platform := p }) := by
    rw [onPlatform, hload]
  rw [loadPreferences, get_bind, bind_error honPlatform]

/-- **Loading is atomic, and what keeps a legible file from being loaded is a problem of the
configuration.** If something is at the path, the members of its object take the place of the
values, or, if it holds no object, loading fails and nothing changes but the journal, which gets one
line or none. Every failure is a problem of the configuration exactly if the file, as far as it can
be opened, is legible. -/
theorem load_settles (hexists : h.platform.files.pathExists (h.store st).path = .ok true) :
    let path := (h.store st).path
    let result := loadPreferences st h
    ((∃ bytes members, h.platform.files.readFile path = .ok bytes ∧
        Preferences.parse path bytes = .ok (.obj members) ∧
        result =
          (.ok (), h.setStore st { h.store st with values := Preferences.valuesOf members })) ∨
      ∃ fault p, result = (.error fault, { h with platform := p }) ∧
        (p = h.platform ∨ ∃ reason, p = Preferences.noted path reason h.platform) ∧
        ∀ bytes members, h.platform.files.readFile path = .ok bytes →
          Preferences.parse path bytes ≠ .ok (.obj members)) ∧
    ((∀ fault, result.1 = .error fault →
        ∃ problem, fault = .problem problem ∧ problem.kind.isA .config = true) ↔
      ∀ bytes, h.platform.files.readFile path = .ok bytes → Preferences.Legible bytes) := by
  intro path result
  have hloads := Preferences.loads path h.platform
  rcases hload : Preferences.load path h.platform with ⟨found, p⟩
  rw [hload] at hloads
  cases hloads with
  | unsure hunsure => cases hexists.symm.trans hunsure
  | absent habsent => cases hexists.symm.trans habsent
  | values _ hread hparse =>
    have hresult : result = _ := loadPreferences_some _ hload
    refine ⟨.inl ⟨_, _, hread, hparse, hresult⟩, iff_of_true ?_ ?_⟩
    · rw [hresult]
      rintro fault ⟨⟩
    · intro bytes hbytes
      cases hread.symm.trans hbytes
      rw [Preferences.legible_iff_parse path, hparse]
      rintro fault ⟨⟩
  | unreadable _ hread =>
    have hresult : result = _ := loadPreferences_error hload
    refine ⟨.inr ⟨_, _, hresult, .inr ⟨_, rfl⟩, fun bytes members hbytes => ?_⟩,
      iff_of_true ?_ fun bytes hbytes => ?_⟩
    · cases hread.symm.trans hbytes
    · rw [hresult]
      rintro fault ⟨⟩
      exact ⟨_, rfl, rfl⟩
    · cases hread.symm.trans hbytes
  | malformed _ hread hparse =>
    have hresult : result = _ := loadPreferences_error hload
    refine ⟨.inr ⟨_, _, hresult, .inr ⟨_, rfl⟩, fun bytes members hbytes hobject => ?_⟩,
      iff_of_true ?_ fun bytes hbytes => ?_⟩
    · cases hread.symm.trans hbytes
      cases hparse.symm.trans hobject
    · rw [hresult]
      rintro fault ⟨⟩
      exact ⟨_, rfl, rfl⟩
    · cases hread.symm.trans hbytes
      rw [Preferences.legible_iff_parse path, hparse]
      rintro fault ⟨⟩
      exact ⟨_, rfl⟩
  | stopped _ hread hparse hfault =>
    have hresult : result = _ := loadPreferences_error hload
    refine ⟨.inr ⟨_, _, hresult, .inl rfl, fun bytes members hbytes hobject => ?_⟩,
      iff_of_false (fun hconfig => ?_) fun hlegible => ?_⟩
    · cases hread.symm.trans hbytes
      cases hparse.symm.trans hobject
    · obtain ⟨problem, rfl, -⟩ := hconfig _ (congrArg Prod.fst hresult)
      obtain ⟨reason, rfl⟩ := Preferences.parse_problem hparse
      exact hfault _ _ rfl
    · obtain ⟨problem, rfl⟩ :=
        (Preferences.legible_iff_parse path _).1 (hlegible _ hread) _ hparse
      obtain ⟨reason, rfl⟩ := Preferences.parse_problem hparse
      exact hfault _ _ rfl
  | noObject _ hread hparse hx =>
    have hresult : result = _ := loadPreferences_error hload
    refine ⟨.inr ⟨_, _, hresult, .inl rfl, fun bytes members hbytes hobject => ?_⟩,
      iff_of_true ?_ fun bytes hbytes => ?_⟩
    · cases hread.symm.trans hbytes
      cases hparse.symm.trans hobject
      exact hx _ rfl
    · rw [hresult]
      rintro fault ⟨⟩
      exact ⟨_, rfl, rfl⟩
    · cases hread.symm.trans hbytes
      rw [Preferences.legible_iff_parse path, hparse]
      rintro fault ⟨⟩

/-- A host with one stored value, and with these bytes in the file of its store. -/
def filed (bytes : List UInt8) : Host Empty :=
  { Host.empty { mixedPlatform with
      files := ⟨.folder 0 [("p.json", .file 0)], [(0, ⟨bytes, 0o644, 0⟩)], 1, 0, [],
        ⟨.root, []⟩⟩ } mixedPath with
    stores := [{ PreferenceStore.empty mixedPath with values := [("a", "b")] }] }

lemma path_filed (bytes : List UInt8) : ((filed bytes).store 0).path = mixedPath :=
  rfl

lemma pathExists_filed (bytes : List UInt8) :
    (filed bytes).platform.files.pathExists ((filed bytes).store 0).path = .ok true := by
  rw [path_filed]
  rfl

lemma readFile_filed (bytes : List UInt8) :
    (filed bytes).platform.files.readFile ((filed bytes).store 0).path = .ok bytes := by
  rw [path_filed]
  rfl

/-- A document that breaks off. -/
def brokenFile : List UInt8 :=
  Utf8.encodeString "\x7b\"a\": [1, 2"

lemma legible_brokenFile : Preferences.Legible brokenFile := by
  have hbroken : Json.Loose.read "\x7b\"a\": [1, 2".toList =
      .error (.malformed .expectingComma []) := by cbv
  rw [brokenFile, Preferences.legible_iff_of_decode (Utf8.decode_encodeString _),
    Json.Loose.strains_iff_read]
  rintro ⟨stop, hstop, hgivesUp⟩
  cases hbroken.symm.trans hstop
  exact Json.Loose.Stop.not_givesUp_malformed hgivesUp

/-- Loading a document that breaks off fails with a problem of the configuration, and the stored
value stays. -/
theorem broken_file_is_reported :
    ∃ problem p, loadPreferences 0 (filed brokenFile) =
        (.error (.problem problem), { filed brokenFile with platform := p }) ∧
      problem.kind.isA .config = true := by
  have hread := readFile_filed brokenFile
  have hbroken : (Preferences.parse mixedPath brokenFile).isOk = false := by cbv
  obtain ⟨hsettled, hreported⟩ := load_settles (pathExists_filed brokenFile)
  rcases hsettled with ⟨bytes, members, hbytes, hparse, -⟩ | ⟨fault, p, hresult, -, -⟩
  · cases hread.symm.trans hbytes
    cases hbroken.symm.trans (congrArg Except.isOk hparse)
  · obtain ⟨problem, rfl, hconfig⟩ := hreported.2 (fun bytes hbytes => by
      cases hread.symm.trans hbytes
      exact legible_brokenFile) fault (congrArg Prod.fst hresult)
    exact ⟨problem, p, hresult, hconfig⟩

/-- A file with a byte that begins no character is not loaded either, and no problem is reported. -/
theorem undecodable_file_escapes :
    (filed [0xFF]).platform.files.pathExists ((filed [0xFF]).store 0).path = .ok true ∧
      loadPreferences 0 (filed [0xFF]) =
        (.error (.undecodable ⟨0, 0xFF, 1, .startByte⟩), filed [0xFF]) ∧
      ∀ problem, Fault.undecodable ⟨0, 0xFF, 1, .startByte⟩ ≠ .problem problem := by
  have hload : Preferences.load ((filed [0xFF]).store 0).path (filed [0xFF]).platform =
      (.error (.undecodable ⟨0, 0xFF, 1, .startByte⟩), (filed [0xFF]).platform) := rfl
  refine ⟨pathExists_filed [0xFF], loadPreferences_error hload, fun problem hfault => ?_⟩
  cases hfault

end Host

end LanguageHost
