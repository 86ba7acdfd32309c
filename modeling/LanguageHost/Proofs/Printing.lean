import LanguageHost.Proofs.Block
import LanguageHost.Proofs.Characters

/-!
# Written schema mappings

The compact form of a schema mapping is a schema text, and its entries are those of the mapping in
order. The writer escapes more than it has to, so each code point is looked at by the way in which
it is written: as itself, behind a backslash, or as one or two code units.

The grammar only has texts without surrogates, and every text that it has is one, so reading and
writing lead back and forth between schema texts and mappings without repeated addresses.
-/

namespace LanguageHost

open Grammar

/-- No surrogate is in the text. -/
def Text.IsWhole (t : Text) : Prop :=
  ∀ c ∈ t, c.isSurrogate = false

lemma Text.isWhole_cons {c : CodePoint} {t : Text} :
    IsWhole (c :: t) ↔ c.isSurrogate = false ∧ IsWhole t :=
  List.forall_mem_cons

/-- Characters are no surrogates. -/
@[simp] lemma Text.isWhole_ofChars (cs : List Char) : IsWhole (ofChars cs) :=
  List.forall_mem_map.2 fun ch _ => CodePoint.isSurrogate_ofChar ch

/-- No surrogate is in the patterns. -/
def Glob.IsWhole : Glob → Prop
  | one pattern => pattern.IsWhole
  | many patterns => ∀ pattern ∈ patterns, pattern.IsWhole

/-- No surrogate is in the addresses and patterns. -/
def SchemaMapping.IsWhole (m : SchemaMapping) : Prop :=
  ∀ entry ∈ m, entry.1.IsWhole ∧ entry.2.IsWhole

namespace Json

variable {s rest : List Char} {t : Text}

/-! ## Code points -/

lemma hexDigit_spec {n : Nat} (h : n < 16) : HexDigit (hexDigit n) n := by
  have hall : ∀ n < 16, "0123456789abcdef".toList[n]? = some (hexDigit n) := by decide
  exact Or.inl (hall n h)

/-- The digits of a code unit write the code unit. -/
lemma codeUnit_hexDigits {unit : CodePoint} (h : unit.val < 0x10000) (rest : List Char) :
    CodeUnit (hexDigits 4 unit.val ++ rest) unit rest := by
  refine .digits (hexDigit_spec (Nat.mod_lt (unit.val / 16 / 16 / 16) (by decide)))
    (hexDigit_spec (Nat.mod_lt (unit.val / 16 / 16) (by decide)))
    (hexDigit_spec (Nat.mod_lt (unit.val / 16) (by decide)))
    (hexDigit_spec (Nat.mod_lt unit.val (by decide))) ?_
  omega

/-- **Code points.** What is written for a code point that is no surrogate stands for it. -/
lemma Spelling.inside {c : CodePoint} {spelled : List Char} (hspelled : Spelling c spelled)
    (hc : c.isSurrogate = false) (h : Inside s t rest) : Inside (spelled ++ s) (c :: t) rest := by
  cases hspelled with
  | letter letter ch hletter hch =>
    have hall : ∀ entry ∈ letters, entry ∈ escapes := by decide
    subst hch
    exact .escape (hall _ hletter) h
  | raw ch hch hprintable hquote hslash =>
    subst hch
    exact .raw hprintable.1 hquote hslash h
  | unit hunit => exact .unit (codeUnit_hexDigits hunit s) hc h
  | pair high low hhalves =>
    obtain ⟨hhigh, hlow⟩ := hhalves.lt
    have hpair : Inside ('\\' :: 'u' :: (hexDigits 4 high.val ++
        '\\' :: 'u' :: (hexDigits 4 low.val ++ s))) (c :: t) rest :=
      .pair (codeUnit_hexDigits hhigh _) hhalves.isHigh (codeUnit_hexDigits hlow s) hhalves.isLow
        hhalves.val_eq h
    simpa only [unitEscape, List.cons_append, List.append_assoc] using hpair

lemma inside_flatMap (ht : t.IsWhole) (rest : List Char) :
    Inside (t.flatMap writePoint ++ '"' :: rest) t rest := by
  induction t with
  | nil => exact .close rest
  | cons c t ih =>
    obtain ⟨hc, ht⟩ := Text.isWhole_cons.1 ht
    rw [List.flatMap_cons, List.append_assoc]
    exact (spelling_writePoint c).inside hc (ih ht)

/-- **Strings.** What is written for a text without surrogates is a quoted string for it. -/
lemma quoted_writeText (ht : t.IsWhole) (rest : List Char) : Quoted (writeText t ++ rest) t rest := by
  have hinside := inside_flatMap ht rest
  rw [writeText, List.append_assoc]
  exact .quote hinside

/-! ## Containers -/

section

variable {α : Type} {item : List Char → α → List Char → Prop} {f : α → Json}

lemma items_writeElements {xs : List α} (hnonempty : xs ≠ [])
    (hitem : ∀ x ∈ xs, ∀ rest, item (write (f x) ++ rest) x rest) (rest : List Char) :
    Items item ']' (writeElements (xs.map f) ++ rest) xs rest := by
  induction xs with
  | nil => exact absurd rfl hnonempty
  | cons x xs ih =>
    obtain ⟨hx, hxs⟩ := List.forall_mem_cons.1 hitem
    cases xs with
    | nil =>
      rw [List.map_singleton, writeElements, List.append_assoc]
      exact .last (.refl _) (hx _) (.refl _)
    | cons y xs =>
      rw [List.map_cons, List.map_cons, writeElements, List.append_assoc]
      refine .comma (.refl _) (hx _) (.refl _) (.gap ?_ (ih (by simp) hxs))
      exact ⟨[' '], by simp, rfl⟩

lemma items_writeMembers {ms : List (Text × α)} (hnonempty : ms ≠ [])
    (hkey : ∀ m ∈ ms, m.1.IsWhole)
    (hitem : ∀ m ∈ ms, ∀ rest, item (write (f m.2) ++ rest) m.2 rest) (rest : List Char) :
    Items (Member item) '\x7d' (writeMembers (ms.map fun m => (m.1, f m.2)) ++ rest) ms rest := by
  have hmember : ∀ m : Text × α, m.1.IsWhole →
      (∀ rest, item (write (f m.2) ++ rest) m.2 rest) → ∀ rest,
        Member item (writeText m.1 ++ ':' :: ' ' :: (write (f m.2) ++ rest)) m rest :=
    fun m hkey hitem rest =>
      .colon (quoted_writeText hkey _) (.refl _) ⟨[' '], by simp, rfl⟩ (hitem rest)
  induction ms with
  | nil => exact absurd rfl hnonempty
  | cons m ms ih =>
    obtain ⟨hm, hms⟩ := List.forall_mem_cons.1 hitem
    obtain ⟨hk, hks⟩ := List.forall_mem_cons.1 hkey
    cases ms with
    | nil =>
      rw [List.map_singleton, writeMembers]
      simp only [List.append_assoc, List.cons_append]
      exact .last (.refl _) (hmember m hk hm _) (.refl _)
    | cons m' ms =>
      rw [List.map_cons, List.map_cons, writeMembers]
      simp only [List.append_assoc, List.cons_append]
      refine .comma (.refl _) (hmember m hk hm _) (.refl _) (.gap ?_ (ih (by simp) hks hms))
      exact ⟨[' '], by simp, rfl⟩

end

/-! ## Schema texts -/

lemma files_write {files : Glob} (hfiles : files.IsWhole) (rest : List Char) :
    Files (write files.toJson ++ rest) files rest := by
  cases files with
  | one pattern => exact .one (quoted_writeText hfiles rest)
  | many patterns =>
    refine .many ?_
    cases patterns with
    | nil => exact .empty (.refl _)
    | cons pattern patterns =>
      exact .items (items_writeElements (by simp)
        (fun pattern hpattern rest => quoted_writeText (hfiles pattern hpattern) rest) rest)

/-- **Schema texts.** The compact form of a mapping is a schema text with the same entries. -/
lemma schemaText_write {m : SchemaMapping} (hm : m.IsWhole) : SchemaText (write m.toJson) m := by
  refine ⟨write m.toJson, [], .refl _, ?_, .refl _⟩
  cases m with
  | nil => exact .empty (.refl _)
  | cons entry m =>
    have hitems := items_writeMembers (f := Glob.toJson) (List.cons_ne_nil entry m)
      (fun entry hentry => (hm entry hentry).1)
      (fun entry hentry rest => files_write (hm entry hentry).2 rest) []
    rw [List.append_nil] at hitems
    exact .items hitems

end Json

/-! ## What schema texts hold -/

namespace Grammar

variable {α : Type} {item : List Char → α → List Char → Prop} {s rest : List Char} {t : Text}

lemma isSurrogate_of_pair {high low c : CodePoint}
    (hc : c.val = 0x10000 + (high.val - 0xD800) * 0x400 + (low.val - 0xDC00)) :
    c.isSurrogate = false := by
  simp only [CodePoint.isSurrogate, Bool.and_eq_false_iff, decide_eq_false_iff_not]
  omega

/-- A string of the grammar holds no surrogate. -/
lemma Inside.isWhole (h : Inside s t rest) : t.IsWhole := by
  induction h with
  | close rest => exact List.forall_mem_nil _
  | raw _ _ _ _ ih | escape _ _ ih =>
    exact Text.isWhole_cons.2 ⟨CodePoint.isSurrogate_ofChar _, ih⟩
  | unit _ hwhole _ ih => exact Text.isWhole_cons.2 ⟨hwhole, ih⟩
  | pair _ _ _ _ hc _ ih => exact Text.isWhole_cons.2 ⟨isSurrogate_of_pair hc, ih⟩

lemma Quoted.isWhole (h : Quoted s t rest) : t.IsWhole := by
  obtain ⟨h⟩ := h
  exact h.isWhole

lemma Items.forall_mem {P : α → Prop} {closing : Char} {xs : List α}
    (hitem : ∀ {s x rest}, item s x rest → P x) (h : Items item closing s xs rest) :
    ∀ x ∈ xs, P x := by
  induction h with
  | last _ hx _ => exact List.forall_mem_singleton.2 (hitem hx)
  | comma _ hx _ _ ih => exact List.forall_mem_cons.2 ⟨hitem hx, ih⟩

lemma Enclosed.forall_mem {P : α → Prop} {opening closing : Char} {xs : List α}
    (hitem : ∀ {s x rest}, item s x rest → P x) (h : Enclosed item opening closing s xs rest) :
    ∀ x ∈ xs, P x := by
  cases h with
  | empty h => exact List.forall_mem_nil _
  | items h => exact h.forall_mem hitem

lemma Files.isWhole {files : Glob} (h : Files s files rest) : files.IsWhole := by
  cases h with
  | one h => exact h.isWhole
  | many h => exact h.forall_mem Quoted.isWhole

lemma SchemaText.isWhole {entries : List (Text × Glob)} (h : SchemaText s entries) :
    SchemaMapping.IsWhole entries := by
  obtain ⟨start, rest, -, henclosed, -⟩ := h
  refine henclosed.forall_mem ?_
  rintro start ⟨key, files⟩ rest ⟨hkey, -, -, hfiles⟩
  exact ⟨hkey.isWhole, hfiles.isWhole⟩

end Grammar

/-! ## Reading back -/

namespace SchemaMapping

/-- The compact form of a mapping as a text. -/
def text (m : SchemaMapping) : Text :=
  Text.ofChars (Json.write m.toJson)

end SchemaMapping

namespace Schema

/-- **A mapping is read back.** The compact form of a mapping without repeated addresses and without
surrogates is a text that makes the same mapping. -/
theorem check_text {m : SchemaMapping} (hkeys : (m.map Prod.fst).Nodup) (hm : m.IsWhole) :
    check m.text = .ok m := by
  have hread : readMapping (Json.write m.toJson) = .ok m :=
    readMapping_eq_ok.2 ⟨m, Json.schemaText_write hm, (mergeMembers_of_nodup hkeys).symm⟩
  rw [check, SchemaMapping.text, Text.toChars?_ofChars]
  simp only [hread]
  rfl

/-- The mapping of a text has no repeated addresses and no surrogates. -/
theorem check_eq_ok {u : Text} {m : SchemaMapping} (h : check u = .ok m) :
    (m.map Prod.fst).Nodup ∧ m.IsWhole := by
  rw [check] at h
  split at h
  · cases h
  · rename_i s hchars
    cases hread : readMapping s with
    | error complaints =>
      rw [hread] at h
      cases h
    | ok merged =>
      rw [hread] at h
      cases h
      obtain ⟨entries, htext, rfl⟩ := readMapping_eq_ok.1 hread
      exact ⟨nodup_keys_mergeMembers entries,
        fun entry hentry => htext.isWhole entry (mem_mergeMembers hentry)⟩

end Schema

end LanguageHost
