import LanguageHost.Proofs.Printing

/-!
# Which values are written as schema texts

The compact form of a value is a schema text only if the value has the shape of a schema mapping.
What a value is written as begins with a character that tells its kind, and behind each string and
container the rest is known, so a production of the grammar can only have read what was written.

Strings with lone surrogates are left out: the escapes of two of them may join.
-/

namespace LanguageHost

open Grammar
open Json.Loose (isSpace)
open Json.Strict (isAtom)

/-- No surrogate is in the strings and keys of a value. -/
inductive Json.IsWhole : Json → Prop
  | atom {x : Json} (h : isAtom x = true) : IsWhole x
  | str {t : Text} (h : t.IsWhole) : IsWhole (.str t)
  | arr {xs : List Json} (h : ∀ x ∈ xs, IsWhole x) : IsWhole (.arr xs)
  | obj {ms : List (Text × Json)} (hkeys : ∀ m ∈ ms, m.1.IsWhole) (h : ∀ m ∈ ms, IsWhole m.2) :
    IsWhole (.obj ms)

namespace Grammar

variable {s rest : List Char} {t : Text} {c : Char}

/-! ## Where a production begins and ends -/

/-- Behind the same blanks stands the same. -/
lemma Gap.unique {c' : Char} {rest' : List Char} (h : Gap s (c :: rest)) (h' : Gap s (c' :: rest'))
    (hc : isSpace c = false) (hc' : isSpace c' = false) : c :: rest = c' :: rest' :=
  (Json.Strict.skipSpace_cons h hc).symm.trans (Json.Strict.skipSpace_cons h' hc')

lemma Quoted.unique {t' : Text} {rest' : List Char} (h : Quoted s t rest)
    (h' : Quoted s t' rest') : t = t' ∧ rest = rest' := by
  obtain ⟨h⟩ := h
  obtain ⟨h'⟩ := h'
  have hsame := (Json.Strict.readString_iff.2 h).symm.trans (Json.Strict.readString_iff.2 h')
  cases hsame
  exact ⟨rfl, rfl⟩

lemma Quoted.head (h : Quoted s t rest) : ∃ more, s = '"' :: more := by
  obtain ⟨h⟩ := h
  exact ⟨_, rfl⟩

lemma Member.head {α : Type} {item : List Char → α → List Char → Prop} {m : Text × α}
    (h : Member item s m rest) : ∃ more, s = '"' :: more := by
  obtain ⟨hkey, -, -, -⟩ := h
  exact hkey.head

/-- Items begin where the first of them does. -/
lemma Items.head {α : Type} {item : List Char → α → List Char → Prop} {closing : Char}
    {xs : List α} (hitem : ∀ {s x rest}, item s x rest → ∃ more, s = '"' :: more)
    (h : Items item closing s xs rest) : ∃ more, Gap s ('"' :: more) := by
  cases h with
  | last hbefore hx hafter | comma hbefore hx hafter h =>
    obtain ⟨more, rfl⟩ := hitem hx
    exact ⟨more, hbefore⟩

end Grammar

namespace Json

variable {x : Json} {s tail rest : List Char} {c : Char}

/-! ## How values begin -/

/-- The character that the text of a value begins with tells strings, arrays and objects from the
other values. -/
inductive Begins : Char → Json → Prop
  | atom {c : Char} {x : Json} (hc : IsMark c) (hx : isAtom x = true) : Begins c x
  | str (t : Text) : Begins '"' (.str t)
  | arr (xs : List Json) : Begins '[' (.arr xs)
  | obj (ms : List (Text × Json)) : Begins '\x7b' (.obj ms)

lemma IsNumeral.begins (hs : IsNumeral s) (hx : isAtom x = true) :
    ∃ c more, s = c :: more ∧ Begins c x := by
  obtain ⟨hnonempty, hmarks⟩ := hs
  obtain ⟨c, more, rfl⟩ := List.exists_cons_of_ne_nil hnonempty
  exact ⟨c, more, rfl, .atom (hmarks c List.mem_cons_self) hx⟩

lemma begins_write (x : Json) : ∃ c more, write x = c :: more ∧ Begins c x := by
  cases x with
  | null => exact IsNumeral.begins (s := "null".toList) (by decide) rfl
  | bool value =>
    cases value with
    | true => exact IsNumeral.begins (s := "true".toList) (by decide) rfl
    | false => exact IsNumeral.begins (s := "false".toList) (by decide) rfl
  | int n => exact (isNumeral_toString n).begins rfl
  | float y => exact (isNumeral_text y).begins rfl
  | str t => exact ⟨'"', _, rfl, .str t⟩
  | arr xs => exact ⟨'[', _, rfl, .arr xs⟩
  | obj ms => exact ⟨'\x7b', _, rfl, .obj ms⟩

lemma isSpace_of_isMark (hc : IsMark c) : isSpace c = false := by
  rw [← Bool.not_eq_true, Strict.isSpace_iff]
  rintro (rfl | rfl | rfl | rfl) <;> exact absurd hc (by decide)

lemma Begins.isSpace_eq (h : Begins c x) : isSpace c = false := by
  cases h with
  | atom hc _ => exact isSpace_of_isMark hc
  | _ => rfl

/-- What follows a gap in front of a written value is the value. -/
lemma gap_write {c' : Char} {rest' : List Char} (h : Gap s (write x ++ tail))
    (h' : Gap s (c' :: rest')) (hc' : isSpace c' = false) :
    c' :: rest' = write x ++ tail ∧ Begins c' x := by
  obtain ⟨c, more, hx, hbegins⟩ := begins_write x
  rw [hx, List.cons_append] at h ⊢
  have hsame := h'.unique h hc' hbegins.isSpace_eq
  cases hsame
  exact ⟨rfl, hbegins⟩

/-! ## What productions read of written values -/

/-- A quoted string is read only where a string was written, and is this string. -/
lemma eq_str_of_quoted {start : List Char} {t : Text} (hx : x.IsWhole)
    (hgap : Gap s (write x ++ tail)) (hstart : Gap s start) (h : Quoted start t rest) :
    x = .str t ∧ rest = tail := by
  obtain ⟨more, rfl⟩ := h.head
  obtain ⟨hwritten, hbegins⟩ := gap_write hgap hstart rfl
  cases hbegins with
  | atom hc _ => exact absurd hc (by decide)
  | str t' =>
    have ht' : t'.IsWhole := by
      cases hx with
      | atom h => cases h
      | str h => exact h
    rw [hwritten] at h
    obtain ⟨rfl, rfl⟩ := h.unique (quoted_writeText ht' tail)
    exact ⟨rfl, rfl⟩

lemma eq_strs_of_items {xs : List Json} {ts : List Text} (hnonempty : xs ≠ [])
    (hxs : ∀ x ∈ xs, x.IsWhole) (hgap : Gap s (writeElements xs ++ tail))
    (h : Items Quoted ']' s ts rest) : xs = ts.map .str ∧ rest = tail := by
  induction xs generalizing s ts with
  | nil => exact absurd rfl hnonempty
  | cons x xs ih =>
    obtain ⟨hx, hrest⟩ := List.forall_mem_cons.1 hxs
    cases xs with
    | nil =>
      rw [writeElements, List.append_assoc] at hgap
      cases h with
      | last hbefore ht hafter =>
        obtain ⟨rfl, rfl⟩ := eq_str_of_quoted hx hgap hbefore ht
        have hclosing := hafter.unique (.refl _) rfl rfl
        cases hclosing
        exact ⟨rfl, rfl⟩
      | comma hbefore ht hafter h =>
        obtain ⟨rfl, rfl⟩ := eq_str_of_quoted hx hgap hbefore ht
        have hclosing := hafter.unique (.refl _) rfl rfl
        cases hclosing
    | cons y ys =>
      rw [writeElements, List.append_assoc] at hgap
      cases h with
      | last hbefore ht hafter =>
        obtain ⟨rfl, rfl⟩ := eq_str_of_quoted hx hgap hbefore ht
        have hcomma := hafter.unique (.refl _) rfl rfl
        cases hcomma
      | comma hbefore ht hafter h =>
        obtain ⟨rfl, rfl⟩ := eq_str_of_quoted hx hgap hbefore ht
        have hcomma := hafter.unique (.refl _) rfl rfl
        cases hcomma
        obtain ⟨hys, rfl⟩ := ih (by simp) hrest ⟨[' '], by simp, rfl⟩ h
        exact ⟨by rw [hys, List.map_cons], rfl⟩

/-- Files are read only where their JSON was written. -/
lemma eq_files_of_files {start : List Char} {files : Glob} (hx : x.IsWhole)
    (hgap : Gap s (write x ++ tail)) (hstart : Gap s start) (h : Files start files rest) :
    x = files.toJson ∧ rest = tail := by
  cases h with
  | one h => exact eq_str_of_quoted hx hgap hstart h
  | many h =>
    cases h with
    | empty h =>
      obtain ⟨hwritten, hbegins⟩ := gap_write hgap hstart rfl
      cases hbegins with
      | atom hc _ => exact absurd hc (by decide)
      | arr xs =>
        rw [(List.cons.inj hwritten).2] at h
        cases xs with
        | nil =>
          have hclosing := h.unique (.refl _) rfl rfl
          cases hclosing
          exact ⟨rfl, rfl⟩
        | cons y ys =>
          have hfirst : ∃ more, writeElements (y :: ys) ++ tail = write y ++ more := by
            cases ys <;> exact ⟨_, by rw [writeElements, List.append_assoc]⟩
          obtain ⟨more, hmore⟩ := hfirst
          change Gap (writeElements (y :: ys) ++ tail) _ at h
          rw [hmore] at h
          obtain ⟨-, hbegins⟩ := gap_write (.refl _) h rfl
          cases hbegins with
          | atom hc _ => exact absurd hc (by decide)
    | items h =>
      obtain ⟨hwritten, hbegins⟩ := gap_write hgap hstart rfl
      cases hbegins with
      | atom hc _ => exact absurd hc (by decide)
      | arr xs =>
        rw [(List.cons.inj hwritten).2] at h
        cases xs with
        | nil =>
          obtain ⟨more, hquote⟩ := h.head Quoted.head
          have hclosing := hquote.unique (.refl _) rfl rfl
          cases hclosing
        | cons y ys =>
          have hxs : ∀ z ∈ y :: ys, z.IsWhole := by
            cases hx with
            | atom h => cases h
            | arr h => exact h
          obtain ⟨hys, rfl⟩ := eq_strs_of_items (by simp) hxs (.refl _) h
          exact ⟨by rw [hys, Glob.toJson], rfl⟩

/-- A member is read only where one with its key was written, and its value is read from what was
written for the value. -/
lemma member_of_write {start afterStart : List Char} {key : Text} {entry : Text × Glob}
    (hkey : key.IsWhole) (hx : x.IsWhole)
    (hgap : Gap s (writeText key ++ ':' :: ' ' :: (write x ++ tail))) (hstart : Gap s start)
    (h : Member Files start entry afterStart) :
    key = entry.1 ∧ x = entry.2.toJson ∧ afterStart = tail := by
  obtain ⟨hquoted, hcolon, hbefore, hfiles⟩ := h
  obtain ⟨hsame, rfl⟩ := eq_str_of_quoted (x := .str key) (.str hkey) hgap hstart hquoted
  cases hsame
  have hcolon' := hcolon.unique (.refl _) rfl rfl
  cases hcolon'
  obtain ⟨hvalue, rfl⟩ := eq_files_of_files hx ⟨[' '], by simp, rfl⟩ hbefore hfiles
  exact ⟨rfl, hvalue, rfl⟩

lemma eq_entries_of_items {ms : List (Text × Json)} {entries : List (Text × Glob)}
    (hnonempty : ms ≠ []) (hkeys : ∀ m ∈ ms, m.1.IsWhole) (hms : ∀ m ∈ ms, m.2.IsWhole)
    (hgap : Gap s (writeMembers ms ++ tail)) (h : Items (Member Files) '\x7d' s entries rest) :
    ms = (entries.map fun entry => (entry.1, entry.2.toJson)) ∧ rest = tail := by
  induction ms generalizing s entries with
  | nil => exact absurd rfl hnonempty
  | cons m ms ih =>
    obtain ⟨key, x⟩ := m
    obtain ⟨hkey, hrestKeys⟩ := List.forall_mem_cons.1 hkeys
    obtain ⟨hx, hrest⟩ := List.forall_mem_cons.1 hms
    cases ms with
    | nil =>
      simp only [writeMembers, List.append_assoc, List.cons_append, List.nil_append] at hgap
      cases h with
      | last hbefore hentry hafter =>
        obtain ⟨rfl, rfl, rfl⟩ := member_of_write hkey hx hgap hbefore hentry
        have hclosing := hafter.unique (.refl _) rfl rfl
        cases hclosing
        exact ⟨rfl, rfl⟩
      | comma hbefore hentry hafter h =>
        obtain ⟨rfl, rfl, rfl⟩ := member_of_write hkey hx hgap hbefore hentry
        have hclosing := hafter.unique (.refl _) rfl rfl
        cases hclosing
    | cons m' ms =>
      simp only [writeMembers, List.append_assoc, List.cons_append] at hgap
      cases h with
      | last hbefore hentry hafter =>
        obtain ⟨rfl, rfl, rfl⟩ := member_of_write hkey hx hgap hbefore hentry
        have hcomma := hafter.unique (.refl _) rfl rfl
        cases hcomma
      | comma hbefore hentry hafter h =>
        obtain ⟨rfl, rfl, rfl⟩ := member_of_write hkey hx hgap hbefore hentry
        have hcomma := hafter.unique (.refl _) rfl rfl
        cases hcomma
        obtain ⟨hms', rfl⟩ := ih (by simp) hrestKeys hrest ⟨[' '], by simp, rfl⟩ h
        exact ⟨by rw [hms', List.map_cons], rfl⟩

/-- **Shapes.** The compact form of a value is a schema text only if the value is the JSON of the
entries that the text writes. -/
theorem eq_of_schemaText_write {entries : List (Text × Glob)} (hx : x.IsWhole)
    (h : SchemaText (write x) entries) : x = SchemaMapping.toJson entries := by
  obtain ⟨start, rest, hstart, henclosed, -⟩ := h
  have hgap : Gap (write x) (write x ++ []) := by
    rw [List.append_nil]
    exact .refl _
  cases henclosed with
  | empty h =>
    obtain ⟨hwritten, hbegins⟩ := gap_write hgap hstart rfl
    cases hbegins with
    | atom hc _ => exact absurd hc (by decide)
    | obj ms =>
      rw [(List.cons.inj hwritten).2] at h
      cases ms with
      | nil => rfl
      | cons m ms =>
        have hfirst : ∃ more, writeMembers (m :: ms) ++ [] = '"' :: more := by
          cases ms <;> exact ⟨_, rfl⟩
        obtain ⟨more, hmore⟩ := hfirst
        change Gap (writeMembers (m :: ms) ++ []) _ at h
        rw [hmore] at h
        have hclosing := h.unique (.refl _) rfl rfl
        cases hclosing
  | items h =>
    obtain ⟨hwritten, hbegins⟩ := gap_write hgap hstart rfl
    cases hbegins with
    | atom hc _ => exact absurd hc (by decide)
    | obj ms =>
      rw [(List.cons.inj hwritten).2] at h
      cases ms with
      | nil =>
        obtain ⟨more, hquote⟩ := h.head Member.head
        have hclosing := hquote.unique (.refl _) rfl rfl
        cases hclosing
      | cons m ms =>
        obtain ⟨hkeys, hms⟩ : (∀ n ∈ m :: ms, n.1.IsWhole) ∧ ∀ n ∈ m :: ms, n.2.IsWhole := by
          cases hx with
          | atom h => cases h
          | obj hkeys h => exact ⟨hkeys, h⟩
        obtain ⟨hentries, -⟩ := eq_entries_of_items (by simp) hkeys hms (.refl _) h
        rw [hentries, SchemaMapping.toJson]

end Json

end LanguageHost
