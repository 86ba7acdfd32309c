import LanguageHost.Console
import LanguageHost.Proofs.Characters
import Mathlib.Tactic.Set

/-!
# Printed JSON

JSON in its indented form is printed as code line by line. Its lines have no tabs, no control
characters and no blanks at their ends, so that all the console can do to them is to cut them off:
what is printed are the lines themselves exactly if all of them fit into its columns.
-/

namespace LanguageHost

namespace Console

/-! ## What is printed as it is -/

lemma widenCodeTabs_eq_self {s : List Char} (hs : '\t' ∉ s) (column : Nat) :
    widenCodeTabs column s = s := by
  induction s generalizing column with
  | nil => rfl
  | cons c s ih =>
    rw [List.mem_cons, not_or] at hs
    rw [widenCodeTabs, if_neg (Ne.symm hs.1)]
    split <;> rw [ih hs.2]

lemma cleanLines_eq_self {s : List Char} (hs : ∀ c ∈ s, Markup.isPrinterControl c = false) :
    cleanLines s = s := by
  induction s with
  | nil => rfl
  | cons c s ih =>
    obtain ⟨hc, hs⟩ := List.forall_mem_cons.1 hs
    have hreturn : c ≠ '\r' := by
      rintro rfl
      cases hc
    rw [cleanLines, hc, if_neg Bool.false_ne_true, ih hs]
    · rintro rfl
      exact absurd rfl hreturn
    · rintro rest rfl
      exact absurd rfl hreturn
    · rintro rfl
      exact absurd rfl hreturn

lemma dropMark_eq_self {s : List Char} (hs : s.head? ≠ some '\ufeff') : dropMark s = s := by
  unfold dropMark
  split
  · exact absurd rfl hs
  · rfl

/-! ## Lines -/

/-- A line of printable characters that is not empty and does not end with a blank. -/
structure IsLine (line : List Char) : Prop where
  printable : ∀ c ∈ line, Json.IsPrintable c
  last : ∃ c ∈ line.getLast?, Json.IsInk c

lemma columns_eq_length {line : List Char} (h : ∀ c ∈ line, Json.IsPrintable c) :
    columns line = line.length := by
  induction line with
  | nil => rfl
  | cons c line ih =>
    obtain ⟨hc, hline⟩ := List.forall_mem_cons.1 h
    have hone : columnsOf c = 1 := by
      rw [columnsOf]
      exact if_pos (by simpa using ⟨hc.1, Nat.lt_succ_of_le hc.2⟩)
    rw [columns, hone, ih hline, List.length_cons, Nat.add_comm]

lemma isSpace_of_isInk {c : Char} (hc : Json.IsInk c) : isSpace c = false :=
  hc.isBlank_eq

lemma IsLine.trimEnd_eq {line : List Char} (h : IsLine line) : trimEnd line = line := by
  obtain ⟨c, hlast, hc⟩ := h.last
  have hhead : line.reverse.head? = some c := by rw [List.head?_reverse, hlast]
  rw [trimEnd]
  cases hreverse : line.reverse with
  | nil => simp [hreverse] at hhead
  | cons d rest =>
    rw [hreverse] at hhead
    cases hhead
    rw [List.dropWhile_cons_of_neg (by simp [isSpace_of_isInk hc]), ← hreverse,
      List.reverse_reverse]

lemma length_trimEnd_le (s : List Char) : (trimEnd s).length ≤ s.length := by
  rw [trimEnd, List.length_reverse]
  exact (List.dropWhile_sublist _).length_le.trans_eq List.length_reverse

lemma trimEnd_blank (s : List Char) : trimEnd (s ++ [' ']) = trimEnd s := by
  rw [trimEnd, List.reverse_append, List.reverse_singleton, List.singleton_append,
    List.dropWhile_cons_of_pos (by decide), trimEnd]

/-- A line is cut off exactly if it has more columns than there are. -/
lemma IsLine.printed_iff {line : List Char} (h : IsLine line) (room : Nat) :
    trimLine (crop room line) = String.ofList line ↔ line.length ≤ room := by
  have hcolumns := columns_eq_length h.printable
  constructor
  · intro hsame
    by_contra hlong
    have htrim : trimEnd (crop room line) = line := by
      have := congrArg String.toList hsame
      rwa [trimLine, String.toList_ofList, String.toList_ofList] at this
    rw [crop, if_neg (by omega)] at htrim
    set kept := line.take (cutPlace room line line.length 0 line.length) with hkept
    have hkeptColumns : columns kept = kept.length :=
      columns_eq_length fun c hc => h.printable c (List.mem_of_mem_take hc)
    have hkeptLength : kept.length ≤ line.length := List.length_take_le' _ _
    dsimp only at htrim
    split at htrim
    · have hle := length_trimEnd_le kept
      rw [htrim] at hle
      omega
    · have hle := length_trimEnd_le kept.dropLast
      rw [trimEnd_blank] at htrim
      rw [htrim, List.length_dropLast] at hle
      omega
  · intro hfits
    rw [crop, if_pos (by omega), trimLine, h.trimEnd_eq]

/-- The word in hand is a line if it can end. -/
lemma isLine_reverse {word : List Char} {before : Char}
    (hbefore : before ∈ word.head? ∨ word = [] ∧ before = '\n')
    (hword : ∀ c ∈ word, Json.IsPrintable c) (hink : Json.IsInk before) : IsLine word.reverse := by
  rcases hbefore with hhead | ⟨-, rfl⟩
  · exact ⟨fun c hc => hword c (List.mem_reverse.1 hc), before,
      by rwa [List.getLast?_reverse], hink⟩
  · exact absurd hink (by decide)

/-- The lines of a text. `before` is the character in front of it, which is the last one of the word
in hand unless a line begins. -/
lemma isLine_splitLines {s word : List Char} (before : Char)
    (hbefore : before ∈ word.head? ∨ word = [] ∧ before = '\n')
    (hword : ∀ c ∈ word, Json.IsPrintable c) (hs : ∀ c ∈ s, Json.IsPrintable c ∨ c = '\n')
    (hlast : ∀ c ∈ (before :: s).getLast?, Json.IsInk c)
    (hbroken : (before :: s).IsChain fun a b => b = '\n' → Json.IsInk a) :
    ∀ line ∈ splitLines word s, IsLine line := by
  induction s generalizing word before with
  | nil =>
    exact List.forall_mem_singleton.2 (isLine_reverse hbefore hword (hlast before rfl))
  | cons c s ih =>
    obtain ⟨hc, hs⟩ := List.forall_mem_cons.1 hs
    obtain ⟨hnext, hbroken⟩ := List.isChain_cons_cons.1 hbroken
    rw [List.getLast?_cons_cons] at hlast
    rw [splitLines]
    split
    · rename_i hfeed
      refine List.forall_mem_cons.2 ⟨isLine_reverse hbefore hword (hnext hfeed), ?_⟩
      exact ih c (.inr ⟨rfl, hfeed⟩) (List.forall_mem_nil _) hs hlast hbroken
    · rename_i hfeed
      have hword' := List.forall_mem_cons.2 ⟨hc.resolve_right hfeed, hword⟩
      exact ih c (.inl rfl) hword' hs hlast hbroken

/-! ## Texts -/

/-- The lines of a text as they are. -/
def linesOf (s : List Char) : List String :=
  (splitLines [] s).map String.ofList

/-- Every line has room on the console. -/
def Fits (s : List Char) : Prop :=
  ∀ line ∈ splitLines [] s, line.length ≤ width

instance (s : List Char) : Decidable (Fits s) :=
  inferInstanceAs (Decidable (∀ line ∈ splitLines [] s, line.length ≤ width))

/-- **Printed JSON.** A text of such lines is printed line by line exactly if its lines fit. -/
theorem code_eq_linesOf {s : List Char} (hs : Json.Solid s) : code s = linesOf s ↔ Fits s := by
  have hlines : ∀ line ∈ splitLines [] s, IsLine line := by
    refine isLine_splitLines '\n' (.inr ⟨rfl, rfl⟩) (List.forall_mem_nil _) hs.plain ?_ ?_
    · obtain ⟨c, rest, rfl⟩ := List.exists_cons_of_ne_nil hs.nonempty
      rw [List.getLast?_cons_cons]
      exact hs.last
    · refine List.isChain_cons.2 ⟨fun c hc hfeed => ?_, hs.broken⟩
      exact absurd (hfeed ▸ hs.first c hc) (by decide)
  have hplain : ∀ c ∈ s, c ≠ '\t' ∧ Markup.isPrinterControl c = false := by
    intro c hc
    rcases hs.plain c hc with hprintable | rfl
    · constructor
      · rintro rfl
        exact absurd hprintable (by decide)
      · refine Bool.eq_false_iff.2 fun hcontrol => ?_
        simp only [Markup.isPrinterControl, Bool.or_eq_true, decide_eq_true_eq] at hcontrol
        obtain (((rfl | rfl) | rfl) | rfl) | rfl := hcontrol <;>
          exact absurd hprintable (by decide)
    · decide
  have hmark : s.head? ≠ some '\ufeff' := fun hhead => absurd (hs.first _ hhead) (by decide)
  rw [code, widenCodeTabs_eq_self (fun htab => (hplain _ htab).1 rfl), dropMark_eq_self hmark,
    cleanLines_eq_self fun c hc => (hplain c hc).2, linesOf, List.map_inj_left]
  exact forall₂_congr fun line hline => (hlines line hline).printed_iff width

end Console

end LanguageHost
