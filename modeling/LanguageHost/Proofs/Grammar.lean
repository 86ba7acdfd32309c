import Mathlib.Tactic.Lemma
import LanguageHost.Schema.Mapping

/-!
# The grammar of schema texts

What a schema preference may write, said without a reader. It is the part of the JSON grammar that
has only strings, arrays of strings and one object around them.

A production relates three things: the characters it starts from, what is written there, and the
characters behind it. So `Quoted s t rest` says that `s` begins with a quoted string that stands
for `t`, and that `rest` follows it.
-/

namespace LanguageHost.Grammar

variable {α : Type}

/-! ## Between tokens -/

/-- Blanks between tokens, which may be missing. -/
def Gap (s rest : List Char) : Prop :=
  ∃ blanks : List Char, (∀ c ∈ blanks, c = ' ' ∨ c = '\t' ∨ c = '\n' ∨ c = '\r') ∧
    s = blanks ++ rest

lemma Gap.refl (s : List Char) : Gap s s :=
  ⟨[], by simp, rfl⟩

lemma Gap.trans {s between rest : List Char} (h : Gap s between) (h' : Gap between rest) :
    Gap s rest := by
  obtain ⟨blanks, hblanks, rfl⟩ := h
  obtain ⟨more, hmore, rfl⟩ := h'
  refine ⟨blanks ++ more, fun c hc => ?_, (List.append_assoc ..).symm⟩
  obtain hc | hc := List.mem_append.1 hc
  · exact hblanks c hc
  · exact hmore c hc

lemma Gap.length_le {s rest : List Char} (h : Gap s rest) : rest.length ≤ s.length := by
  obtain ⟨blanks, -, rfl⟩ := h
  simp

lemma Gap.length_lt {s rest : List Char} {c : Char} (h : Gap s (c :: rest)) :
    rest.length < s.length :=
  h.length_le

/-! ## Strings -/

/-- A hexadecimal digit and its value. -/
def HexDigit (c : Char) (n : Nat) : Prop :=
  "0123456789abcdef".toList[n]? = some c ∨ "0123456789ABCDEF".toList[n]? = some c

/-- Four hexadecimal digits and the code unit that they write. -/
inductive CodeUnit : List Char → CodePoint → List Char → Prop
  | digits {a b c d : Char} {i j k l : Nat} {unit : CodePoint} {rest : List Char}
      (ha : HexDigit a i) (hb : HexDigit b j) (hc : HexDigit c k) (hd : HexDigit d l)
      (hunit : unit.val = ((i * 16 + j) * 16 + k) * 16 + l) :
      CodeUnit (a :: b :: c :: d :: rest) unit rest

/-- The letters behind a backslash with the characters that they stand for. -/
def escapes : List (Char × Char) :=
  [('"', '"'), ('\\', '\\'), ('/', '/'), ('b', '\x08'), ('f', '\x0c'), ('n', '\n'), ('r', '\r'),
    ('t', '\t')]

/-- The rest of a string up to and with its closing quote, and the code points in it. -/
inductive Inside : List Char → Text → List Char → Prop
  | close (rest : List Char) : Inside ('"' :: rest) [] rest
  | raw {c : Char} {s rest : List Char} {t : Text} (hc : 0x20 ≤ c.toNat) (hquote : c ≠ '"')
      (hslash : c ≠ '\\') (h : Inside s t rest) : Inside (c :: s) (.ofChar c :: t) rest
  | escape {letter c : Char} {s rest : List Char} {t : Text} (hc : (letter, c) ∈ escapes)
      (h : Inside s t rest) : Inside ('\\' :: letter :: s) (.ofChar c :: t) rest
  | unit {unit : CodePoint} {s more rest : List Char} {t : Text} (hunit : CodeUnit s unit more)
      (hwhole : unit.isSurrogate = false) (h : Inside more t rest) :
      Inside ('\\' :: 'u' :: s) (unit :: t) rest
  | pair {high low c : CodePoint} {s between more rest : List Char} {t : Text}
      (hhigh : CodeUnit s high ('\\' :: 'u' :: between)) (hfirst : high.isHighSurrogate = true)
      (hlow : CodeUnit between low more) (hsecond : low.isLowSurrogate = true)
      (hc : c.val = 0x10000 + (high.val - 0xD800) * 0x400 + (low.val - 0xDC00))
      (h : Inside more t rest) : Inside ('\\' :: 'u' :: s) (c :: t) rest

/-- A quoted string. -/
inductive Quoted : List Char → Text → List Char → Prop
  | quote {s rest : List Char} {t : Text} (h : Inside s t rest) : Quoted ('"' :: s) t rest

lemma CodeUnit.length_lt {s rest : List Char} {unit : CodePoint} (h : CodeUnit s unit rest) :
    rest.length < s.length := by
  cases h
  simp only [List.length_cons]
  omega

lemma Inside.length_lt {s rest : List Char} {t : Text} (h : Inside s t rest) :
    rest.length < s.length := by
  induction h with
  | close rest => simp
  | raw _ _ _ _ ih | escape _ _ ih => simp only [List.length_cons]; omega
  | unit hunit _ _ ih =>
    have hlength := hunit.length_lt
    simp only [List.length_cons]
    omega
  | pair hhigh _ hlow _ _ _ ih =>
    have hlengthHigh := hhigh.length_lt
    have hlengthLow := hlow.length_lt
    simp only [List.length_cons] at hlengthHigh ⊢
    omega

lemma Quoted.length_lt {s rest : List Char} {t : Text} (h : Quoted s t rest) :
    rest.length < s.length := by
  obtain ⟨h⟩ := h
  have hlength := h.length_lt
  simp only [List.length_cons]
  omega

/-! ## Containers -/

section

variable (item : List Char → α → List Char → Prop)

/-- Items with commas between them, up to and with a closing character. -/
inductive Items (closing : Char) : List Char → List α → List Char → Prop
  | last {s start after rest : List Char} {x : α} (hbefore : Gap s start)
      (hx : item start x after) (hafter : Gap after (closing :: rest)) : Items closing s [x] rest
  | comma {s start after more rest : List Char} {x : α} {xs : List α} (hbefore : Gap s start)
      (hx : item start x after) (hafter : Gap after (',' :: more))
      (h : Items closing more xs rest) : Items closing s (x :: xs) rest

/-- Items between an opening and a closing character; there may be none. -/
inductive Enclosed (opening closing : Char) : List Char → List α → List Char → Prop
  | empty {s rest : List Char} (h : Gap s (closing :: rest)) :
      Enclosed opening closing (opening :: s) [] rest
  | items {s rest : List Char} {xs : List α} (h : Items item closing s xs rest) :
      Enclosed opening closing (opening :: s) xs rest

/-- A quoted key, a colon and what stands under the key. -/
inductive Member : List Char → Text × α → List Char → Prop
  | colon {s afterKey afterColon start rest : List Char} {key : Text} {x : α}
      (hkey : Quoted s key afterKey) (hcolon : Gap afterKey (':' :: afterColon))
      (hgap : Gap afterColon start) (hx : item start x rest) : Member s (key, x) rest

end

section

variable {β : Type} {item : List Char → α → List Char → Prop}
  {other : List Char → β → List Char → Prop} {opening closing : Char} {s rest : List Char}

lemma Items.gap {start : List Char} {xs : List α} (hgap : Gap s start)
    (h : Items item closing start xs rest) : Items item closing s xs rest := by
  cases h with
  | last hbefore hx hafter => exact .last (hgap.trans hbefore) hx hafter
  | comma hbefore hx hafter h => exact .comma (hgap.trans hbefore) hx hafter h

lemma Items.length_lt {xs : List α} (hitem : ∀ {s x rest}, item s x rest → rest.length < s.length)
    (h : Items item closing s xs rest) : rest.length < s.length := by
  induction h with
  | last hbefore hx hafter =>
    have hstart := hbefore.length_le
    have hlength := hitem hx
    have hend := hafter.length_lt
    omega
  | comma hbefore hx hafter _ ih =>
    have hstart := hbefore.length_le
    have hlength := hitem hx
    have hend := hafter.length_lt
    omega

lemma Enclosed.length_lt {xs : List α}
    (hitem : ∀ {s x rest}, item s x rest → rest.length < s.length)
    (h : Enclosed item opening closing s xs rest) : rest.length < s.length := by
  cases h with
  | empty h =>
    have hgap := h.length_lt
    simp only [List.length_cons]
    omega
  | items h =>
    have hlength := h.length_lt hitem
    simp only [List.length_cons]
    omega

lemma Member.length_lt {m : Text × α}
    (hitem : ∀ {s x rest}, item s x rest → rest.length < s.length) (h : Member item s m rest) :
    rest.length < s.length := by
  obtain ⟨hkey, hcolon, hgap, hx⟩ := h
  have hlengthKey := hkey.length_lt
  have hlengthColon := hcolon.length_lt
  have hlengthGap := hgap.length_le
  have hlength := hitem hx
  omega

/-- Items of one kind are items of another one if each of them is. -/
lemma Items.map {f : α → β} {xs : List α} (hitem : ∀ {s x rest}, item s x rest → other s (f x) rest)
    (h : Items item closing s xs rest) : Items other closing s (xs.map f) rest := by
  induction h with
  | last hbefore hx hafter => exact .last hbefore (hitem hx) hafter
  | comma hbefore hx hafter _ ih => exact .comma hbefore (hitem hx) hafter ih

lemma Items.of_map {f : α → β} {xs : List α}
    (hitem : ∀ {s x rest}, other s (f x) rest → item s x rest)
    (h : Items other closing s (xs.map f) rest) : Items item closing s xs rest := by
  generalize hys : xs.map f = ys at h
  induction h generalizing xs with
  | last hbefore hx hafter =>
    obtain ⟨x, rfl, rfl⟩ := List.map_eq_singleton_iff.1 hys
    exact .last hbefore (hitem hx) hafter
  | comma hbefore hx hafter _ ih =>
    obtain ⟨x, xs, rfl, rfl, hxs⟩ := List.map_eq_cons_iff.1 hys
    exact .comma hbefore (hitem hx) hafter (ih hxs)

lemma Enclosed.map {f : α → β} {xs : List α}
    (hitem : ∀ {s x rest}, item s x rest → other s (f x) rest)
    (h : Enclosed item opening closing s xs rest) :
    Enclosed other opening closing s (xs.map f) rest := by
  cases h with
  | empty h => exact .empty h
  | items h => exact .items (h.map hitem)

lemma Enclosed.of_map {f : α → β} {xs : List α}
    (hitem : ∀ {s x rest}, other s (f x) rest → item s x rest)
    (h : Enclosed other opening closing s (xs.map f) rest) :
    Enclosed item opening closing s xs rest := by
  generalize hys : xs.map f = ys at h
  cases h with
  | empty h =>
    rw [List.map_eq_nil_iff.1 hys]
    exact .empty h
  | items h =>
    rw [← hys] at h
    exact .items (h.of_map hitem)

end

/-! ## Schema texts -/

/-- The files of a schema: a string, or an array of strings. -/
inductive Files : List Char → Glob → List Char → Prop
  | one {s rest : List Char} {t : Text} (h : Quoted s t rest) : Files s (.one t) rest
  | many {s rest : List Char} {ts : List Text} (h : Enclosed Quoted '[' ']' s ts rest) :
      Files s (.many ts) rest

/-- A whole schema text, with its entries in the order in which they are written. An address may
be repeated. -/
def SchemaText (s : List Char) (entries : List (Text × Glob)) : Prop :=
  ∃ start rest, Gap s start ∧ Enclosed (Member Files) '\x7b' '\x7d' start entries rest ∧
    Gap rest []

lemma Files.length_lt {s rest : List Char} {files : Glob} (h : Files s files rest) :
    rest.length < s.length := by
  cases h with
  | one h => exact h.length_lt
  | many h => exact h.length_lt Quoted.length_lt

end LanguageHost.Grammar
