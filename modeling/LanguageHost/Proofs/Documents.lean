import LanguageHost.Preferences.Document
import LanguageHost.Proofs.Printing
import LanguageHost.Proofs.Utf8

/-!
# Written preference files are read back

The reader of preference files takes escapes of surrogates one by one and joins a high one with a
low one right behind it. So a text comes back from what is written for it exactly if no high
surrogate stands right before a low one in it, as `Text.IsSettled` says. Everything that is read is
settled, since it went through the joining, and so are the texts of other JSON values, which have no
surrogates at all.
-/

namespace LanguageHost

/-- No high surrogate stands right before a low one. -/
def Text.IsSettled : Text → Prop
  | c :: d :: rest =>
    ¬ (c.isHighSurrogate = true ∧ d.isLowSurrogate = true) ∧ IsSettled (d :: rest)
  | _ => True

/-- The code units that a code point is escaped as: a pair of surrogates beyond `U+FFFF`. -/
def CodePoint.units (c : CodePoint) : Text :=
  if c.val < 0x10000 then [c]
  else
    [⟨0xD800 + (c.val - 0x10000) / 0x400, by omega⟩,
      ⟨0xDC00 + (c.val - 0x10000) % 0x400, by omega⟩]

/-! ## Settled texts -/

namespace Text

lemma isSettled_cons {c : CodePoint} {t : Text} : IsSettled (c :: t) ↔
    (∀ d ∈ t.head?, ¬ (c.isHighSurrogate = true ∧ d.isLowSurrogate = true)) ∧ IsSettled t := by
  cases t with
  | nil => simp [IsSettled]
  | cons d rest => simp [IsSettled]

lemma IsWhole.isSettled {t : Text} (ht : t.IsWhole) : t.IsSettled := by
  induction t with
  | nil => trivial
  | cons c t ih =>
    obtain ⟨hc, ht⟩ := isWhole_cons.1 ht
    exact isSettled_cons.2 ⟨fun d _ hpair => by
      simp [(Json.Strict.halves_eq_false hc).2] at hpair, ih ht⟩

end Text

namespace Json.Loose

lemma isSurrogate_ofPair (high low : CodePoint) :
    (CodePoint.ofPair high low).isSurrogate = false := by
  have hval : (CodePoint.ofPair high low).val =
      0x10000 + (high.val - 0xD800) % 0x400 * 0x400 + (low.val - 0xDC00) % 0x400 := rfl
  simp only [CodePoint.isSurrogate, Bool.and_eq_false_iff, decide_eq_false_iff_not]
  omega

lemma joinPairs_cons {c : CodePoint} {units : Text}
    (hapart : ∀ d ∈ units.head?, ¬ (c.isHighSurrogate = true ∧ d.isLowSurrogate = true)) :
    joinPairs (c :: units) = c :: joinPairs units := by
  cases units with
  | nil => rfl
  | cons d rest =>
    rw [joinPairs, if_neg]
    simpa using hapart d rfl

/-- The joined text begins with a low surrogate only if the code units do. -/
lemma isLowSurrogate_head_joinPairs {units : Text} {x : CodePoint}
    (hx : x ∈ (joinPairs units).head?) (hlow : x.isLowSurrogate = true) : x ∈ units.head? := by
  fun_cases joinPairs units with
  | case1 => cases hx
  | case2 c => exact hx
  | case3 c d rest hpair =>
    rw [joinPairs, if_pos hpair] at hx
    rw [← Option.some.inj hx, (Strict.halves_eq_false (isSurrogate_ofPair c d)).1] at hlow
    cases hlow
  | case4 c d rest hpair =>
    rw [joinPairs, if_neg hpair] at hx
    exact hx

/-- What was joined holds no pair any more. -/
lemma isSettled_joinPairs (units : Text) : (joinPairs units).IsSettled := by
  fun_induction joinPairs units with
  | case1 => trivial
  | case2 c => trivial
  | case3 c d rest hpair ih =>
    refine Text.isSettled_cons.2 ⟨fun x _ hhigh => ?_, ih⟩
    rw [(Strict.halves_eq_false (isSurrogate_ofPair c d)).2] at hhigh
    cases hhigh.1
  | case4 c d rest hpair ih =>
    refine Text.isSettled_cons.2 ⟨fun x hx hboth => hpair ?_, ih⟩
    cases isLowSurrogate_head_joinPairs hx hboth.2
    simpa using hboth

/-! ## Code units -/

lemma units_of_lt {c : CodePoint} (hc : c.val < 0x10000) : c.units = [c] :=
  if_pos hc

/-- A code point that is made of surrogates is escaped as these. -/
lemma units_of_halves {c high low : CodePoint} (h : Halves c high low) : c.units = [high, low] := by
  obtain ⟨hhigh, hlow, hval⟩ := h
  simp only [CodePoint.isHighSurrogate, CodePoint.isLowSurrogate, Bool.and_eq_true,
    decide_eq_true_eq] at hhigh hlow
  have hfirst : 0xD800 + (c.val - 0x10000) / 0x400 = high.val := by omega
  have hsecond : 0xDC00 + (c.val - 0x10000) % 0x400 = low.val := by omega
  rw [CodePoint.units, if_neg (by omega)]
  exact congrArg₂ (fun a b => [a, b]) (Fin.ext hfirst) (Fin.ext hsecond)

lemma head?_units {c x : CodePoint} (hx : x ∈ c.units.head?) (hlow : x.isLowSurrogate = true) :
    x = c := by
  by_cases hc : c.val < 0x10000
  · rw [units_of_lt hc] at hx
    exact (Option.some.inj hx).symm
  · obtain ⟨high, low, hhalves, -⟩ := exists_halves (Nat.le_of_not_lt hc)
    rw [units_of_halves hhalves] at hx
    cases Option.some.inj hx
    rw [Strict.isLowSurrogate_eq_false hhalves.isHigh] at hlow
    cases hlow

lemma joinPairs_units {c : CodePoint} (hc : 0x10000 ≤ c.val) (units : Text) :
    joinPairs (c.units ++ units) = c :: joinPairs units := by
  obtain ⟨high, low, hhalves, -⟩ := exists_halves hc
  have hpair : (high.isHighSurrogate && low.isLowSurrogate) = true := by
    rw [hhalves.isHigh, hhalves.isLow]
    rfl
  have hjoined : CodePoint.ofPair high low = c :=
    Fin.ext ((Strict.val_ofPair hhalves.isHigh hhalves.isLow).trans hhalves.val_eq.symm)
  rw [units_of_halves hhalves, List.cons_append, List.singleton_append, joinPairs, if_pos hpair,
    hjoined]

/-- A settled text comes back from its code units. -/
lemma joinPairs_flatMap_units {t : Text} (ht : t.IsSettled) :
    joinPairs (t.flatMap CodePoint.units) = t := by
  induction t with
  | nil => rfl
  | cons c t ih =>
    obtain ⟨hapart, ht⟩ := Text.isSettled_cons.1 ht
    rw [List.flatMap_cons]
    by_cases hc : c.val < 0x10000
    · rw [units_of_lt hc, List.singleton_append, joinPairs_cons, ih ht]
      intro x hx hboth
      cases t with
      | nil => cases hx
      | cons d t =>
        have hhead : x ∈ d.units.head? := by
          rw [List.flatMap_cons, List.head?_append] at hx
          have hsome : d.units.head?.isSome = true := by
            rw [CodePoint.units]
            split <;> rfl
          rwa [Option.or_of_isSome hsome] at hx
        have hsame := head?_units hhead hboth.2
        exact hapart d rfl (hsame ▸ hboth)
    · rw [joinPairs_units (Nat.le_of_not_lt hc), ih ht]

/-! ## Strings -/

variable {start rest : List Char} {done : Text}

lemma readUnits_unitEscape (start : List Char) (done : Text) (unit : CodePoint)
    (hunit : unit.val < 0x10000) {rest : List Char} (hrest : rest ≠ []) :
    readUnits start done (unitEscape unit.val ++ rest) = readUnits start (unit :: done) rest := by
  obtain ⟨e, rest, rfl⟩ := List.exists_cons_of_ne_nil hrest
  have hvalue := Strict.hexUnit?_eq_some.2 (codeUnit_hexDigits hunit [])
  rw [unitEscape, List.cons_append, List.cons_append]
  simp only [hexDigits, List.nil_append, List.cons_append, readUnits]
  rw [hvalue]

lemma readUnits_raw (start : List Char) (done : Text) {ch : Char} (rest : List Char)
    (hlow : 0x20 ≤ ch.toNat) (hquote : ch ≠ '"') (hslash : ch ≠ '\\') :
    readUnits start done (ch :: rest) = readUnits start (CodePoint.ofChar ch :: done) rest := by
  rw [readUnits, if_neg (by omega)]
  all_goals simp [hquote, hslash]

lemma readUnits_letter (start : List Char) (done : Text) {letter ch : Char}
    (hletter : escaped? letter = some ch) (rest : List Char) :
    readUnits start done ('\\' :: letter :: rest) =
      readUnits start (CodePoint.ofChar ch :: done) rest := by
  have hu : letter ≠ 'u' := by
    rintro rfl
    cases hletter
  rw [readUnits, hletter]
  all_goals simp [hu]

/-- What is written for a code point is read as its code units. -/
lemma readUnits_spelled {c : CodePoint} {spelled : List Char} (hspelled : Spelling c spelled)
    (start : List Char) (done : Text) {rest : List Char} (hrest : rest ≠ []) :
    readUnits start done (spelled ++ rest) = readUnits start (c.units.reverse ++ done) rest := by
  cases hspelled with
  | letter letter ch hletter hch =>
    have hall : ∀ entry ∈ letters,
        escaped? entry.1 = some entry.2 ∧ entry.2.toNat < 0x10000 := by decide
    subst hch
    rw [units_of_lt (hall _ hletter).2]
    exact readUnits_letter start done (hall _ hletter).1 rest
  | raw ch hch hprintable hquote hslash =>
    subst hch
    rw [units_of_lt (Nat.lt_of_le_of_lt hprintable.2 (by decide))]
    exact readUnits_raw start done rest hprintable.1 hquote hslash
  | unit hunit =>
    rw [readUnits_unitEscape start done c hunit hrest, units_of_lt hunit]
    rfl
  | pair high low hhalves =>
    obtain ⟨hhigh, hlow⟩ := hhalves.lt
    have hnext : unitEscape low.val ++ rest ≠ [] := by simp [unitEscape]
    rw [units_of_halves hhalves, List.append_assoc,
      readUnits_unitEscape start done high hhigh hnext,
      readUnits_unitEscape start (high :: done) low hlow hrest]
    rfl

lemma readUnits_flatMap (start : List Char) (done t : Text) (rest : List Char) :
    readUnits start done (t.flatMap writePoint ++ '"' :: rest) =
      .ok (done.reverse ++ t.flatMap CodePoint.units, rest) := by
  induction t generalizing done with
  | nil =>
    rw [List.flatMap_nil, List.nil_append, List.flatMap_nil, List.append_nil]
    simp [readUnits]
  | cons c t ih =>
    rw [List.flatMap_cons, List.append_assoc, readUnits_spelled (spelling_writePoint c) start done (by simp), ih,
      List.reverse_append, List.reverse_reverse, List.append_assoc, List.flatMap_cons]

/-- **Strings.** A settled text is read from what is written for it. -/
lemma readString_writeText {t : Text} (ht : t.IsSettled) (rest : List Char) :
    readString (writeText t ++ rest) = .ok (t, rest) := by
  have hunits := readUnits_flatMap (writeText t ++ rest) [] t rest
  have hdrop : (writeText t ++ rest).drop 1 = t.flatMap writePoint ++ '"' :: rest := by
    rw [writeText, List.append_assoc, List.cons_append, List.drop_succ_cons, List.drop_zero]
    rfl
  rw [readString, hdrop, hunits]
  change Except.ok (joinPairs (t.flatMap CodePoint.units), rest) = _
  rw [joinPairs_flatMap_units ht]

/-! ## Documents -/

lemma readValue_writeText (fuel depth : Nat) {t : Text} (ht : t.IsSettled) (rest : List Char) :
    readValue (fuel + 1) depth (writeText t ++ rest) = .ok (.str t, rest) := by
  have hread := readString_writeText ht rest
  rw [writeText, List.append_assoc, List.cons_append] at hread ⊢
  rw [readValue, hread]
  rfl

lemma skipSpace_of_not {c : Char} (hc : isSpace c = false) (rest : List Char) :
    skipSpace (c :: rest) = c :: rest := by
  rw [skipSpace, List.dropWhile_cons_of_neg (by simp [hc])]

lemma skipSpace_lineBreak (depth : Nat) (s : List Char) :
    skipSpace (lineBreak depth ++ s) = skipSpace s := by
  have hblank : ∀ n, skipSpace (List.replicate n ' ' ++ s) = skipSpace s := by
    intro n
    induction n with
    | zero => rfl
    | succ n ih =>
      rw [List.replicate_succ, List.cons_append, skipSpace, List.dropWhile_cons_of_pos (by decide)]
      exact ih
  rw [lineBreak, List.cons_append, skipSpace, List.dropWhile_cons_of_pos (by decide)]
  exact hblank _

/-- After a member the object ends or goes on with the next one. -/
lemma readMembers_member (fuel depth : Nat) (done : List (Text × Json)) {k v : Text}
    {rest : List Char} (more : List Char) (hk : k.IsSettled) (hv : v.IsSettled) :
    (skipSpace rest = '\x7d' :: more →
      readMembers (fuel + 2) depth done (writeText k ++ ':' :: ' ' :: (writeText v ++ rest)) =
        .ok (.obj (mergeMembers ((k, .str v) :: done).reverse), more)) ∧
    (skipSpace rest = ',' :: more →
      readMembers (fuel + 2) depth done (writeText k ++ ':' :: ' ' :: (writeText v ++ rest)) =
        readMembers (fuel + 1) depth ((k, .str v) :: done) (skipSpace more)) := by
  have hkey := readString_writeText hk (':' :: ' ' :: (writeText v ++ rest))
  have hvalue := readValue_writeText fuel depth hv rest
  have hblank : skipSpace (' ' :: (writeText v ++ rest)) = writeText v ++ rest := rfl
  rw [writeText, List.append_assoc, List.cons_append] at hkey ⊢
  rw [readMembers, hkey]
  dsimp only
  rw [skipSpace_of_not rfl]
  constructor <;> intro hrest <;> simp only [hblank, hvalue, hrest]

/-- Members begin with a quote. -/
lemma exists_cons_writeIndentedMembers (depth : Nat) (m : Text × Json) (ms : List (Text × Json)) :
    ∃ s, writeIndentedMembers depth (m :: ms) = '"' :: s := by
  cases ms with
  | nil => exact ⟨_, rfl⟩
  | cons m' ms => exact ⟨_, rfl⟩

/-- The members of a document of strings. -/
lemma readMembers_writeIndented (depth : Nat) {values : List (Text × Text)}
    (hnonempty : values ≠ []) (hsettled : ∀ v ∈ values, v.1.IsSettled ∧ v.2.IsSettled)
    (rest : List Char) {fuel : Nat} (hfuel : values.length < fuel) (done : List (Text × Json)) :
    readMembers fuel depth done
        (writeIndentedMembers 0 (values.map fun v => (v.1, .str v.2)) ++ rest) =
      .ok (.obj (mergeMembers (done.reverse ++ values.map fun v => (v.1, .str v.2))), rest) := by
  induction values generalizing fuel done with
  | nil => exact absurd rfl hnonempty
  | cons v values ih =>
    obtain ⟨fuel, rfl⟩ : ∃ n, fuel = n + 2 := ⟨fuel - 2, by
      rw [List.length_cons] at hfuel
      omega⟩
    obtain ⟨⟨hk, hv⟩, hvalues⟩ := List.forall_mem_cons.1 hsettled
    cases values with
    | nil =>
      rw [List.map_singleton, writeIndentedMembers, writeIndented, writeScalar]
      simp only [List.append_assoc, List.cons_append]
      rw [(readMembers_member fuel depth done rest hk hv).1 (by
        rw [skipSpace_lineBreak]
        rfl)]
      rw [List.reverse_cons]
    | cons v' values =>
      rw [List.map_cons, List.map_cons, writeIndentedMembers, writeIndented, writeScalar]
      simp only [List.append_assoc, List.cons_append]
      rw [(readMembers_member fuel depth done _ hk hv).2 (skipSpace_of_not rfl _),
        skipSpace_lineBreak]
      have hfewer : (v' :: values).length < fuel + 1 := by
        rw [List.length_cons] at hfuel
        omega
      have hnext := ih (List.cons_ne_nil _ _) hvalues hfewer ((v.1, .str v.2) :: done)
      obtain ⟨s, hs⟩ := exists_cons_writeIndentedMembers 0 (v'.1, .str v'.2)
        (values.map fun v => (v.1, .str v.2))
      rw [List.map_cons, hs, List.cons_append] at hnext
      rw [hs, List.cons_append, skipSpace_of_not rfl, hnext, List.reverse_cons, List.append_assoc]
      rfl

/-- Every member takes a character at least. -/
lemma length_le_writeIndentedMembers (depth : Nat) (ms : List (Text × Json)) :
    ms.length ≤ (writeIndentedMembers depth ms).length := by
  induction ms with
  | nil => exact Nat.zero_le _
  | cons m ms ih =>
    obtain ⟨k, x⟩ := m
    cases ms with
    | nil =>
      simp only [writeIndentedMembers, List.length_append, List.length_cons, List.length_nil]
      omega
    | cons m' ms =>
      simp only [writeIndentedMembers, List.length_append, List.length_cons] at ih ⊢
      omega

/-- **Documents.** An object of settled strings without repeated keys is read from its indented
form. -/
theorem read_writeIndented {values : List (Text × Text)} (hkeys : (values.map Prod.fst).Nodup)
    (hsettled : ∀ v ∈ values, v.1.IsSettled ∧ v.2.IsSettled) :
    read (writeIndented 0 (.obj (values.map fun v => (v.1, .str v.2)))) =
      .ok (.obj (values.map fun v => (v.1, .str v.2))) := by
  cases values with
  | nil => rfl
  | cons v values =>
    set members := (v :: values).map fun v => (v.1, Json.str v.2) with hmembers
    obtain ⟨s, hs⟩ := exists_cons_writeIndentedMembers 0 (v.1, .str v.2)
      (values.map fun v => (v.1, .str v.2))
    have hdocument : writeIndented 0 (.obj members) =
        '\x7b' :: (lineBreak 1 ++ writeIndentedMembers 0 members) := rfl
    have hlength : (v :: values).length < 2 * (writeIndented 0 (.obj members)).length + 1 := by
      have hmany := length_le_writeIndentedMembers 0 members
      have hall : (writeIndented 0 (.obj members)).length =
          (lineBreak 1).length + (writeIndentedMembers 0 members).length + 1 := by
        rw [hdocument, List.length_cons, List.length_append]
      have hcount : members.length = (v :: values).length := by rw [hmembers, List.length_map]
      omega
    have hread := readMembers_writeIndented 984 (List.cons_ne_nil v values) hsettled [] hlength []
    rw [← hmembers, List.append_nil] at hread
    have hkeys' : (members.map Prod.fst).Nodup := by
      rw [hmembers, List.map_map]
      exact hkeys
    rw [List.reverse_nil, List.nil_append, mergeMembers_of_nodup hkeys'] at hread
    have hvalue : readValue (2 * (writeIndented 0 (.obj members)).length + 2) maxDepth
        (skipSpace (writeIndented 0 (.obj members))) = .ok (.obj members, []) := by
      rw [← hread, hdocument, skipSpace_of_not rfl, maxDepth, readValue, skipSpace_lineBreak]
      rw [hmembers, List.map_cons, hs, skipSpace_of_not rfl]
      simp
    rw [read, hvalue]
    rfl

end Json.Loose

/-! ## What readers return -/

namespace Json.Loose

/-- Strings are settled, and members have settled keys without repetitions, under which strings are
settled. -/
def IsSound : Json → Prop
  | .str t => t.IsSettled
  | .obj ms => (ms.map Prod.fst).Nodup ∧
      ∀ m ∈ ms, m.1.IsSettled ∧ ∀ t, m.2 = .str t → t.IsSettled
  | _ => True

lemma isSettled_of_readString {s rest : List Char} {t : Text}
    (h : readString s = .ok (t, rest)) : t.IsSettled := by
  rw [readString] at h
  cases hunits : readUnits s [] (s.drop 1) with
  | error stop =>
    rw [hunits] at h
    cases h
  | ok read =>
    rw [hunits] at h
    cases h
    exact isSettled_joinPairs _

/-- How a value is made up that is read: strings and keys are settled, and no key of an object is
repeated, at any depth. -/
inductive Formed : Json → Prop
  | atom {x : Json} (h : Strict.isAtom x = true) : Formed x
  | str {t : Text} (h : t.IsSettled) : Formed (.str t)
  | arr {xs : List Json} (h : ∀ x ∈ xs, Formed x) : Formed (.arr xs)
  | obj {ms : List (Text × Json)} (hnodup : (ms.map Prod.fst).Nodup)
      (hkeys : ∀ m ∈ ms, m.1.IsSettled) (h : ∀ m ∈ ms, Formed m.2) : Formed (.obj ms)

lemma Formed.isSound {x : Json} (h : Formed x) : IsSound x := by
  cases h with
  | atom h =>
    cases x with
    | str t => cases h
    | obj ms => cases h
    | _ => trivial
  | str h => exact h
  | arr h => trivial
  | obj hnodup hkeys h =>
    refine ⟨hnodup, fun m hm => ⟨hkeys m hm, fun t ht => ?_⟩⟩
    have hvalue := h m hm
    rw [ht] at hvalue
    cases hvalue with
    | atom hatom => cases hatom
    | str hsettled => exact hsettled

/-- Members are merged when their object is read, so no key of it is repeated. -/
lemma Formed.merged {ms : List (Text × Json)} (h : ∀ m ∈ ms, m.1.IsSettled ∧ Formed m.2) :
    Formed (.obj (mergeMembers ms)) :=
  .obj (nodup_keys_mergeMembers ms) (fun m hm => (h m (mem_mergeMembers hm)).1)
    fun m hm => (h m (mem_mergeMembers hm)).2

lemma isAtom_readUnsigned {start s rest : List Char} {negative : Bool} {x : Json}
    (h : readUnsigned start negative s = .ok (x, rest)) : Strict.isAtom x = true := by
  unfold readUnsigned at h
  split at h
  rename_i whole after _
  split at h
  · cases h
  dsimp only at h
  split at h
  · split at h
    · cases h
    · cases h
      rfl
  · cases h
    rfl

lemma isAtom_readAtom {s rest : List Char} {x : Json} (h : readAtom s = .ok (x, rest)) :
    Strict.isAtom x = true := by
  unfold readAtom at h
  dsimp only at h
  split at h
  all_goals first | (cases h; rfl) | skip
  split at h
  · exact isAtom_readUnsigned h
  · exact isAtom_readUnsigned h

lemma formed_readString {s rest : List Char} {x : Json}
    (h : (do let (t, rest) ← readString s; return (Json.str t, rest)) =
      (.ok (x, rest) : Except Stop (Json × List Char))) : Formed x := by
  cases hread : readString s with
  | error stop =>
    rw [hread] at h
    cases h
  | ok read =>
    rw [hread] at h
    cases h
    exact .str (isSettled_of_readString hread)

/-- Elements up to the end of their array, if values are formed that are read with so many steps. -/
lemma formed_readElements {fuel depth : Nat} {done : List Json} {s rest : List Char} {x : Json}
    (hvalue : ∀ fuel' < fuel, ∀ {s y rest}, readValue fuel' depth s = .ok (y, rest) → Formed y)
    (hdone : ∀ y ∈ done, Formed y) (h : readElements fuel depth done s = .ok (x, rest)) :
    Formed x := by
  induction fuel generalizing done s with
  | zero => cases h
  | succ fuel ih =>
    rw [readElements] at h
    split at h
    · cases h
    rename_i y behind hread
    have hall : ∀ z ∈ y :: done, Formed z :=
      List.forall_mem_cons.2 ⟨hvalue fuel (Nat.lt_succ_self fuel) hread, hdone⟩
    split at h
    · cases h
      exact .arr fun z hz => hall z (List.mem_reverse.1 hz)
    · exact ih (fun fuel' hlt => hvalue fuel' (Nat.lt_succ_of_lt hlt)) hall h
    · cases h

/-- Members up to the end of their object. -/
lemma formed_readMembers {fuel depth : Nat} {done : List (Text × Json)} {s rest : List Char}
    {x : Json}
    (hvalue : ∀ fuel' < fuel, ∀ {s y rest}, readValue fuel' depth s = .ok (y, rest) → Formed y)
    (hdone : ∀ m ∈ done, m.1.IsSettled ∧ Formed m.2)
    (h : readMembers fuel depth done s = .ok (x, rest)) : Formed x := by
  induction fuel generalizing done s with
  | zero => cases h
  | succ fuel ih =>
    unfold readMembers at h
    split at h
    · split at h
      · cases h
      rename_i key afterKey hkey
      split at h
      · split at h
        · cases h
        rename_i y behind hread
        have hall : ∀ m ∈ (key, y) :: done, m.1.IsSettled ∧ Formed m.2 :=
          List.forall_mem_cons.2 ⟨⟨isSettled_of_readString hkey,
            hvalue fuel (Nat.lt_succ_self fuel) hread⟩, hdone⟩
        split at h
        · cases h
          exact .merged fun m hm => hall m (List.mem_reverse.1 hm)
        · exact ih (fun fuel' hlt => hvalue fuel' (Nat.lt_succ_of_lt hlt)) hall h
        · cases h
      · cases h
    · cases h

/-- **What is read is formed**, by induction on the bound of steps, which a value shares with its
elements and members. -/
theorem formed_readValue {fuel depth : Nat} {s rest : List Char} {x : Json}
    (h : readValue fuel depth s = .ok (x, rest)) : Formed x := by
  induction fuel using Nat.strong_induction_on generalizing depth s x rest with
  | _ fuel ih =>
    cases fuel with
    | zero => cases h
    | succ fuel =>
      have hvalue : ∀ {depth}, ∀ fuel' < fuel, ∀ {s y rest},
          readValue fuel' depth s = .ok (y, rest) → Formed y := by
        intro depth fuel' hlt s y rest hread
        exact ih fuel' (Nat.lt_succ_of_lt hlt) hread
      unfold readValue at h
      split at h
      · exact formed_readString h
      · split at h
        · cases h
        · split at h
          · cases h
            exact .arr (List.forall_mem_nil _)
          · exact formed_readElements hvalue (List.forall_mem_nil _) h
      · split at h
        · cases h
        · split at h
          · cases h
            exact .obj List.nodup_nil (List.forall_mem_nil _) (List.forall_mem_nil _)
          · exact formed_readMembers hvalue (List.forall_mem_nil _) h
      · exact .atom (isAtom_readAtom h)

/-- What a document holds is formed. -/
lemma formed_of_read {document : List Char} {x : Json} (h : read document = .ok x) : Formed x := by
  rw [read] at h
  split at h
  · cases h
  · cases hread : readValue (2 * document.length + 2) maxDepth (skipSpace document) with
    | error stop =>
      rw [hread] at h
      cases h
    | ok found =>
      obtain ⟨y, rest⟩ := found
      have hformed := formed_readValue hread
      rw [hread] at h
      dsimp only [bind, Except.bind] at h
      split at h
      · cases h
        exact hformed
      · cases h

end Json.Loose

end LanguageHost
