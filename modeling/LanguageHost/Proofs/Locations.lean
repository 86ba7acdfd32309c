import LanguageHost.Proofs.Address
import LanguageHost.Proofs.Places
import LanguageHost.Proofs.Printing
import LanguageHost.Workspace.Resource

/-!
# Locations and their addresses

A path that was read from a text is tidy, and a location is canonical: it is tidy and holds no
parent reference either. A tidy path is read back from its own text, and the canonical form of a
canonical path is the path itself, whatever the current directory is. So a location is decided by
its text.

The address of a location is then its text with the bytes escaped that are not plain, and no other
location has this address.
-/

namespace LanguageHost

namespace Path

/-! ## Tidy and canonical paths -/

/-- An absolute path as it is read from a text: no name is empty or a dot or holds a slash. -/
structure IsTidy (p : Path) : Prop extends p.IsProper where
  noDot : "." ∉ p.names

/-- A tidy path without parent references. -/
structure IsCanonical (p : Path) : Prop extends p.IsTidy where
  noUp : ".." ∉ p.names

variable {p q cwd : Path}

lemma isTidy_ofString {s : String} (habsolute : (Path.ofString s).isAbsolute = true) :
    (Path.ofString s).IsTidy := by
  refine ⟨⟨habsolute, fun name hname => ?_⟩, fun hdot => ?_⟩
  · obtain ⟨hstep, hslash⟩ := names_ofString s name hname
    rw [isStep, Bool.and_eq_true] at hstep
    exact ⟨by simpa using hstep.1, hslash⟩
  · exact absurd (names_ofString s "." hdot).1 (by decide)

lemma startOf_eq_here {cs : List Char} : startOf cs = .here ↔ cs.head? ≠ some '/' := by
  constructor
  · intro hhere hslash
    obtain ⟨rest, rfl⟩ : ∃ rest, cs = '/' :: rest := by
      cases cs with
      | nil => cases hslash
      | cons c rest => exact ⟨rest, by rw [Option.some.inj hslash]⟩
    unfold startOf at hhere
    split at hhere
    · cases hhere
    · cases hhere
    · cases hhere
    · next hnone => exact hnone rest rfl
  · intro hslash
    unfold startOf
    split
    · exact absurd rfl hslash
    · exact absurd rfl hslash
    · exact absurd rfl hslash
    · rfl

/-- A text is absolute if a slash comes first. -/
lemma isAbsolute_ofString {s : String} :
    (Path.ofString s).isAbsolute = true ↔ s.toList.head? = some '/' := by
  rw [isAbsolute, decide_eq_true_iff]
  exact (not_congr startOf_eq_here).trans not_not

/-- Seen from a tidy place, what a text says is tidy. -/
lemma IsTidy.absolute_ofString (hcwd : cwd.IsTidy) (s : String) :
    ((Path.ofString s).absolute cwd).IsTidy := by
  by_cases habsolute : (Path.ofString s).isAbsolute = true
  · rw [Path.absolute, append, if_pos habsolute]
    exact isTidy_ofString habsolute
  · rw [Path.absolute, append, if_neg habsolute]
    have hread := names_ofString s
    refine ⟨⟨hcwd.absolute, fun name hname => ?_⟩, fun hdot => ?_⟩
    · rcases List.mem_append.1 hname with hold | hnew
      · exact hcwd.names name hold
      · obtain ⟨hstep, hslash⟩ := hread name hnew
        rw [isStep, Bool.and_eq_true] at hstep
        exact ⟨by simpa using hstep.1, hslash⟩
    · rcases List.mem_append.1 hdot with hold | hnew
      · exact hcwd.noDot hold
      · exact absurd (hread "." hnew).1 (by decide)

/-! ## Parent references -/

/-- No parent reference is left by walking. -/
lemma up_not_mem_foldl (names : List String) {done : List String} (hdone : ".." ∉ done) :
    ".." ∉ names.foldl walkName done := by
  induction names generalizing done with
  | nil => exact hdone
  | cons name rest ih =>
    apply ih
    rw [walkName]
    split
    · exact fun hmem => hdone (List.dropLast_subset _ hmem)
    · next hname =>
      intro hmem
      rcases List.mem_append.1 hmem with hold | hnew
      · exact hdone hold
      · exact hname (List.mem_singleton.1 hnew).symm

/-- Names without parent references are walked one after another. -/
lemma foldl_walkName {names : List String} (hnames : ".." ∉ names) (done : List String) :
    names.foldl walkName done = done ++ names := by
  induction names generalizing done with
  | nil => exact (List.append_nil done).symm
  | cons name rest ih =>
    obtain ⟨hname, hrest⟩ := not_or.1 (List.mem_cons.not.1 hnames)
    rw [List.foldl_cons, walkName, if_neg (Ne.symm hname), ih hrest, List.append_assoc]
    rfl

lemma canonical_of_not_mem (hup : ".." ∉ (p.absolute cwd).names) :
    p.canonical cwd = p.absolute cwd := by
  rw [canonical, foldl_walkName hup]
  rfl

/-- Seen from a tidy place, the location of a text is canonical. -/
lemma IsTidy.canonical_ofString (hcwd : cwd.IsTidy) (s : String) :
    ((Path.ofString s).canonical cwd).IsCanonical := by
  have htidy := hcwd.absolute_ofString s
  refine ⟨⟨isProper_canonical s hcwd.toIsProper, fun hdot => ?_⟩,
    up_not_mem_foldl _ List.not_mem_nil⟩
  exact htidy.noDot ((names_foldl_walkName _ [] "." hdot).resolve_left List.not_mem_nil)

/-- A canonical path is its own canonical form, wherever it is seen from. -/
lemma IsCanonical.canonical (hp : p.IsCanonical) (cwd : Path) : p.canonical cwd = p := by
  have habsolute : p.absolute cwd = p := by
    rw [Path.absolute, append, if_pos hp.absolute]
  rw [canonical_of_not_mem (by rw [habsolute]; exact hp.noUp), habsolute]

/-- A path is its own canonical form exactly if no parent reference is on the way. -/
lemma canonical_eq_absolute_iff :
    p.canonical cwd = p.absolute cwd ↔ ".." ∉ (p.absolute cwd).names := by
  refine ⟨fun hsame => ?_, canonical_of_not_mem⟩
  rw [← hsame]
  exact up_not_mem_foldl _ List.not_mem_nil

/-! ## The text of a tidy path -/

/-- A text begins with two slashes and no third. -/
def BeginsDoubled (s : String) : Prop :=
  ['/', '/'] <+: s.toList ∧ ¬ ['/', '/', '/'] <+: s.toList

instance (s : String) : Decidable (BeginsDoubled s) :=
  inferInstanceAs (Decidable (_ ∧ _))

/-- One slash is the root, two are a start of their own. -/
lemma startOf_slashes {l : List Char} (hl : l.head? ≠ some '/') :
    startOf ('/' :: l) = .root ∧ startOf ('/' :: '/' :: l) = .doubleRoot := by
  constructor
  · unfold startOf
    split
    · rfl
    · next heq =>
      cases heq
      exact absurd rfl hl
    · rfl
    · next hnone => exact absurd rfl (hnone l)
  · unfold startOf
    split
    · next heq =>
      cases heq
      exact absurd rfl hl
    · rfl
    · next rest _ hnone heq =>
      cases heq
      exact absurd rfl (hnone l)
    · next hnone => exact absurd rfl (hnone _)

lemma startOf_eq_doubleRoot {s : String} :
    startOf s.toList = .doubleRoot ↔ BeginsDoubled s := by
  rw [BeginsDoubled]
  constructor
  · intro hstart
    unfold startOf at hstart
    split at hstart
    · cases hstart
    · next rest hnot heq =>
      rw [heq]
      refine ⟨⟨rest, rfl⟩, ?_⟩
      rintro ⟨more, hmore⟩
      exact hnot more (List.cons.inj (List.cons.inj hmore).2).2.symm
    · cases hstart
    · cases hstart
  · rintro ⟨⟨rest, hs⟩, hthree⟩
    rw [← hs] at hthree ⊢
    refine (startOf_slashes fun hslash => hthree ?_).2
    cases rest with
    | nil => cases hslash
    | cons c rest => exact ⟨rest, by rw [Option.some.inj hslash]; rfl⟩

/-- The location of a text starts where the text does, or, if this is relative, where the current
directory starts. -/
lemma start_canonical (s d : String) :
    ((Path.ofString s).canonical (Path.ofString d)).start =
      startOf (if s.toList.head? = some '/' then s else d).toList := by
  change ((Path.ofString d).append (Path.ofString s)).start = _
  by_cases habsolute : s.toList.head? = some '/'
  · rw [append, if_pos (isAbsolute_ofString.2 habsolute), if_pos habsolute]
    rfl
  · rw [append, if_neg (mt isAbsolute_ofString.1 habsolute), if_neg habsolute]
    rfl

lemma text_of_absolute (habsolute : p.isAbsolute = true) :
    p.text = p.start.text ++ "/".intercalate p.names := by
  have hstart : ¬ (p.start = .here) := by simpa [isAbsolute] using habsolute
  rw [text, if_neg (by simp [hstart])]

/-- In front of the names of a location there are two slashes if these were there, else one. -/
lemma text_canonical {s d : String} (habsolute : ((Path.ofString s).canonical
    (Path.ofString d)).isAbsolute = true) :
    ((Path.ofString s).canonical (Path.ofString d)).text =
      (if BeginsDoubled (if s.toList.head? = some '/' then s else d) then "//" else "/") ++
        "/".intercalate ((Path.ofString s).canonical (Path.ofString d)).names := by
  have hstart := start_canonical s d
  rw [text_of_absolute habsolute]
  congr 1
  by_cases hdoubled : BeginsDoubled (if s.toList.head? = some '/' then s else d)
  · rw [if_pos hdoubled, hstart, startOf_eq_doubleRoot.2 hdoubled]
    rfl
  · rw [if_neg hdoubled]
    cases hkind : ((Path.ofString s).canonical (Path.ofString d)).start with
    | here => exact absurd habsolute (by rw [isAbsolute, hkind]; decide)
    | root => rfl
    | doubleRoot => exact absurd (startOf_eq_doubleRoot.1 (hstart.symm.trans hkind)) hdoubled

/-- What begins with a name that holds no slash does not begin with a slash. -/
lemma head?_intercalate {parts : List (List Char)} (hempty : ∀ part ∈ parts, part ≠ [])
    (hslash : ∀ part ∈ parts, '/' ∉ part) : (['/'].intercalate parts).head? ≠ some '/' := by
  cases parts with
  | nil => simp
  | cons part rest =>
    obtain ⟨hpart, -⟩ := List.forall_mem_cons.1 hempty
    obtain ⟨hfree, -⟩ := List.forall_mem_cons.1 hslash
    obtain ⟨c, more, rfl⟩ := List.exists_cons_of_ne_nil hpart
    have hhead : (['/'].intercalate ((c :: more) :: rest)).head? = some c := by
      cases rest <;> simp
    rw [hhead]
    intro hc
    exact hfree (by rw [Option.some.inj hc]; exact List.mem_cons_self)

/-- **A tidy path is read back from its text.** -/
theorem IsTidy.ofString_text (hp : p.IsTidy) : Path.ofString p.text = p := by
  set parts := p.names.map String.toList with hparts
  have hslash : ∀ part ∈ parts, '/' ∉ part := by
    simpa [hparts] using fun name hname => (hp.names name hname).2
  have hempty : ∀ part ∈ parts, part ≠ [] := by
    intro part hpart
    obtain ⟨name, hname, rfl⟩ := List.mem_map.1 hpart
    exact (hp.names name hname).1
  have hsteps : ∀ part ∈ parts, isStep part = true := by
    intro part hpart
    obtain ⟨name, hname, rfl⟩ := List.mem_map.1 hpart
    rw [isStep, Bool.and_eq_true, decide_eq_true_iff, decide_eq_true_iff]
    refine ⟨(hp.names name hname).1, fun hdot => hp.noDot ?_⟩
    rwa [← String.toList_inj.1 (show name.toList = ".".toList from hdot)]
  have hhead := head?_intercalate hempty hslash
  have hsplit : (splitSlashes [] (['/'].intercalate parts)).filter isStep = parts := by
    rcases hnone : parts with _ | ⟨part, rest⟩
    · rfl
    · rw [← hnone, splitSlashes_intercalate hslash (by rw [hnone]; exact List.cons_ne_nil _ _)]
      exact List.filter_eq_self.2 hsteps
  have hnames : parts.map String.ofList = p.names := by
    rw [hparts, List.map_map]
    simp
  have hlist : p.text.toList = p.start.text.toList ++ ['/'].intercalate parts := by
    rw [text_of_absolute hp.absolute, String.toList_append, String.toList_intercalate]
    rfl
  have hstart : startOf p.text.toList = p.start := by
    rw [hlist]
    cases hkind : p.start with
    | here => exact absurd hp.absolute (by rw [isAbsolute, hkind]; decide)
    | root => exact (startOf_slashes hhead).1
    | doubleRoot => exact (startOf_slashes hhead).2
  have hread : (splitSlashes [] p.text.toList).filter isStep = parts := by
    rw [hlist]
    cases hkind : p.start with
    | here => exact hsplit
    | root => exact hsplit
    | doubleRoot => exact hsplit
  exact congrArg₂ Path.mk hstart (by rw [hread, hnames])

/-- Tidy paths with the same text are the same. -/
lemma IsTidy.text_inj (hp : p.IsTidy) (hq : q.IsTidy) : p.text = q.text ↔ p = q := by
  refine ⟨fun htext => ?_, congrArg text⟩
  rw [← hp.ofString_text, htext, hq.ofString_text]

/-- Tidy paths with the same address are the same. -/
lemma IsTidy.uri_inj (hp : p.IsTidy) (hq : q.IsTidy) : p.uri = q.uri ↔ p = q :=
  ⟨fun huri => (hp.text_inj hq).1 (uri_injective huri), congrArg uri⟩

end Path

/-! ## Resources -/

open LanguageHost.Path (BeginsDoubled Escaped unescape?)

namespace Resource

/-- The resource at the place that a text says, seen from a current directory. -/
def atText (cwd s name : String) (type : ResourceType) (hidden : Bool) : Resource :=
  standalone (Path.ofString cwd) name type (some (Path.ofString s)) hidden

/-- **Locations are canonical, and addresses are faithful.** A resource at any text lies at an
absolute path on which no name is empty or a dot or a parent reference, with two slashes in front
exactly if these were there. The resource at that path, or at its text, lies there too. The address
is `file://` and the text of the location, in which every byte that is not plain is escaped, and
undoing the escapes gives the bytes of that text. So two resources have the same address exactly if
they lie at the same path. -/
theorem locations_canonical {cwd : String} (hcwd : cwd.toList.head? = some '/') (s name : String)
    (type : ResourceType) (hidden : Bool) :
    let r := atText cwd s name type hidden
    ∃ location, r.location = some location ∧ location.IsCanonical ∧
      location.text = (if BeginsDoubled (if s.toList.head? = some '/' then s else cwd) then "//"
        else "/") ++ "/".intercalate location.names ∧
      (∀ (cwd' name' : String) (type' : ResourceType) (hidden' : Bool),
        (atText cwd' location.text name' type' hidden').location = some location ∧
        (standalone (Path.ofString cwd') name' type' (some location) hidden').location =
          some location) ∧
      (∃ body, r.uri? = some ("file://" ++ String.ofList body) ∧
        Escaped (Utf8.encodeString location.text) body ∧
        unescape? body = some (Utf8.encodeString location.text)) ∧
      ∀ {cwd' : String} (s' name' : String) (type' : ResourceType) (hidden' : Bool),
        cwd'.toList.head? = some '/' →
          let r' := atText cwd' s' name' type' hidden'
          (r.uri? = r'.uri? ↔ r.location = r'.location) := by
  intro r
  have htidy : ∀ {d : String}, d.toList.head? = some '/' → (Path.ofString d).IsTidy := fun hd =>
    Path.isTidy_ofString (Path.isAbsolute_ofString.2 hd)
  have hcanonical := (htidy hcwd).canonical_ofString s
  set location := (Path.ofString s).canonical (Path.ofString cwd) with hlocation
  have hfixed : ∀ cwd', location.canonical cwd' = location := hcanonical.canonical
  refine ⟨location, rfl, hcanonical, ?_, fun cwd' name' type' hidden' => ⟨?_, ?_⟩,
    ⟨_, rfl, Path.escaped_flatMap _⟩, fun s' name' type' hidden' hcwd' => ?_⟩
  · exact Path.text_canonical hcanonical.absolute
  · rw [atText, standalone, hcanonical.ofString_text, Option.map_some, hfixed]
  · rw [standalone, Option.map_some, hfixed]
  · intro r'
    have hother := (htidy hcwd').canonical_ofString s'
    change some location.uri = some _ ↔ some location = some _
    rw [Option.some.injEq, Option.some.injEq]
    exact hcanonical.uri_inj hother.toIsTidy

/-- In a folder with two slashes in front, a text goes up and down and through empty names. The
location keeps the two slashes, and what is not plain in it is escaped. -/
theorem location_below_two_slashes :
    let r := atText "//w/x" "a/..//../é%/. " "p" .project false
    "//w/x".toList.head? = some '/' ∧ r.location = some (Path.ofString "//w/é%/. ") ∧
      r.uri? = some "file:////w/%C3%A9%25/.%20" ∧
      unescape? "//w/%C3%A9%25/.%20".toList = some (Utf8.encodeString "//w/é%/. ") ∧
      (r.uri? = (atText "/" "/w/é%/. " "p" .project false).uri? ↔
        r.location = (atText "/" "/w/é%/. " "p" .project false).location) := by
  intro r
  have hcwd : "//w/x".toList.head? = some '/' := by decide
  obtain ⟨location, hlocation, -, -, -, ⟨body, huri, -, hread⟩, hsame⟩ :=
    locations_canonical hcwd "a/..//../é%/. " "p" .project false
  have hplace : r.location = some (Path.ofString "//w/é%/. ") := rfl
  have haddress : r.uri? = some ("file://" ++ "//w/%C3%A9%25/.%20") := rfl
  have hbody : String.ofList body = "//w/%C3%A9%25/.%20" :=
    (String.append_right_inj _).1 (Option.some.inj (huri.symm.trans haddress))
  have htext : location.text = "//w/é%/. " := by
    rw [Option.some.inj (hlocation.symm.trans hplace)]
    rfl
  refine ⟨hcwd, hplace, haddress, ?_, hsame "/w/é%/. " "p" .project false (by decide)⟩
  rw [← hbody, String.toList_ofList, hread, htext]

end Resource

end LanguageHost
