import LanguageHost.Proofs.Folders
import LanguageHost.Proofs.Outbound

/-!
# What a stream shows of folders

A server adds up what it is told of folders: it starts with the folders that it is told first, adds
what is announced as added and drops what is announced as removed. The result is its view. How the
view changes depends on the announcements only, and a list that is sent twice adds nothing the
second time.
-/

namespace LanguageHost

/-! ## Tables -/

section Table

variable {κ α : Type} [DecidableEq κ]

lemma findMember?_append (key : κ) (ms ms' : List (κ × α)) :
    findMember? key (ms ++ ms') = (findMember? key ms).or (findMember? key ms') := by
  induction ms with
  | nil => simp
  | cons m rest ih =>
    rw [List.cons_append, findMember?_cons, findMember?_cons]
    by_cases hm : m.1 = key
    · simp [hm]
    · rw [if_neg hm, if_neg hm, ih]

lemma dropMember_absent {key : κ} {ms : List (κ × α)} (habsent : findMember? key ms = none) :
    dropMember key ms = ms := by
  refine List.filter_eq_self.2 fun m hm => decide_eq_true fun hkey => ?_
  have hsome := (isSome_findMember? key ms).2 (hkey ▸ List.mem_map_of_mem hm)
  rw [habsent] at hsome
  cases hsome

lemma mem_iff_findMember? {ms : List (κ × α)} (hkeys : (ms.map Prod.fst).Nodup) (key : κ)
    (value : α) : (key, value) ∈ ms ↔ findMember? key ms = some value := by
  refine ⟨fun hmem => ?_, mem_of_findMember?⟩
  induction ms with
  | nil => cases hmem
  | cons m rest ih =>
    rw [List.map_cons, List.nodup_cons] at hkeys
    rw [findMember?_cons]
    rcases List.mem_cons.1 hmem with rfl | hrest
    · exact if_pos rfl
    · have hm : m.1 ≠ key := fun hsame =>
        hkeys.1 (hsame ▸ List.mem_map_of_mem hrest)
      rw [if_neg hm]
      exact ih hkeys.2 hrest

end Table

lemma Workspace.mem_of_find? {w : Workspace} {name : String} {p : Project}
    (hfound : w.find? name = some p) : (name, p) ∈ w.projects :=
  mem_of_findMember? hfound

namespace Folders

/-! ## The view -/

/-- The addresses in one of the two lists of an announcement. -/
def urisIn (list : String) (params : Json) : List Text :=
  match (params.member? "event").bind (Json.member? list) with
  | some (.arr folders) => folders.filterMap fun folder => (folder.member? "uri").bind Json.text?
  | _ => []

/-- The view after an announcement. -/
def applyChange (view : List Text) (params : Json) : List Text :=
  (view ++ urisIn "added" params).filter fun uri => uri ∉ urisIn "removed" params

/-- The view of a server to which a stream was sent. -/
def view (l : List Sent) : List Text :=
  (l.filterMap Sent.folders?).foldl applyChange []

lemma filterMap_uris (uris : List String) :
    (uris.map fun uri => Json.object [("uri", .ofString uri)]).filterMap
      (fun folder => (folder.member? "uri").bind Json.text?) = uris.map Text.ofString := by
  induction uris with
  | nil => rfl
  | cons uri rest ih =>
    simp [Json.object, Json.member?, findMember?, Json.ofString, Json.text?] at ih ⊢
    exact ih

@[simp] lemma urisIn_added (added removed : List String) :
    urisIn "added" (changeParams added removed) = added.map Text.ofString := by
  have hlist : ((changeParams added removed).member? "event").bind (Json.member? "added") =
      some (toJson added) := by
    simp [changeParams, Json.object, Json.member?, findMember?]
  rw [urisIn, hlist]
  exact filterMap_uris added

@[simp] lemma urisIn_removed (added removed : List String) :
    urisIn "removed" (changeParams added removed) = removed.map Text.ofString := by
  have hlist : ((changeParams added removed).member? "event").bind (Json.member? "removed") =
      some (toJson removed) := by
    simp [changeParams, Json.object, Json.member?, findMember?]
  rw [urisIn, hlist]
  exact filterMap_uris removed

lemma mem_applyChange (seen : List Text) (added removed : List String) (u : Text) :
    u ∈ applyChange seen (changeParams added removed) ↔
      (u ∈ seen ∨ ∃ uri ∈ added, Text.ofString uri = u) ∧
        ¬ ∃ uri ∈ removed, Text.ofString uri = u := by
  rw [applyChange, List.mem_filter, List.mem_append, urisIn_added, urisIn_removed]
  simp only [List.mem_map, decide_eq_true_eq]

/-- What brings no folders does not change the view. -/
lemma view_append_silent {l l' : List Sent} (hl' : ∀ x ∈ l', x.folders? = none) :
    view (l ++ l') = view l := by
  have hnone : l'.filterMap Sent.folders? = [] := List.filterMap_eq_nil_iff.2 hl'
  rw [view, view, List.filterMap_append, hnone, List.append_nil]

lemma view_snoc (l : List Sent) (x : Sent) :
    view (l ++ [x]) = x.folders?.elim (view l) (applyChange (view l)) := by
  rw [view, view, List.filterMap_append, List.foldl_append]
  cases hx : x.folders? <;> simp [hx]

/-- An announcement, and nothing more about folders behind it. -/
lemma view_append_cons {l rest : List Sent} {x : Sent} {params : Json}
    (hx : x.notice? = some (.folders params)) (hrest : ∀ x ∈ rest, x.folders? = none) :
    view (l ++ x :: rest) = applyChange (view l) params := by
  have hfirst : x.folders? = some params := by
    rw [Sent.folders?, hx]
    rfl
  have hsplit : l ++ x :: rest = (l ++ [x]) ++ rest := by simp
  rw [hsplit, view_append_silent hrest, view_snoc, hfirst]
  rfl

/-- Lists of the same folders bring these folders to the view, however often they are sent. -/
lemma mem_view_append {l l' : List Sent} {uris : List String}
    (hlists : ∀ x ∈ l', ∀ params, x.folders? = some params → params = changeParams uris [])
    (u : Text) : u ∈ view (l ++ l') ↔ u ∈ view l ∨
      (∃ x ∈ l', x.folders?.isSome = true) ∧ ∃ uri ∈ uris, Text.ofString uri = u := by
  induction l' generalizing l with
  | nil => simp
  | cons x rest ih =>
    obtain ⟨hx, hrest⟩ := List.forall_mem_cons.1 hlists
    have hsplit : l ++ x :: rest = (l ++ [x]) ++ rest := by simp
    rw [hsplit, ih hrest, view_snoc]
    simp only [List.mem_cons, exists_eq_or_imp]
    rcases hfolders : x.folders? with _ | params
    · simp
    · obtain rfl := hx params hfolders
      rw [Option.elim_some, mem_applyChange]
      simp only [List.not_mem_nil, false_and, exists_false, not_false_eq_true, and_true,
        Option.isSome_some, true_or, true_and]
      -- the list is known to the view already if it was sent before
      exact ⟨fun hu => hu.elim id fun hlater => Or.inr hlater.2, Or.inl⟩

end Folders

/-- A server that is not told to have started is told nothing of folders. -/
lemma Opened.silent {l : List Sent} (hopened : Opened false l)
    (hstarts : l.any Sent.starts = false) : ∀ x ∈ l, x.folders? = none :=
  fun x hx => (Sent.informs_eq_false.1 (hopened.unheard hstarts x hx)).2

end LanguageHost
