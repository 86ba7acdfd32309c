/-!
# Members in order

The members of an object, and every other table by key, are pairs in the order in which the keys
came. Putting a value under a key that is there changes it in place, and puts a new key at the end.
Nothing in the type keeps a key from being repeated: a reader may want to look at each occurrence
before `mergeMembers` leaves one member per key, with the last value at the place of the first.

The lemmas say what each change does to the two views of a table: the value under a key, and the
keys in order.
-/

namespace LanguageHost

variable {κ α : Type} [DecidableEq κ]

/-- The value under a key. -/
def findMember? (key : κ) : List (κ × α) → Option α
  | [] => none
  | m :: rest => if m.1 = key then some m.2 else findMember? key rest

/-- Puts a value under a key: in place if the key is there, at the end otherwise. -/
def putMember (key : κ) (value : α) : List (κ × α) → List (κ × α)
  | [] => [(key, value)]
  | m :: rest => if m.1 = key then (key, value) :: rest else m :: putMember key value rest

/-- The members without the one under a key. -/
def dropMember (key : κ) (members : List (κ × α)) : List (κ × α) :=
  members.filter fun m => m.1 ≠ key

/-- One member per key, in the order of first occurrence and with the last value. -/
def mergeMembers (members : List (κ × α)) : List (κ × α) :=
  members.foldl (fun done m => putMember m.1 m.2 done) []

/-! ## The value under a key -/

@[simp] theorem findMember?_nil (key : κ) : findMember? key ([] : List (κ × α)) = none := rfl

theorem findMember?_cons (key : κ) (m : κ × α) (rest : List (κ × α)) :
    findMember? key (m :: rest) = if m.1 = key then some m.2 else findMember? key rest := rfl

/-- A change is seen under its own key and under no other one. -/
theorem findMember?_putMember (key other : κ) (value : α) (members : List (κ × α)) :
    findMember? other (putMember key value members) =
      if key = other then some value else findMember? other members := by
  induction members with
  | nil => simp [putMember, findMember?_cons]
  | cons m rest ih => grind [putMember, findMember?]

theorem findMember?_dropMember (key other : κ) (members : List (κ × α)) :
    findMember? other (dropMember key members) =
      if key = other then none else findMember? other members := by
  induction members with
  | nil => simp [dropMember]
  | cons m rest ih => grind [dropMember, findMember?]

theorem isSome_findMember? (key : κ) (members : List (κ × α)) :
    (findMember? key members).isSome = true ↔ key ∈ members.map Prod.fst := by
  induction members with
  | nil => simp
  | cons m rest ih => grind [findMember?]

theorem mem_of_findMember? {key : κ} {value : α} {members : List (κ × α)}
    (hfound : findMember? key members = some value) : (key, value) ∈ members := by
  induction members with
  | nil => cases hfound
  | cons m rest ih =>
    rw [findMember?_cons] at hfound
    by_cases hm : m.1 = key
    · rw [if_pos hm] at hfound
      exact List.mem_cons.2 (Or.inl (by rw [← hm, ← Option.some.inj hfound]))
    · rw [if_neg hm] at hfound
      exact List.mem_cons_of_mem m (ih hfound)

/-! ## The keys in order -/

theorem keys_putMember (key : κ) (value : α) (members : List (κ × α)) :
    (putMember key value members).map Prod.fst =
      if key ∈ members.map Prod.fst then members.map Prod.fst
      else members.map Prod.fst ++ [key] := by
  induction members with
  | nil => simp [putMember]
  | cons m rest ih => grind [putMember]

theorem keys_dropMember (key : κ) (members : List (κ × α)) :
    (dropMember key members).map Prod.fst = (members.map Prod.fst).filter (· ≠ key) := by
  rw [dropMember, List.filter_map]
  rfl

theorem nodup_keys_putMember (key : κ) (value : α) {members : List (κ × α)}
    (h : (members.map Prod.fst).Nodup) : ((putMember key value members).map Prod.fst).Nodup := by
  rw [keys_putMember]
  split
  · exact h
  · rename_i absent
    exact List.nodup_append.2 ⟨h, by simp, by grind⟩

/-- Merging leaves no key repeated. -/
theorem nodup_keys_mergeMembers (members : List (κ × α)) :
    ((mergeMembers members).map Prod.fst).Nodup := by
  suffices h : ∀ done : List (κ × α), (done.map Prod.fst).Nodup →
      ((members.foldl (fun done m => putMember m.1 m.2 done) done).map Prod.fst).Nodup from
    h [] List.nodup_nil
  induction members with
  | nil => exact fun _ h => h
  | cons m rest ih => exact fun done h => ih _ (nodup_keys_putMember m.1 m.2 h)

/-! ## The members themselves -/

theorem mem_putMember {key : κ} {value : α} {members : List (κ × α)} {m : κ × α}
    (h : m ∈ putMember key value members) : m = (key, value) ∨ m ∈ members := by
  induction members with
  | nil => simpa [putMember] using h
  | cons other rest ih => grind [putMember]

/-- A new key goes to the end. -/
theorem putMember_absent {key : κ} (value : α) {members : List (κ × α)}
    (h : key ∉ members.map Prod.fst) : putMember key value members = members ++ [(key, value)] := by
  induction members with
  | nil => rfl
  | cons m rest ih => grind [putMember]

/-! ## Merging -/

theorem mergeMembers_concat (members : List (κ × α)) (m : κ × α) :
    mergeMembers (members ++ [m]) = putMember m.1 m.2 (mergeMembers members) := by
  rw [mergeMembers, List.foldl_append]
  rfl

theorem eraseDups_concat (keys : List κ) (key : κ) : (keys ++ [key]).eraseDups =
    if key ∈ keys then keys.eraseDups else keys.eraseDups ++ [key] := by
  rw [List.eraseDups_append]
  split
  · rename_i hkey
    simp [List.removeAll, hkey]
  · rename_i hkey
    simp [List.removeAll, hkey, List.eraseDups_cons]

/-- What merging is to do: each key stands where it comes first, with the value that it has last. -/
structure Merges (members merged : List (κ × α)) : Prop where
  keys : merged.map Prod.fst = (members.map Prod.fst).eraseDups
  values : ∀ key, findMember? key merged = findMember? key members.reverse

/-- Merging keeps each key at the place of its first occurrence. -/
theorem keys_mergeMembers (members : List (κ × α)) :
    (mergeMembers members).map Prod.fst = (members.map Prod.fst).eraseDups := by
  suffices h : ∀ reversed : List (κ × α), (mergeMembers reversed.reverse).map Prod.fst =
      (reversed.reverse.map Prod.fst).eraseDups by simpa using h members.reverse
  intro reversed
  induction reversed with
  | nil => rfl
  | cons m rest ih =>
    rw [List.reverse_cons, mergeMembers_concat, keys_putMember, ih, List.map_append,
      List.map_singleton, eraseDups_concat]
    simp only [List.mem_eraseDups]

/-- Merging keeps the last value under each key. -/
theorem findMember?_mergeMembers (key : κ) (members : List (κ × α)) :
    findMember? key (mergeMembers members) = findMember? key members.reverse := by
  suffices h : ∀ reversed : List (κ × α), findMember? key (mergeMembers reversed.reverse) =
      findMember? key reversed by simpa using h members.reverse
  intro reversed
  induction reversed with
  | nil => rfl
  | cons m rest ih =>
    rw [List.reverse_cons, mergeMembers_concat, findMember?_putMember, ih, findMember?_cons]

theorem findMember?_eq_none {key : κ} {members : List (κ × α)}
    (h : key ∉ members.map Prod.fst) : findMember? key members = none := by
  rwa [← Option.not_isSome_iff_eq_none, isSome_findMember?]

/-- Two tables without repeated keys are the same if they have the same keys in the same order and
the same value under each key. -/
theorem eq_of_findMember? {members others : List (κ × α)} (hnodup : (members.map Prod.fst).Nodup)
    (hkeys : members.map Prod.fst = others.map Prod.fst)
    (hvalues : ∀ key, findMember? key members = findMember? key others) : members = others := by
  induction members generalizing others with
  | nil => exact (List.map_eq_nil_iff.1 hkeys.symm).symm
  | cons m rest ih =>
    obtain ⟨key, value⟩ := m
    obtain ⟨⟨other, value'⟩, others, rfl, rfl, hrest⟩ := List.map_eq_cons_iff.1 hkeys.symm
    obtain ⟨habsent, hnodup⟩ := List.nodup_cons.1 hnodup
    have hvalue := hvalues other
    simp only [findMember?_cons, if_true, Option.some.injEq] at hvalue
    rw [hvalue, ih hnodup hrest.symm fun key => ?_]
    by_cases hkey : other = key
    · rw [← hkey, findMember?_eq_none habsent, findMember?_eq_none (hrest ▸ habsent)]
    · simpa [findMember?_cons, hkey] using hvalues key

/-- Merging brings nothing in. -/
theorem mem_mergeMembers {members : List (κ × α)} {m : κ × α} (h : m ∈ mergeMembers members) :
    m ∈ members := by
  suffices hall : ∀ reversed : List (κ × α), m ∈ mergeMembers reversed.reverse →
      m ∈ reversed.reverse by simpa using hall members.reverse (by simpa using h)
  intro reversed
  induction reversed with
  | nil => exact id
  | cons other rest ih =>
    intro h
    rw [List.reverse_cons, mergeMembers_concat] at h
    rw [List.reverse_cons, List.mem_append, List.mem_singleton]
    exact (mem_putMember h).symm.imp_left ih

/-- Where no key is repeated there is nothing to merge. -/
theorem mergeMembers_of_nodup {members : List (κ × α)} (h : (members.map Prod.fst).Nodup) :
    mergeMembers members = members := by
  suffices hall : ∀ reversed : List (κ × α), (reversed.reverse.map Prod.fst).Nodup →
      mergeMembers reversed.reverse = reversed.reverse by
    simpa using hall members.reverse (by simpa using h)
  intro reversed
  induction reversed with
  | nil => exact fun _ => rfl
  | cons m rest ih =>
    intro h
    rw [List.reverse_cons, List.map_append, List.map_singleton] at h
    obtain ⟨hrest, -, hapart⟩ := List.nodup_append.1 h
    have habsent : m.1 ∉ rest.reverse.map Prod.fst := fun hmem => hapart _ hmem _ (by simp) rfl
    rw [List.reverse_cons, mergeMembers_concat, ih hrest, putMember_absent _ habsent]

/-- Merging does what it is to do, and nothing else does. -/
theorem merges_iff {members merged : List (κ × α)} :
    Merges members merged ↔ merged = mergeMembers members := by
  constructor
  · rintro ⟨hkeys, hvalues⟩
    refine (eq_of_findMember? (nodup_keys_mergeMembers members) ?_ fun key => ?_).symm
    · rw [keys_mergeMembers, hkeys]
    · rw [findMember?_mergeMembers, hvalues]
  · rintro rfl
    exact ⟨keys_mergeMembers members, fun key => findMember?_mergeMembers key members⟩

end LanguageHost
