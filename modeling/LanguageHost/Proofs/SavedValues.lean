import LanguageHost.Proofs.Loading
import LanguageHost.Proofs.PreferenceLog
import LanguageHost.Proofs.View

/-!
# Which values are saved

Saving writes the stored values as they are, and what is stored is meant to differ from its default.
Setting a value sees to that. Setting a default does not look at the value that is stored, and
loading does not look at the defaults, so both can leave a value beside an equal default, which is
then saved with the others.

Such a use of a store slips. Nothing that a key shows is ever lost from the file, and nothing else
is written under a key; up to the first slip the file holds exactly what differs.
-/

namespace LanguageHost

open Act Host

variable {γ : Type}

/-- A use of a store: a default is set, a preference is set or set to its default, the store loads
its file or saves to it, or the machine is left with other files by somebody else. -/
inductive StoreUse where
  | setDefault (key value : Text)
  | make (call : PreferenceCall)
  | load
  | save
  | elsewhere (p : Platform)

/-- The values in the file of a store, if there is a file and it can be loaded. -/
def Host.filedValues? (st : Nat) (h : Host γ) : Option (List (Text × Text)) :=
  (Preferences.load (h.store st).path h.platform).1.toOption.join

namespace PreferenceStore

variable {store : PreferenceStore}

/-- The members of the object that a store is saved as. -/
def document (store : PreferenceStore) : List (Text × Json) :=
  store.values.map fun v => (v.1, .str v.2)

/-- The store is saved as the keys that show something else than their default, each once and with
what it shows. -/
def SavedExactly (store : PreferenceStore) : Prop :=
  (store.document.map Prod.fst).Nodup ∧ ∀ key x, (key, x) ∈ store.document ↔
    store.get key ≠ store.getDefault key ∧ x = .str (store.get key)

lemma keys_document : store.document.map Prod.fst = store.values.map Prod.fst := by
  rw [document, List.map_map]
  rfl

/-- What is saved under a key is what it shows. -/
lemma mem_document (hkeys : (store.values.map Prod.fst).Nodup) {key : Text} {x : Json} :
    (key, x) ∈ store.document ↔
      (findMember? key store.values).isSome = true ∧ x = .str (store.get key) := by
  rw [document, List.mem_map]
  constructor
  · rintro ⟨⟨_, value⟩, hv, hpair⟩
    obtain ⟨rfl, rfl⟩ := Prod.mk.inj hpair
    have hfound := (mem_iff_findMember? hkeys _ _).1 hv
    rw [PreferenceStore.get, hfound]
    exact ⟨rfl, rfl⟩
  · rintro ⟨hsome, rfl⟩
    obtain ⟨value, hfound⟩ := Option.isSome_iff_exists.1 hsome
    refine ⟨(key, value), mem_of_findMember? hfound, ?_⟩
    rw [PreferenceStore.get, hfound]
    rfl

/-- What a key shows beside its default is stored. -/
lemma isSome_of_get_ne {key : Text} (hdiffers : store.get key ≠ store.getDefault key) :
    (findMember? key store.values).isSome = true := by
  rw [Option.isSome_iff_ne_none]
  intro hnone
  apply hdiffers
  rw [PreferenceStore.get, hnone]
  rfl

lemma savedExactly_iff (hkeys : (store.values.map Prod.fst).Nodup) :
    store.SavedExactly ↔ store.Overriding := by
  rw [SavedExactly, keys_document]
  constructor
  · rintro ⟨-, hexact⟩ key value hfound
    have hget : store.get key = value := by
      rw [PreferenceStore.get, hfound]
      rfl
    have hsaved : (key, .str (store.get key)) ∈ store.document :=
      (mem_document hkeys).2 ⟨by rw [hfound]; rfl, rfl⟩
    rw [← hget]
    exact ((hexact key _).1 hsaved).1
  · intro hstore
    refine ⟨hkeys, fun key x => ?_⟩
    rw [mem_document hkeys]
    refine and_congr_left fun _ => ⟨fun hsome => ?_, isSome_of_get_ne⟩
    obtain ⟨value, hfound⟩ := Option.isSome_iff_exists.1 hsome
    rw [PreferenceStore.get, hfound]
    exact hstore key value hfound

/-- Setting a default keeps the stored values apart from the defaults exactly if the default is not
the value that is stored under its key. -/
lemma overriding_setDefault_iff (hstore : store.Overriding) (key value : Text) :
    (store.setDefault key value).Overriding ↔ findMember? key store.values ≠ some value := by
  have hdefault : ∀ other, (store.setDefault key value).getDefault other =
      if key = other then value else store.getDefault other := by
    intro other
    simp only [getDefault, setDefault, findMember?_putMember]
    split <;> rfl
  constructor
  · intro hafter hstored
    apply hafter key value hstored
    rw [hdefault, if_pos rfl]
  · intro hother other stored hfound
    rw [hdefault]
    split
    · next hkey =>
      rintro rfl
      exact hother (hkey ▸ hfound)
    · exact hstore other stored hfound

end PreferenceStore

namespace StoreUse

/-- Makes use of a store. -/
def perform (react : List γ → Act γ Unit) (st : Nat) : StoreUse → Act γ Unit
  | setDefault key value => modify fun h => h.setStore st ((h.store st).setDefault key value)
  | make call => call.perform react st
  | load => loadPreferences st
  | save => savePreferences st
  | elsewhere p => modify fun h => { h with platform := p }

/-- What some uses lead to, whether or not each of them succeeds. -/
def after (react : List γ → Act γ Unit) (st : Nat) (h : Host γ) (uses : List StoreUse) : Host γ :=
  uses.foldl (fun h use => (use.perform react st h).2) h

/-- The use leaves a stored value beside an equal default: this default is set, or this value is
loaded. -/
def Slips (st : Nat) (h : Host γ) : StoreUse → Prop
  | setDefault key value => findMember? key (h.store st).values = some value
  | load => ∃ values, h.filedValues? st = some values ∧
      ∃ key, findMember? key values = some ((h.store st).getDefault key)
  | _ => False

/-- None of the uses slips when it is made. -/
def SlipFree (react : List γ → Act γ Unit) (st : Nat) : Host γ → List StoreUse → Prop
  | _, [] => True
  | h, use :: rest => ¬ use.Slips st h ∧ SlipFree react st (use.perform react st h).2 rest

/-- What the store is after a use. -/
def result (st : Nat) (h : Host γ) : StoreUse → PreferenceStore
  | setDefault key value => (h.store st).setDefault key value
  | make call => (h.store st).write call.key (call.value (h.store st))
  | load => (h.filedValues? st).elim (h.store st) fun values => { h.store st with values }
  | _ => h.store st

/-- A store that can be used: no listener meddles with it, and no key is stored twice. -/
structure Usable (react : List γ → Act γ Unit) (st : Nat) (h : Host γ) : Prop where
  store : st < h.stores.length
  unmeddled : h.Unmeddled react st
  keys : ((h.store st).values.map Prod.fst).Nodup

variable {react : List γ → Act γ Unit} {st : Nat} {h h' : Host γ}

/-! ## One use -/

/-- What a use makes of a host, apart from the machine and what listeners send. -/
structure Makes (st : Nat) (store : PreferenceStore) (h h' : Host γ) : Prop where
  store : h'.store st = store
  length : h'.stores.length = h.stores.length
  listeners : h'.listeners = h.listeners

lemma makes_setStore (hst : st < h.stores.length) (store : PreferenceStore) :
    Makes st store h (h.setStore st store) := by
  refine ⟨?_, ?_, rfl⟩
  · rw [store_setStore, if_pos ⟨rfl, hst⟩]
  · exact List.length_set

lemma makes_load (hst : st < h.stores.length) :
    Makes st (load.result st h) h (loadPreferences st h).2 := by
  have hvalues : load.result st h = (h.filedValues? st).elim (h.store st) fun values =>
      { h.store st with values } := rfl
  rw [hvalues, filedValues?]
  rcases hload : Preferences.load (h.store st).path h.platform with ⟨fault | found, p⟩
  · rw [loadPreferences_error hload]
    exact ⟨rfl, rfl, rfl⟩
  · obtain ⟨rfl, -⟩ := Preferences.load_eq_ok.1 hload
    cases found with
    | none =>
      rw [loadPreferences_none hload]
      exact ⟨rfl, rfl, rfl⟩
    | some values =>
      rw [loadPreferences_some values hload]
      exact makes_setStore hst _

lemma Usable.makes (hu : Usable react st h) (use : StoreUse) :
    Makes st (use.result st h) h (use.perform react st h).2 := by
  cases use with
  | setDefault key value => exact makes_setStore hu.store _
  | make call =>
    have a := PreferenceCall.spared_perform hu.store hu.unmeddled call
    refine ⟨PreferenceCall.store_perform_unmeddled hu.store hu.unmeddled call, ?_, a.listeners⟩
    have hstores : (call.perform react st h).2.stores = (call.written st h).stores := a.part
    change (call.perform react st h).2.stores.length = _
    rw [hstores]
    exact List.length_set
  | load => exact makes_load hu.store
  | save => exact ⟨rfl, rfl, rfl⟩
  | elsewhere p => exact ⟨rfl, rfl, rfl⟩

lemma bus_result (use : StoreUse) : (use.result st h).bus = (h.store st).bus := by
  cases use with
  | make call => exact Change.bus_write _ _ _
  | load =>
    rw [result]
    cases h.filedValues? st <;> rfl
  | _ => rfl

lemma nodup_keys_filedValues {values : List (Text × Text)}
    (hfiled : h.filedValues? st = some values) : (values.map Prod.fst).Nodup := by
  rw [filedValues?] at hfiled
  rcases hload : Preferences.load (h.store st).path h.platform with ⟨fault | found, p⟩
  · rw [hload] at hfiled
    cases hfiled
  · rw [hload] at hfiled
    obtain rfl : found = some values := hfiled
    exact (Preferences.storable_of_load hload).keys

lemma Usable.keys_result (hu : Usable react st h) (use : StoreUse) :
    ((use.result st h).values.map Prod.fst).Nodup := by
  cases use with
  | make call =>
    rw [result, PreferenceStore.write]
    split
    · rw [keys_dropMember]
      exact hu.keys.filter _
    · exact nodup_keys_putMember _ _ hu.keys
  | load =>
    rw [result]
    cases hfiled : h.filedValues? st with
    | none => exact hu.keys
    | some values => exact nodup_keys_filedValues hfiled
  | _ => exact hu.keys

/-- A store that can be used can be used again. -/
lemma Usable.perform (hu : Usable react st h) (use : StoreUse) :
    Usable react st (use.perform react st h).2 := by
  have a := hu.makes use
  refine ⟨?_, ?_, ?_⟩
  · rw [a.length]
    exact hu.store
  · unfold Unmeddled
    rw [a.store, a.listeners, bus_result]
    exact hu.unmeddled
  · rw [a.store]
    exact hu.keys_result use

/-- One use: stored values keep apart from the defaults exactly if it does not slip. -/
lemma Usable.overriding_perform_iff (hu : Usable react st h) (hstore : (h.store st).Overriding)
    (use : StoreUse) :
    ((use.perform react st h).2.store st).Overriding ↔ ¬ use.Slips st h := by
  rw [(hu.makes use).store]
  cases use with
  | setDefault key value => exact PreferenceStore.overriding_setDefault_iff hstore key value
  | make call => exact iff_of_true (hstore.write _ _) id
  | load =>
    simp only [result, Slips]
    cases h.filedValues? st with
    | none => simpa using hstore
    | some values =>
      have hslips : (∃ filed, some values = some filed ∧
          ∃ key, findMember? key filed = some ((h.store st).getDefault key)) ↔
          ∃ key, findMember? key values = some ((h.store st).getDefault key) := by simp
      rw [hslips]
      constructor
      · rintro hafter ⟨key, hfound⟩
        exact hafter key _ hfound rfl
      · rintro hnone key value hfound rfl
        exact hnone ⟨key, hfound⟩
  | save => exact iff_of_true hstore id
  | elsewhere p => exact iff_of_true hstore id

/-! ## Runs -/

lemma Usable.after (hu : Usable react st h) (uses : List StoreUse) :
    Usable react st (after react st h uses) := by
  induction uses generalizing h with
  | nil => exact hu
  | cons use rest ih => exact ih (hu.perform use)

/-- A run keeps stored values apart from the defaults all along exactly if no use slips. -/
theorem Usable.overriding_along_iff (hu : Usable react st h) (hstore : (h.store st).Overriding)
    (uses : List StoreUse) :
    (∀ before, before <+: uses → ((StoreUse.after react st h before).store st).Overriding) ↔
      SlipFree react st h uses := by
  have hclean : ∀ (h : Host γ) use rest, Usable react st h ∧ (h.store st).Overriding →
      (SlipFree react st h (use :: rest) ↔
        (Usable react st (use.perform react st h).2 ∧
          ((use.perform react st h).2.store st).Overriding) ∧
        SlipFree react st (use.perform react st h).2 rest) := by
    intro h use rest hh
    rw [SlipFree, ← hh.1.overriding_perform_iff hh.2]
    exact and_congr_left' (iff_and_self.2 fun _ => hh.1.perform use)
  rw [← forall_prefix_foldl_iff (fun _ => trivial) hclean ⟨hu, hstore⟩ uses]
  exact forall₂_congr fun before _ => (and_iff_right (hu.after before)).symm

/-- Wherever a store can be saved, its document is what the file holds then. -/
lemma saves_document {p : Platform} (hcan : Preferences.CanSave (h.store st).path p) :
    ∃ p', savePreferences st { h with platform := p } = (.ok (), { h with platform := p' }) ∧
      p'.files.readFile (h.store st).path =
        .ok (Utf8.encode (Text.ofChars (Json.writeIndented 0 (.obj (h.store st).document)))) := by
  obtain ⟨p', hsave, hsaved⟩ := hcan.saves (h.store st).values
  obtain ⟨inode, hfile, -⟩ := hsaved.file
  exact ⟨p', savePreferences_ok hsave, hfile.readFile⟩

end StoreUse

/-- **What is saved is what differs from its default, as long as no use slips.** A new store with
any defaults is used in any way, and listeners that leave the stores alone are told of its changes.
At every moment saving succeeds on every machine on which the file can be written, and the file then
holds the document of the store. Whatever shows something else than its default is in the document,
and every key in it stands for what it shows. The document holds exactly what differs all along,
exactly if no use slips: no default is set to the value that is stored under its key, and no file is
loaded that holds a value equal to its default. -/
theorem Host.saved_exactly_iff (react : List γ → Act γ Unit) {st : Nat} {h : Host γ}
    (hst : st < h.stores.length) (hunmeddled : h.Unmeddled react st)
    (hnew : (h.store st).values = []) (uses : List StoreUse) :
    (∀ before, before <+: uses →
      let now := StoreUse.after react st h before
      let store := now.store st
      (∀ p, Preferences.CanSave store.path p → ∃ p',
        savePreferences st { now with platform := p } = (.ok (), { now with platform := p' }) ∧
        p'.files.readFile store.path =
          .ok (Utf8.encode (Text.ofChars (Json.writeIndented 0 (.obj store.document))))) ∧
      (∀ key, store.get key ≠ store.getDefault key →
        (key, .str (store.get key)) ∈ store.document) ∧
      ∀ key x, (key, x) ∈ store.document → x = .str (store.get key)) ∧
    ((∀ before, before <+: uses → ((StoreUse.after react st h before).store st).SavedExactly) ↔
      StoreUse.SlipFree react st h uses) := by
  have hu : StoreUse.Usable react st h := ⟨hst, hunmeddled, by rw [hnew]; exact List.nodup_nil⟩
  have hstore : (h.store st).Overriding := by
    intro key value hfound
    rw [hnew] at hfound
    cases hfound
  constructor
  · intro before _ now store
    have hkeys : (store.values.map Prod.fst).Nodup := (hu.after before).keys
    refine ⟨fun p hcan => StoreUse.saves_document hcan, fun key hdiffers => ?_,
      fun key x hmem => ?_⟩
    · exact (PreferenceStore.mem_document hkeys).2
        ⟨PreferenceStore.isSome_of_get_ne hdiffers, rfl⟩
    · exact ((PreferenceStore.mem_document hkeys).1 hmem).2
  · rw [← hu.overriding_along_iff hstore]
    refine forall₂_congr fun before _ => ?_
    exact PreferenceStore.savedExactly_iff (hu.after before).keys

/-- A host with a new store, and with the mixed file at its path. -/
def Host.unloaded : Host Empty :=
  { Host.empty mixedPlatform mixedPath with stores := [.empty mixedPath] }

lemma Host.unmeddled_unloaded : Host.unloaded.Unmeddled (fun _ => pure ()) 0 := by
  intro n hn
  cases hn

/-- A default is set, the file is loaded, one of its values is changed and another one set to its
default, and the store is saved. -/
def mixedUses : List StoreUse :=
  [.setDefault "a" "one", .load, .make (.set "b" "x"), .make (.reset "a"), .save]

lemma slipFree_mixedUses : StoreUse.SlipFree (fun _ => pure ()) 0 Host.unloaded mixedUses := by
  set h := ((StoreUse.setDefault "a" "one").perform (fun _ => pure ()) 0 Host.unloaded).2 with hh
  have hfiled : h.filedValues? 0 = some mixedValues := by
    change (Preferences.load mixedPath mixedPlatform).1.toOption.join = _
    rw [load_mixedPlatform]
    rfl
  have hdiffer : ∀ v ∈ mixedValues,
      v.2 ≠ ((PreferenceStore.empty mixedPath).setDefault "a" "one").getDefault v.1 := by
    decide
  refine ⟨fun hstored => ?_, ?_, id, id, id, trivial⟩
  · cases hstored
  · rintro ⟨values, hvalues, key, hfound⟩
    obtain rfl : mixedValues = values := Option.some.inj (hfiled.symm.trans hvalues)
    exact hdiffer _ (mem_of_findMember? hfound) rfl

/-- Of three values that were loaded one is set to its default, and the other two are saved. -/
theorem Host.mixed_values_saved_exactly :
    let store := (StoreUse.after (fun _ => pure ()) 0 Host.unloaded mixedUses).store 0
    0 < Host.unloaded.stores.length ∧ Host.unloaded.Unmeddled (fun _ => pure ()) 0 ∧
      (Host.unloaded.store 0).values = [] ∧
      StoreUse.SlipFree (fun _ => pure ()) 0 Host.unloaded mixedUses ∧ store.SavedExactly := by
  intro store
  have hexact := (saved_exactly_iff (fun _ => pure ()) (h := Host.unloaded) (by decide)
    Host.unmeddled_unloaded rfl mixedUses).2.2 slipFree_mixedUses mixedUses List.prefix_rfl
  exact ⟨by decide, Host.unmeddled_unloaded, rfl, slipFree_mixedUses, hexact⟩

/-- A value is set, and then it becomes the default of its key. It is saved all the same. -/
theorem Host.value_saved_beside_equal_default :
    let now := StoreUse.after (fun _ => pure ()) 0 Host.unloaded
      [.make (.set "k" "v"), .setDefault "k" "v"]
    let store := now.store 0
    store.get "k" = store.getDefault "k" ∧ store.document = [(("k" : Text), Json.str "v")] ∧
      ¬ store.SavedExactly ∧
      ∃ p, savePreferences 0 { now with platform := mixedPlatform } =
          (.ok (), { now with platform := p }) ∧
        p.files.readFile mixedPath = .ok (Utf8.encodeString "\x7b\n  \"k\": \"v\"\n\x7d") := by
  intro now store
  have hu : StoreUse.Usable (fun _ => pure ()) 0 Host.unloaded :=
    ⟨by decide, Host.unmeddled_unloaded, List.nodup_nil⟩
  have hstore : store =
      ((PreferenceStore.empty mixedPath).write "k" "v").setDefault "k" "v" := by
    have hset := (hu.makes (.make (.set "k" "v"))).store
    have hdefault := ((hu.perform (.make (.set "k" "v"))).makes (.setDefault "k" "v")).store
    change store = _ at hdefault
    rw [hdefault, StoreUse.result, hset]
    rfl
  have hshown : store.get "k" = store.getDefault "k" := by
    rw [hstore]
    rfl
  have hdocument : store.document = [(("k" : Text), Json.str "v")] := by
    rw [hstore]
    rfl
  have hpath : store.path = mixedPath := by
    rw [hstore]
    rfl
  refine ⟨hshown, hdocument, fun hexact => ?_, ?_⟩
  · have hsaved : (("k" : Text), Json.str "v") ∈ store.document := by
      rw [hdocument]
      exact List.mem_singleton_self _
    exact ((hexact.2 _ _).1 hsaved).1 hshown
  · have hcan : Preferences.CanSave (now.store 0).path mixedPlatform := by
      rw [show (now.store 0).path = mixedPath from hpath]
      exact canSave_mixedPlatform
    obtain ⟨p, hsave, hread⟩ := StoreUse.saves_document hcan
    refine ⟨p, hsave, ?_⟩
    rw [← hpath, hread]
    change Except.ok (Utf8.encode (Text.ofChars (Json.writeIndented 0 (.obj store.document)))) = _
    rw [hdocument]
    rfl

end LanguageHost
