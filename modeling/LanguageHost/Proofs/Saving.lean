import LanguageHost.Proofs.Documents
import LanguageHost.Proofs.Link
import LanguageHost.Proofs.Writing

/-!
# The round trip of a preference file

The values of a store go through a file: they are written as a JSON object of strings and read from
it again. They come back in order if no key stands twice among them and all their texts are settled.
Everything that a store can come to hold is of this kind, since what is set consists of whole
characters and what was read from a file has gone through the joining of surrogates.
-/

namespace LanguageHost

open Act

namespace Preferences

/-! ## Values that come back -/

/-- No key stands twice, and all texts are settled. -/
structure Storable (values : List (Text × Text)) : Prop where
  keys : (values.map Prod.fst).Nodup
  settled : ∀ v ∈ values, v.1.IsSettled ∧ v.2.IsSettled

namespace Storable

variable {values : List (Text × Text)}

lemma nil : Storable [] :=
  ⟨List.nodup_nil, List.forall_mem_nil _⟩

lemma putMember (h : Storable values) {key value : Text} (hkey : key.IsSettled)
    (hvalue : value.IsSettled) : Storable (putMember key value values) where
  keys := nodup_keys_putMember key value h.keys
  settled v hv := by
    rcases mem_putMember hv with rfl | hold
    · exact ⟨hkey, hvalue⟩
    · exact h.settled v hold

lemma dropMember (h : Storable values) (key : Text) : Storable (dropMember key values) where
  keys := h.keys.sublist (List.filter_sublist.map Prod.fst)
  settled v hv := h.settled v (List.mem_of_mem_filter hv)

/-- What the members of a document are kept as. -/
lemma valuesOf {members : List (Text × Json)} (h : Json.Loose.IsSound (.obj members)) :
    Storable (valuesOf members) where
  keys := by
    rw [Preferences.valuesOf, List.map_map]
    exact h.1
  settled v hv := by
    obtain ⟨m, hm, rfl⟩ := List.mem_map.1 hv
    obtain ⟨hkey, hstring⟩ := h.2 m hm
    refine ⟨hkey, ?_⟩
    cases hvalue : m.2 with
    | str t => exact hstring t hvalue
    | _ => exact (Text.isWhole_ofChars _).isSettled

end Storable

/-! ## The text of a file -/

/-- The bytes that values are saved as. -/
def bytesOf (values : List (Text × Text)) : List UInt8 :=
  Utf8.encode (Text.ofChars (render values))

lemma unifyLineEnds_of_not_mem {s : List Char} (hs : '\r' ∉ s) : unifyLineEnds s = s := by
  induction s with
  | nil => rfl
  | cons c s ih =>
    rw [List.mem_cons, not_or] at hs
    obtain ⟨hc, hs⟩ := hs
    rw [unifyLineEnds, ih hs]
    · rintro rest rfl
      exact absurd rfl hc
    · rintro rfl
      exact absurd rfl hc

lemma valuesOf_strings (values : List (Text × Text)) :
    valuesOf (values.map fun v => (v.1, .str v.2)) = values := by
  rw [valuesOf, List.map_map]
  exact List.map_id values

/-- **Files.** What values are saved as holds them. -/
theorem parse_bytesOf (path : Path) {values : List (Text × Text)} (h : Storable values) :
    parse path (bytesOf values) = .ok (.obj (values.map fun v => (v.1, .str v.2))) := by
  have hdecode : Utf8.decode (bytesOf values) = .ok (render values) := by
    have hback := Utf8.decode_encodeString (String.ofList (render values))
    rwa [Utf8.encodeString, Text.ofString, String.toList_ofList] at hback
  have hplain : '\r' ∉ render values := fun hmem => by
    have := (Json.solid_writeIndented 0 _).plain _ hmem
    revert this
    decide
  rw [parse, hdecode]
  dsimp only
  rw [unifyLineEnds_of_not_mem hplain, render, Json.Loose.read_writeIndented h.keys h.settled]

/-- What a file holds is formed. -/
lemma formed_of_parse {path : Path} {bytes : List UInt8} {x : Json}
    (h : parse path bytes = .ok x) : Json.Loose.Formed x := by
  unfold parse at h
  split at h
  · cases h
  · dsimp only at h
    split at h
    · rename_i hread
      cases h
      exact Json.Loose.formed_of_read hread
    · cases h
    · cases h
    · cases h

/-! ## Files that can be saved -/

/-- The number of the regular file that is saved to at a path, if the folders above it are there or
can be made. -/
def saveSlot? (path : Path) (p : Platform) : Option Nat :=
  (p.files.ensureFolders path.parent).toOption.bind fun files => files.slot? path

/-- A regular file can be written at a path, below folders that are there or can be made, and the
journal goes elsewhere. -/
structure CanSave (path : Path) (p : Platform) : Prop where
  noNul : FileSystem.hasNul path = false
  slot : ∃ inode, saveSlot? path p = some inode ∧ p.LogsElsewhere inode

/-- A regular file with these bytes stands at a path, and the journal goes elsewhere. -/
structure Saved (path : Path) (bytes : List UInt8) (p : Platform) : Prop where
  noNul : FileSystem.hasNul path = false
  parent : p.files.isFolder path.parent = .ok true
  file : ∃ inode, p.files.HasFile path inode bytes ∧ p.LogsElsewhere inode

variable {path : Path} {p p' : Platform} {values : List (Text × Text)} {bytes : List UInt8}

lemma hasNul_parent (h : FileSystem.hasNul path = false) : FileSystem.hasNul path.parent = false :=
  FileSystem.hasNul_of_names (fun _ hname => List.dropLast_subset _ hname) h

lemma saveSlot?_eq_some {inode : Nat} : saveSlot? path p = some inode ↔
    ∃ files, p.files.ensureFolders path.parent = .ok files ∧ files.slot? path = some inode := by
  rw [saveSlot?]
  cases p.files.ensureFolders path.parent <;> simp [Except.toOption]

lemma Saved.canSave (h : Saved path bytes p) : CanSave path p := by
  obtain ⟨inode, hfile, helsewhere⟩ := h.file
  exact ⟨h.noNul, inode, saveSlot?_eq_some.2
    ⟨p.files, FileSystem.ensureFolders_of_isFolder h.parent, hfile.slot?⟩, helsewhere⟩

/-- **Saving.** Values that can be saved are saved. -/
theorem CanSave.saves (h : CanSave path p) (values : List (Text × Text)) :
    ∃ p', save path values p = (.ok (), p') ∧ Saved path (bytesOf values) p' := by
  obtain ⟨inode, hsaveSlot, helsewhere⟩ := h.slot
  obtain ⟨files, hfolders, hslot⟩ := saveSlot?_eq_some.1 hsaveSlot
  obtain ⟨-, hparent⟩ := FileSystem.ensureFolders_ok hfolders (hasNul_parent h.noNul)
  obtain ⟨written, hwrite, hextends, hfile⟩ := FileSystem.writeFile_ok hslot (bytesOf values)
  have hspares : Platform.Spares inode { p with files := written } _ :=
    Platform.spares_log (p := { p with files := written }) helsewhere "preferences" .info
      "Preferences saved" [("path", path.text)]
  refine ⟨_, ?_, h.noNul, hspares.found.isFolder (hextends.isFolder hparent), inode,
    hspares.found.hasFile hfile hspares.body, hspares.elsewhere⟩
  unfold save
  rw [bytesOf] at hwrite
  simp only [get_bind, hasNul_parent h.noNul, hfolders, h.noNul, hwrite, Bool.false_eq_true,
    if_false]
  rfl

/-! ## Loading -/

/-- The machine when the loss of a preference file is noted. -/
def noted (path : Path) (reason : String) (p : Platform) : Platform :=
  p.log "preferences" .error "Failed to load preferences" [("path", path.text), ("error", reason)]

/-- What loading a file comes to. -/
inductive Loads (path : Path) (p : Platform) :
    Except Fault (Option (List (Text × Text))) × Platform → Prop
  | unsure {errno : Errno} (h : p.files.pathExists path = .error errno) :
    Loads path p (.error (.os ⟨errno, path.text⟩), p)
  | absent (h : p.files.pathExists path = .ok false) : Loads path p (.ok none, p)
  | unreadable {errno : Errno} (h : p.files.pathExists path = .ok true)
    (hread : p.files.readFile path = .error errno) :
    Loads path p (.error (.problem (.preferencesUnreadable path.text
      (OsFault.message ⟨errno, path.text⟩))), noted path (OsFault.message ⟨errno, path.text⟩) p)
  | malformed {bytes : List UInt8} {place reason : String}
    (h : p.files.pathExists path = .ok true) (hread : p.files.readFile path = .ok bytes)
    (hparse : parse path bytes = .error (.problem (.preferencesUnreadable place reason))) :
    Loads path p
      (.error (.problem (.preferencesUnreadable path.text reason)), noted path reason p)
  | stopped {bytes : List UInt8} {fault : Fault} (h : p.files.pathExists path = .ok true)
    (hread : p.files.readFile path = .ok bytes) (hparse : parse path bytes = .error fault)
    (hfault : ∀ place reason, fault ≠ .problem (.preferencesUnreadable place reason)) :
    Loads path p (.error fault, p)
  | noObject {bytes : List UInt8} {x : Json} (h : p.files.pathExists path = .ok true)
    (hread : p.files.readFile path = .ok bytes) (hparse : parse path bytes = .ok x)
    (hx : ∀ members, .obj members ≠ x) :
    Loads path p (.error (.problem (.preferencesNoObject path.text)), p)
  | values {bytes : List UInt8} {members : List (Text × Json)}
    (h : p.files.pathExists path = .ok true) (hread : p.files.readFile path = .ok bytes)
    (hparse : parse path bytes = .ok (.obj members)) :
    Loads path p (.ok (some (valuesOf members)), p)

lemma loads (path : Path) (p : Platform) : Loads path p (load path p) := by
  unfold load
  rw [get_bind]
  cases hexists : p.files.pathExists path with
  | error errno => exact .unsure hexists
  | ok isThere =>
    rw [bind_ok (show Task.ofErrno path (.ok isThere) p = (.ok isThere, p) from rfl)]
    cases isThere with
    | false => exact .absent hexists
    | true =>
      rw [if_neg (by decide)]
      cases hread : p.files.readFile path with
      | error errno => exact .unreadable hexists hread
      | ok bytes =>
        dsimp only
        cases hparse : parse path bytes with
        | error fault =>
          cases fault with
          | problem problem =>
            cases problem with
            | preferencesUnreadable place reason => exact .malformed hexists hread hparse
            | _ => exact .stopped hexists hread hparse (by simp)
          | _ => exact .stopped hexists hread hparse (by simp)
        | ok x =>
          cases x with
          | obj members => exact .values hexists hread hparse
          | _ => exact .noObject hexists hread hparse (by simp)

/-- Loading finds nothing where there is no file, and else what the members of its object are kept
as. It changes nothing. -/
lemma load_eq_ok {found : Option (List (Text × Text))} : load path p = (.ok found, p') ↔ p' = p ∧
    (p.files.pathExists path = .ok false ∧ found = none ∨
      p.files.pathExists path = .ok true ∧ ∃ bytes members, p.files.readFile path = .ok bytes ∧
        parse path bytes = .ok (.obj members) ∧ found = some (valuesOf members)) := by
  have hloads := loads path p
  constructor
  · intro h
    rw [h] at hloads
    cases hloads with
    | absent hexists => exact ⟨rfl, .inl ⟨hexists, rfl⟩⟩
    | values hexists hread hparse => exact ⟨rfl, .inr ⟨hexists, _, _, hread, hparse, rfl⟩⟩
  · rintro ⟨rfl, ⟨hexists, rfl⟩ | ⟨hexists, bytes, members, hread, hparse, rfl⟩⟩
    · generalize load path p' = result at hloads
      cases hloads <;> simp_all
    · generalize load path p' = result at hloads
      cases hloads <;> simp_all

/-- What loading finds can be saved. -/
lemma storable_of_load (h : load path p = (.ok (some values), p')) : Storable values := by
  obtain ⟨-, ⟨-, ⟨⟩⟩ | ⟨-, bytes, members, -, hparse, hfound⟩⟩ := load_eq_ok.1 h
  cases hfound
  exact .valuesOf (formed_of_parse hparse).isSound

/-- What was saved is loaded. -/
lemma Saved.loads (h : Saved path (bytesOf values) p) (hvalues : Storable values) :
    load path p = (.ok (some values), p) := by
  obtain ⟨inode, hfile, -⟩ := h.file
  exact load_eq_ok.2 ⟨rfl, .inr ⟨hfile.pathExists h.noNul, _, _, hfile.readFile,
    parse_bytesOf path hvalues, by rw [valuesOf_strings]⟩⟩

lemma load_eq_of_fst {found : Option (List (Text × Text))} (h : (load path p).1 = .ok found) :
    load path p = (.ok found, p) := by
  rcases hload : load path p with ⟨result, p'⟩
  rw [hload] at h
  cases h
  rw [(load_eq_ok.1 hload).1]

end Preferences

/-! ## Stores -/

namespace PreferenceStore

/-- The states that lead from an empty store by setting defaults and values, setting keys to their
defaults, loading files, and subscribing listeners. -/
inductive Reachable (path : Path) : PreferenceStore → Prop
  | empty : Reachable path (.empty path)
  | setDefault {store : PreferenceStore} {key value : Text} : Reachable path store →
    key.IsWhole → value.IsWhole → Reachable path (store.setDefault key value)
  | setValue {store : PreferenceStore} {key value : Text} : Reachable path store →
    key.IsWhole → value.IsWhole → Reachable path (store.write key value)
  | setToDefault {store : PreferenceStore} {key : Text} : Reachable path store →
    key.IsWhole → Reachable path (store.write key (store.getDefault key))
  | load {store : PreferenceStore} {values : List (Text × Text)} {p p' : Platform} :
    Reachable path store → Preferences.load path p = (.ok (some values), p') →
    Reachable path { store with values }
  | listen {store : PreferenceStore} (bus : Bus Nat) : Reachable path store →
    Reachable path { store with bus }

variable {path : Path} {store : PreferenceStore}

lemma storable_write (h : Preferences.Storable store.values) {key value : Text}
    (hkey : key.IsWhole) (hvalue : value.IsWhole) :
    Preferences.Storable (store.write key value).values := by
  unfold write
  split
  · exact h.dropMember key
  · exact h.putMember hkey.isSettled hvalue.isSettled

/-- **Reachable states.** A store can only come to hold values that can be saved. -/
theorem Reachable.storable (h : Reachable path store) :
    store.path = path ∧ Preferences.Storable store.values := by
  induction h with
  | empty => exact ⟨rfl, .nil⟩
  | setDefault _ _ _ ih => exact ih
  | @setValue store key value _ hkey hvalue ih =>
    refine ⟨?_, storable_write ih.2 hkey hvalue⟩
    rw [← ih.1, write]
    split <;> rfl
  | @setToDefault store key _ _ ih =>
    rw [write, if_pos rfl]
    exact ⟨ih.1, ih.2.dropMember key⟩
  | load _ hload ih => exact ⟨ih.1, Preferences.storable_of_load hload⟩
  | listen bus _ ih => exact ih

/-- A store shows a key as its values and defaults say. -/
lemma get_congr {other : PreferenceStore} (hvalues : other.values = store.values)
    (hdefaults : ∀ key, findMember? key other.defaults = findMember? key store.defaults)
    (key : Text) : other.get key = store.get key ∧ other.contains key = store.contains key := by
  constructor
  · rw [get, get, getDefault, getDefault, hvalues, hdefaults]
  · rw [contains, contains, hvalues, hdefaults]

end PreferenceStore

/-! ## Stores of a host -/

namespace Host

variable {γ : Type}

lemma store_addStore (store : PreferenceStore) (h : Host γ) :
    (h.addStore store).2.store (h.addStore store).1 = store := by
  simp [addStore, Host.store]

lemma setStore_addStore (store other : PreferenceStore) (h : Host γ) :
    (h.addStore store).2.setStore (h.addStore store).1 other = (h.addStore other).2 := by
  simp [addStore, setStore]

lemma savePreferences_ok {n : Nat} {h : Host γ} {p : Platform}
    (hsave : Preferences.save (h.store n).path (h.store n).values h.platform = (.ok (), p)) :
    savePreferences n h = (.ok (), { h with platform := p }) := by
  rw [savePreferences, get_bind, onPlatform, hsave]

lemma loadPreferences_none {n : Nat} {h : Host γ}
    (hload : Preferences.load (h.store n).path h.platform = (.ok none, h.platform)) :
    loadPreferences n h = (.ok (), h) := by
  have honPlatform : onPlatform (Preferences.load (h.store n).path) h = (.ok none, h) := by
    rw [onPlatform, hload]
  rw [loadPreferences, get_bind, bind_ok honPlatform]
  rfl

lemma loadPreferences_some {n : Nat} {h : Host γ} (values : List (Text × Text))
    (hload : Preferences.load (h.store n).path h.platform = (.ok (some values), h.platform)) :
    loadPreferences n h = (.ok (), h.setStore n { h.store n with values }) := by
  have honPlatform : onPlatform (Preferences.load (h.store n).path) h = (.ok (some values), h) := by
    rw [onPlatform, hload]
  rw [loadPreferences, get_bind, bind_ok honPlatform]
  rfl

/-- **The round trip of a preference file.** Wherever a reachable store can be saved, it is saved,
and a new store on the same path loads exactly its values, in order. With the same defaults it shows
and contains the same keys, whether or not the values were texts in the files that they came from.
Saving the new store writes the same bytes. -/
theorem preferences_round_trip {path : Path} {n : Nat} {h : Host γ}
    (hreach : (h.store n).Reachable path) (hcan : Preferences.CanSave path h.platform) :
    ∃ p, savePreferences n h = (.ok (), { h with platform := p }) ∧
      ∀ fresh : PreferenceStore, fresh.path = path →
        let opened := addStore fresh { h with platform := p }
        ∃ loaded, loadPreferences opened.1 opened.2 = (.ok (), loaded) ∧
          (loaded.store opened.1).values = (h.store n).values ∧
          (loaded.store opened.1).defaults = fresh.defaults ∧
          ((∀ key, findMember? key fresh.defaults = findMember? key (h.store n).defaults) →
            ∀ key, (loaded.store opened.1).get key = (h.store n).get key ∧
              (loaded.store opened.1).contains key = (h.store n).contains key) ∧
          ∃ p' bytes, savePreferences opened.1 loaded = (.ok (), { loaded with platform := p' }) ∧
            p.files.readFile path = .ok bytes ∧ p'.files.readFile path = .ok bytes := by
  obtain ⟨hpath, hstorable⟩ := hreach.storable
  obtain ⟨p, hsave, hsaved⟩ := hcan.saves (h.store n).values
  refine ⟨p, savePreferences_ok (by rwa [hpath]), fun fresh hfresh => ?_⟩
  intro opened
  have hstore : opened.2.store opened.1 = fresh := store_addStore fresh _
  have hnumber : opened.1 < opened.2.stores.length := by simp [opened, addStore]
  have hload := hsaved.loads hstorable
  have hloaded := loadPreferences_some (n := opened.1) (h := opened.2) (h.store n).values
    (by rwa [hstore, hfresh])
  have hshown := store_setStore opened.1 opened.1
    { opened.2.store opened.1 with values := (h.store n).values } opened.2
  rw [if_pos ⟨rfl, hnumber⟩] at hshown
  obtain ⟨p', hsave', hsaved'⟩ := hsaved.canSave.saves (h.store n).values
  obtain ⟨inode, hfile, -⟩ := hsaved.file
  obtain ⟨inode', hfile', -⟩ := hsaved'.file
  refine ⟨_, hloaded, ?_, ?_, ?_, p', Preferences.bytesOf (h.store n).values,
    savePreferences_ok ?_, hfile.readFile, hfile'.readFile⟩
  · rw [hshown]
  · rw [hshown, hstore]
  · intro hdefaults
    refine PreferenceStore.get_congr ?_ ?_
    · rw [hshown]
    · rwa [hshown, hstore]
  · rw [hshown, hstore, hfresh]
    exact hsave'

/-- A file with a number, a repeated key, and surrogates that have no partner. -/
def mixedFile : List UInt8 :=
  Utf8.encodeString "\x7b\"a\": 5, \"b\": [true, null], \"a\": \x7b\"k\": 1\x7d, \"\\ud83d\": \"\\udc00\\ud83d\"\x7d"

/-- A machine with one file in its root folder. -/
def mixedPlatform : Platform :=
  { (default : Platform) with
    files := ⟨.folder 0 [("p.json", .file 0)], [(0, ⟨mixedFile, 0o644, 0⟩)], 1, 0, [], ⟨.root, []⟩⟩
    journal := .initial 0 }

/-- The path of the file. -/
def mixedPath : Path :=
  ⟨.root, ["p.json"]⟩

/-- What the file is loaded as. -/
def mixedValues : List (Text × Text) :=
  [("a", "\x7b\"k\": 1\x7d"), ("b", "[true, null]"),
    ([⟨0xD83D, by decide⟩], [⟨0xDC00, by decide⟩, ⟨0xD83D, by decide⟩])]

/-- A store with a default that has loaded the file, and in which a key was set then. -/
def mixedStore : PreferenceStore :=
  { ((PreferenceStore.empty mixedPath).setDefault "c" "d") with values := mixedValues }.write "b" "\n"

lemma load_mixedPlatform :
    Preferences.load mixedPath mixedPlatform = (.ok (some mixedValues), mixedPlatform) := by
  have hloaded : (Preferences.load mixedPath mixedPlatform).1.toOption = some (some mixedValues) := by
    decide +kernel
  exact Preferences.load_eq_of_fst (Act.ok_of_toOption hloaded)

lemma canSave_mixedPlatform : Preferences.CanSave mixedPath mixedPlatform where
  noNul := by decide
  slot := ⟨0, by decide +kernel, by rintro handle ⟨⟩⟩

lemma reachable_mixedStore : mixedStore.Reachable mixedPath :=
  .setValue (.load (.setDefault .empty (Text.isWhole_ofChars _) (Text.isWhole_ofChars _))
    load_mixedPlatform) (Text.isWhole_ofChars _) (Text.isWhole_ofChars _)

/-- The values of a file that holds more than strings come back after they were saved. -/
theorem mixed_file_round_trip :
    let h : Host Empty := { Host.empty mixedPlatform mixedPath with stores := [mixedStore] }
    let fresh := (PreferenceStore.empty mixedPath).setDefault "c" "d"
    ∃ p, savePreferences 0 h = (.ok (), { h with platform := p }) ∧
      ∃ loaded, loadPreferences 1 (addStore fresh { h with platform := p }).2 = (.ok (), loaded) ∧
        (loaded.store 1).values = mixedStore.values ∧
        ∀ key, (loaded.store 1).get key = mixedStore.get key ∧
          (loaded.store 1).contains key = mixedStore.contains key := by
  intro h fresh
  obtain ⟨p, hsave, hback⟩ := preferences_round_trip (h := h) (n := 0) reachable_mixedStore
    canSave_mixedPlatform
  obtain ⟨loaded, hload, hvalues, -, hshown, -⟩ := hback fresh rfl
  have hdefaults : fresh.defaults = mixedStore.defaults := by decide
  exact ⟨p, hsave, loaded, hload, hvalues, hshown fun key => by rw [hdefaults]; rfl⟩

end Host

end LanguageHost
