import LanguageHost.CommandLine
import LanguageHost.Proofs.Printout
import LanguageHost.Proofs.RoundTrip
import LanguageHost.Proofs.Saving

/-!
# Editing the schema preference from the command line

The commands that set, clear and show the schema preference know of each other only what the
preference file holds. A command that is accepted writes the file anew, with one key changed; one
that is refused leaves it alone. So after any number of them the file holds what the last accepted
one asked for, and all other keys show what they did at first.

What is printed of the settings are the lines of their JSON as long as all of them fit on the
console. A line that does not fit is cut off.
-/

namespace LanguageHost

open Act

namespace Preferences

/-- What the preference file at a path holds as far as it can be loaded; none if there is no
file. -/
def Holds (path : Path) (found : Option (List (Text × Text))) (p : Platform) : Prop :=
  load path p = (.ok found, p)

/-- The file at a path is there and reads as before. -/
structure SameFile (path : Path) (p p' : Platform) : Prop where
  there : p'.files.pathExists path = p.files.pathExists path
  bytes : p'.files.readFile path = p.files.readFile path

variable {path : Path} {p p' p'' : Platform} {found : Option (List (Text × Text))}

lemma SameFile.refl (path : Path) (p : Platform) : SameFile path p p :=
  ⟨rfl, rfl⟩

lemma SameFile.trans (h : SameFile path p p') (h' : SameFile path p' p'') :
    SameFile path p p'' :=
  ⟨h'.there.trans h.there, h'.bytes.trans h.bytes⟩

lemma Holds.of_same (h : Holds path found p) (hsame : SameFile path p p') :
    Holds path found p' := by
  refine load_eq_ok.2 ⟨rfl, ?_⟩
  rw [hsame.there, hsame.bytes]
  exact (load_eq_ok.1 h).2

lemma Holds.storable (h : Holds path found p) : Storable (found.getD []) := by
  cases found with
  | none => exact .nil
  | some values => exact storable_of_load h

end Preferences

namespace CommandLine

open Preferences

variable {path : Path} {p p' : Platform} {found : Option (List (Text × Text))}
  {h : CliHost} {preferences : Option String}

/-! ## The store of a command -/

/-- The store of a command that has found these values in the file. -/
def storeOf (path : Path) (found : Option (List (Text × Text))) : PreferenceStore :=
  { (PreferenceStore.empty path).withYamlDefaults with values := found.getD [] }

lemma getDefault_storeOf (key : Text) : (storeOf path found).getDefault key = [] := by
  change (if schemaKey = key then some [] else none).getD [] = ([] : Text)
  split <;> rfl

/-- What a key shows in it. -/
lemma get_storeOf (key : Text) :
    (storeOf path found).get key = (findMember? key (found.getD [])).getD [] := by
  rw [PreferenceStore.get, getDefault_storeOf]
  rfl

/-- The values after the schema preference was written. -/
def rewritten (text : Text) (found : Option (List (Text × Text))) : List (Text × Text) :=
  if text = [] then dropMember schemaKey (found.getD [])
  else putMember schemaKey text (found.getD [])

lemma write_storeOf (text : Text) : (storeOf path found).write schemaKey text =
    storeOf path (some (rewritten text found)) := by
  rw [PreferenceStore.write, getDefault_storeOf, rewritten]
  split <;> rfl

lemma findMember?_rewritten (text key : Text) :
    findMember? key (rewritten text found) =
      if schemaKey = key then (if text = [] then none else some text)
      else findMember? key (found.getD []) := by
  rw [rewritten]
  split
  · rw [findMember?_dropMember]
  · rw [findMember?_putMember]

/-- The schema preference that a rewritten file shows. -/
lemma get_schemaKey {text : Text} {values : List (Text × Text)}
    (h : findMember? schemaKey values = if text = [] then none else some text) :
    (storeOf path (some values)).get schemaKey = text := by
  rw [get_storeOf, Option.getD_some, h]
  split
  · rename_i hempty
    rw [hempty]
    rfl
  · rfl

lemma get_storeOf_rewritten (text : Text) :
    (storeOf path (some (rewritten text found))).get schemaKey = text :=
  get_schemaKey (by rw [findMember?_rewritten, if_pos rfl])

/-- A command loads the file into a store of its own. -/
lemma loadedStore_ok (hpath : (preferences.map Path.ofString).getD h.preferencesPath = path)
    (hholds : Holds path found h.platform) :
    loadedStore preferences h = (.ok h.stores.length, (h.addStore (storeOf path found)).2) := by
  have hnew : newStore preferences h =
      (.ok h.stores.length, (h.addStore (PreferenceStore.empty path)).2) := by
    rw [newStore, get_bind, hpath]
    rfl
  have hempty : (h.addStore (.empty path)).2.store h.stores.length = .empty path :=
    Host.store_addStore _ h
  have hdefaults : (h.addStore (.empty path)).2.setStore h.stores.length
      (PreferenceStore.empty path).withYamlDefaults = (h.addStore (storeOf path none)).2 :=
    Host.setStore_addStore _ _ h
  have hstore : (h.addStore (storeOf path none)).2.store h.stores.length = storeOf path none :=
    Host.store_addStore _ h
  have hload : Host.loadPreferences h.stores.length (h.addStore (storeOf path none)).2 =
      (.ok (), (h.addStore (storeOf path found)).2) := by
    cases found with
    | none => exact Host.loadPreferences_none (by rw [hstore]; exact hholds)
    | some values =>
      rw [Host.loadPreferences_some values (by rw [hstore]; exact hholds), hstore]
      exact congrArg _ (Host.setStore_addStore _ _ h)
  rw [loadedStore, bind_ok hnew, modify_bind, hempty, hdefaults, bind_ok hload]
  rfl

/-- Setting the schema preference in it does nothing else, since it has no listeners. -/
lemma setPreference_loaded (text : Text) :
    Host.setPreference quietly h.stores.length schemaKey text (h.addStore (storeOf path found)).2 =
      (.ok (), (h.addStore (storeOf path (some (rewritten text found)))).2) := by
  have hstore : (h.addStore (storeOf path found)).2.store h.stores.length = storeOf path found :=
    Host.store_addStore _ h
  have hwritten : (h.addStore (storeOf path found)).2.setStore h.stores.length
      (storeOf path (some (rewritten text found))) =
        (h.addStore (storeOf path (some (rewritten text found)))).2 :=
    Host.setStore_addStore _ _ h
  have hnow : (h.addStore (storeOf path (some (rewritten text found)))).2.store h.stores.length =
      storeOf path (some (rewritten text found)) :=
    Host.store_addStore _ h
  rw [Host.setPreference, get_bind, modify_bind, hstore, write_storeOf, hwritten]
  cases (storeOf path found).changeOf schemaKey text with
  | none => rfl
  | some change =>
    dsimp only
    rw [get_bind, hnow]
    rfl

/-- Saving it replaces the file. -/
lemma savePreferences_loaded (hcan : CanSave path h.platform) {values : List (Text × Text)}
    (hvalues : Storable values) :
    ∃ h', Host.savePreferences h.stores.length (h.addStore (storeOf path (some values))).2 =
        (.ok (), h') ∧ Holds path (some values) h'.platform := by
  have hstore : (h.addStore (storeOf path (some values))).2.store h.stores.length =
      storeOf path (some values) :=
    Host.store_addStore _ h
  obtain ⟨p, hsave, hsaved⟩ := hcan.saves values
  exact ⟨_, Host.savePreferences_ok (by rw [hstore]; exact hsave), hsaved.loads hvalues⟩

lemma storable_rewritten (text : Text) (hfound : Storable (found.getD [])) (htext : text.IsWhole) :
    Storable (rewritten text found) := by
  rw [rewritten]
  split
  · exact hfound.dropMember schemaKey
  · exact hfound.putMember (Text.isWhole_ofChars _).isSettled htext.isSettled

/-! ## What the commands do -/

section Verbs

variable (hpath : (preferences.map Path.ofString).getD h.preferencesPath = path)

include hpath

/-- A text that is accepted is set and saved. -/
lemma setSchema_accepted {value : String} {schemas : SchemaMapping}
    (hcheck : Schema.check value = .ok schemas) (hholds : Holds path found h.platform)
    (hcan : CanSave path h.platform) :
    ∃ h', setSchema value preferences h = (.ok (.done 0 ["Schema preference saved"]), h') ∧
      Holds path (some (rewritten value found)) h'.platform := by
  obtain ⟨h', hsave, hsaved⟩ := savePreferences_loaded hcan
    (storable_rewritten value hholds.storable (Text.isWhole_ofChars _))
  refine ⟨h', ?_, hsaved⟩
  rw [setSchema, hcheck]
  dsimp only
  rw [bind_ok (loadedStore_ok hpath hholds), bind_ok (setPreference_loaded value), bind_ok hsave]
  rfl

lemma clearSchema_ok (hholds : Holds path found h.platform) (hcan : CanSave path h.platform) :
    ∃ h', clearSchema preferences h = (.ok (.done 0 ["Schema preference cleared"]), h') ∧
      Holds path (some (rewritten [] found)) h'.platform := by
  obtain ⟨h', hsave, hsaved⟩ := savePreferences_loaded hcan
    (storable_rewritten [] hholds.storable (List.forall_mem_nil _))
  have hstore : (h.addStore (storeOf path found)).2.store h.stores.length = storeOf path found :=
    Host.store_addStore _ h
  have hreset : Host.resetPreference quietly h.stores.length schemaKey
      (h.addStore (storeOf path found)).2 =
        (.ok (), (h.addStore (storeOf path (some (rewritten [] found)))).2) := by
    rw [Host.resetPreference, get_bind, hstore, getDefault_storeOf]
    exact setPreference_loaded []
  refine ⟨h', ?_, hsaved⟩
  rw [clearSchema, bind_ok (loadedStore_ok hpath hholds), bind_ok hreset, bind_ok hsave]
  rfl

/-- The settings of what the file holds are printed as code. -/
lemma showSettings_ok (hholds : Holds path found h.platform) {settings : Json}
    (hbuild : Settings.build (storeOf path found) = (settings, none)) :
    showSettings preferences h =
      (.ok (.done 0 (Console.code (Json.writeIndented 0 settings))),
        (h.addStore (storeOf path found)).2) := by
  have hstore : (h.addStore (storeOf path found)).2.store h.stores.length = storeOf path found :=
    Host.store_addStore _ h
  have hsettings : Wire.buildSettings h.stores.length (h.addStore (storeOf path found)).2 =
      (.ok settings, (h.addStore (storeOf path found)).2) := by
    rw [Wire.buildSettings, get_bind, hstore, Settings.buildNoted, hbuild]
    rfl
  rw [showSettings, bind_ok (loadedStore_ok hpath hholds), bind_ok hsettings]
  rfl

end Verbs

/-- A text that is refused ends with a complaint, if that can be printed, and nothing happens. -/
lemma setSchema_refused (preferences : Option String) {value : String}
    (hrefused : ∀ schemas, Schema.check value ≠ .ok schemas) :
    (∃ lines, setSchema value preferences h = (.ok (.done 1 lines), h)) ∨
      ∃ fault, setSchema value preferences h = (.error fault, h) := by
  cases hcheck : Schema.check value with
  | ok schemas => exact absurd hcheck (hrefused schemas)
  | error rejection =>
    rw [setSchema, hcheck]
    dsimp only
    cases complaint ("invalid schema mapping: " ++ rejection.message.display) with
    | ok lines => exact .inl ⟨lines, rfl⟩
    | error fault => exact .inr ⟨fault, rfl⟩

/-! ## Edits -/

/-- A command that edits the schema preference. -/
inductive Edit where
  | set (value : String)
  | clear
  deriving DecidableEq

/-- A text that is accepted is not blank. -/
lemma isBlank_of_check {value : String} {schemas : SchemaMapping}
    (h : Schema.check value = .ok schemas) : Text.isBlank value = false := by
  rw [Schema.check, Text.ofString, Text.toChars?_ofChars] at h
  cases hread : Schema.readMapping value.toList with
  | error complaints => simp [hread, Except.mapError] at h
  | ok found =>
    obtain ⟨entries, htext, -⟩ := Schema.readMapping_eq_ok.1 hread
    exact Text.isBlank_of_schemaText htext

namespace Edit

/-- The verb of an edit. -/
def verb : Edit → Verb
  | set value => .schemaSet value
  | clear => .schemaClear

/-- The text that an edit leaves under the schema preference, which none is left under when it is
empty. -/
def text : Edit → Text
  | set value => value
  | clear => []

/-- The settings for a schema mapping. -/
def envelope (schemas : SchemaMapping) : Json :=
  Json.object [("yaml", Json.object
    [("schemas", schemas.toJson), ("validate", .bool true), ("completion", .bool true),
      ("hover", .bool true)])]

/-- The settings after an edit that is accepted. -/
def settings? : Edit → Option Json
  | set value => (Schema.check value).toOption.map envelope
  | clear => some (Json.object [("yaml", Json.object [])])

/-- The edit is accepted. -/
def isAccepted (edit : Edit) : Bool :=
  edit.settings?.isSome

/-- A text is accepted exactly if its check finds a mapping. -/
lemma isAccepted_set {value : String} :
    (set value).isAccepted = true ↔ ∃ schemas, Schema.check value = .ok schemas := by
  rw [isAccepted, settings?]
  cases Schema.check value <;> simp [Except.toOption]

lemma exists_of_refused {edit : Edit} (h : edit.isAccepted = false) :
    ∃ value : String, edit = set value ∧ ∀ schemas, Schema.check value ≠ .ok schemas := by
  cases edit with
  | clear => cases h
  | set value =>
    refine ⟨value, rfl, fun schemas hcheck => ?_⟩
    rw [isAccepted_set.2 ⟨schemas, hcheck⟩] at h
    cases h

/-- The settings of a store with the text of an accepted edit. -/
lemma build_of_accepted {edit : Edit} {settings : Json} (haccepted : edit.settings? = some settings)
    {store : PreferenceStore} (hstore : store.get schemaKey = edit.text) :
    Settings.build store = (settings, none) := by
  cases edit with
  | set value =>
    rw [settings?] at haccepted
    cases hcheck : Schema.check value with
    | error rejection => simp [hcheck, Except.toOption] at haccepted
    | ok schemas =>
      rw [hcheck] at haccepted
      cases haccepted
      have hblank : Text.isBlank value = false := isBlank_of_check hcheck
      rw [Settings.build, hstore, text, Settings.blockFor, Settings.schemasOf, hblank,
        if_neg Bool.false_ne_true, hcheck]
      rfl
  | clear =>
    cases haccepted
    rw [Settings.build, hstore]
    rfl

end Edit

/-- The last edit of a sequence that is accepted. -/
def lastAccepted (edits : List (Edit × Outcome)) : Option Edit :=
  ((edits.map Prod.fst).filter Edit.isAccepted).getLast?

/-! ## Single commands -/

/-- A command line asks for something about the preferences at a path. Its log is opened, and that
leaves the file of preferences alone. -/
structure Invokes (words : List String) (verb : Verb) (path : Path) (h : CliHost) (p : Platform) :
    Prop where
  asks : ∃ printLogs level rest preferences, split words = some (printLogs, level, rest) ∧
    readCommand rest = some (verb, preferences) ∧
    (preferences.map Path.ofString).getD h.preferencesPath = path ∧
    Journal.openLog printLogs (some level) none h.platform = (.ok (), p)
  apart : SameFile path h.platform p

/-- A machine whose journal takes lines from a level on. -/
def printed (level : Level) (p : Platform) : Platform :=
  { p with journal := { p.journal with level } }

variable {words : List String} {verb : Verb} {opened : Platform}

/-- A log that is printed leaves every file alone. -/
lemma invokes_printed (preferences : Option String) {level : Level} {rest : List String}
    (hsplit : split words = some (true, level, rest))
    (hread : readCommand rest = some (verb, preferences))
    (hpath : (preferences.map Path.ofString).getD h.preferencesPath = path) :
    Invokes words verb path h (printed level h.platform) where
  asks := ⟨true, level, rest, preferences, hsplit, hread, hpath, rfl⟩
  apart := ⟨rfl, rfl⟩

/-- Such a command line does what the verb asks for once the log is open. -/
lemma Invokes.run_eq (hinvokes : Invokes words verb path h opened) :
    ∃ preferences, (preferences.map Path.ofString).getD h.preferencesPath = path ∧
      (∀ outcome h', execute preferences verb { h with platform := opened } = (.ok outcome, h') →
        run words h = (outcome, h')) ∧
      ∀ fault h', execute preferences verb { h with platform := opened } = (.error fault, h') →
        run words h = (.failed fault, h') := by
  obtain ⟨printLogs, level, rest, preferences, hsplit, hread, hpath, hopen⟩ := hinvokes.asks
  have hlog : onPlatform (Journal.openLog printLogs (some level) none) h =
      (.ok (), { h with platform := opened }) := by
    rw [onPlatform, hopen]
  have hwords : executeWords printLogs level rest h =
      execute preferences verb { h with platform := opened } := by
    rw [executeWords, bind_ok hlog, hread]
  refine ⟨preferences, hpath, fun outcome h' hexecute => ?_, fun fault h' hexecute => ?_⟩
  · rw [run, hsplit]
    dsimp only
    rw [hwords, hexecute]
  · rw [run, hsplit]
    dsimp only
    rw [hwords, hexecute]

/-- An edit that is refused ends with exit code one, and the file stays as it is. -/
lemma run_refused {edit : Edit} (hrefused : edit.isAccepted = false)
    (hinvokes : Invokes words edit.verb path h opened) :
    (run words h).1.exitCode = 1 ∧ SameFile path h.platform (run words h).2.platform := by
  obtain ⟨preferences, -, hok, herror⟩ := hinvokes.run_eq
  obtain ⟨value, rfl, hcheck⟩ := Edit.exists_of_refused hrefused
  obtain ⟨lines, hset⟩ | ⟨fault, hset⟩ := setSchema_refused preferences
    (h := { h with platform := opened }) hcheck
  · rw [hok _ _ hset]
    exact ⟨rfl, hinvokes.apart⟩
  · rw [herror _ _ hset]
    exact ⟨rfl, hinvokes.apart⟩

/-- An edit that is accepted ends with exit code zero and rewrites the file. -/
lemma run_accepted {edit : Edit} (haccepted : edit.isAccepted = true)
    (hinvokes : Invokes words edit.verb path h opened) (hholds : Holds path found h.platform)
    (hcan : CanSave path opened) :
    (run words h).1.exitCode = 0 ∧
      Holds path (some (rewritten edit.text found)) (run words h).2.platform := by
  obtain ⟨preferences, hpath, hok, -⟩ := hinvokes.run_eq
  have hopened := hholds.of_same hinvokes.apart
  cases edit with
  | set value =>
    obtain ⟨schemas, hcheck⟩ := Edit.isAccepted_set.1 haccepted
    obtain ⟨h', hset, hsaved⟩ :=
      setSchema_accepted (h := { h with platform := opened }) hpath hcheck hopened hcan
    rw [hok _ _ hset]
    exact ⟨rfl, hsaved⟩
  | clear =>
    obtain ⟨h', hclear, hsaved⟩ :=
      clearSchema_ok (h := { h with platform := opened }) hpath hopened hcan
    rw [hok _ _ hclear]
    exact ⟨rfl, hsaved⟩

/-- The lines of the settings are printed exactly if they fit. -/
lemma run_settings {settings : Json} (hinvokes : Invokes words .settings path h opened)
    (hholds : Holds path found h.platform)
    (hbuild : Settings.build (storeOf path found) = (settings, none)) :
    ∃ lines, (run words h).1 = .done 0 lines ∧
      (lines = Console.linesOf (Json.writeIndented 0 settings) ↔
        Console.Fits (Json.writeIndented 0 settings)) := by
  obtain ⟨preferences, hpath, hok, -⟩ := hinvokes.run_eq
  have hshow := showSettings_ok (h := { h with platform := opened }) hpath
    (hholds.of_same hinvokes.apart) hbuild
  rw [hok _ _ hshow]
  exact ⟨_, rfl, Console.code_eq_linesOf (Json.solid_writeIndented 0 settings)⟩

/-! ## Any number of commands -/

/-- Edits one after another, with their outcomes. Between them the file is left alone, and an edit
that is accepted can save it. -/
inductive Session (path : Path) : Platform → List (Edit × Outcome) → Platform → Prop
  | rest {p p' : Platform} : SameFile path p p' → Session path p [] p'
  | edit {p p' opened : Platform} {h : CliHost} {words : List String} {edit : Edit}
    {edits : List (Edit × Outcome)} : SameFile path p h.platform →
    Invokes words edit.verb path h opened → (edit.isAccepted = true → CanSave path opened) →
    Session path (run words h).2.platform edits p' →
    Session path p ((edit, (run words h).1) :: edits) p'

/-- What the file holds before and after edits: a key of another name shows what it did, and the
schema preference is the text of the last edit that was accepted, if there is one. -/
structure Settles (path : Path) (edits : List (Edit × Outcome))
    (found found' : Option (List (Text × Text))) : Prop where
  others : ∀ key ≠ schemaKey, (storeOf path found').get key = (storeOf path found).get key
  untouched : lastAccepted edits = none → found' = found
  last : ∀ edit, lastAccepted edits = some edit → ∃ values, found' = some values ∧
    findMember? schemaKey values = if edit.text = [] then none else some edit.text

lemma lastAccepted_refused {edit : Edit} (hrefused : edit.isAccepted = false) (outcome : Outcome)
    (edits : List (Edit × Outcome)) :
    lastAccepted ((edit, outcome) :: edits) = lastAccepted edits := by
  rw [lastAccepted, List.map_cons, List.filter_cons_of_neg (by simp [hrefused]), lastAccepted]

lemma lastAccepted_accepted {edit : Edit} (haccepted : edit.isAccepted = true) (outcome : Outcome)
    (edits : List (Edit × Outcome)) :
    lastAccepted ((edit, outcome) :: edits) = some ((lastAccepted edits).getD edit) := by
  rw [lastAccepted, List.map_cons, List.filter_cons_of_pos haccepted, List.getLast?_cons,
    lastAccepted]

lemma isAccepted_of_lastAccepted {edit : Edit} {edits : List (Edit × Outcome)}
    (h : lastAccepted edits = some edit) : edit.isAccepted = true :=
  (List.mem_filter.1 (List.mem_of_getLast? h)).2

/-- Edits that are all refused leave the file as it is. -/
lemma Session.sameFile {edits : List (Edit × Outcome)} (hsession : Session path p edits p')
    (hnone : lastAccepted edits = none) : SameFile path p p' := by
  induction hsession with
  | rest hsame => exact hsame
  | @edit p p' opened h words edit edits hsame hinvokes hcan _ ih =>
    cases haccepted : edit.isAccepted with
    | true => simp [lastAccepted_accepted haccepted] at hnone
    | false =>
      rw [lastAccepted_refused haccepted] at hnone
      exact hsame.trans ((run_refused haccepted hinvokes).2.trans (ih hnone))

/-- **Sessions.** Every edit ends as it should, and the file holds what the last accepted one asked
for. -/
theorem Session.settles {edits : List (Edit × Outcome)} (hsession : Session path p edits p')
    (hholds : Holds path found p) :
    (∀ e ∈ edits, e.2.exitCode = if e.1.isAccepted then 0 else 1) ∧
      ∃ found', Holds path found' p' ∧ Settles path edits found found' := by
  induction hsession generalizing found with
  | rest hsame =>
    exact ⟨List.forall_mem_nil _, found, hholds.of_same hsame, fun _ _ => rfl, fun _ => rfl,
      by rintro edit ⟨⟩⟩
  | @edit p p' opened h words edit edits hsame hinvokes hcan _ ih =>
    cases haccepted : edit.isAccepted with
    | false =>
      obtain ⟨hexit, hfile⟩ := run_refused haccepted hinvokes
      obtain ⟨hcodes, found', hholds', hsettles⟩ := ih ((hholds.of_same hsame).of_same hfile)
      refine ⟨List.forall_mem_cons.2 ⟨by rw [hexit, haccepted]; rfl, hcodes⟩, found', hholds',
        hsettles.others, ?_, ?_⟩
      · rw [lastAccepted_refused haccepted]
        exact hsettles.untouched
      · rw [lastAccepted_refused haccepted]
        exact hsettles.last
    | true =>
      obtain ⟨hexit, hrewritten⟩ :=
        run_accepted haccepted hinvokes (hholds.of_same hsame) (hcan haccepted)
      obtain ⟨hcodes, found', hholds', hsettles⟩ := ih hrewritten
      refine ⟨List.forall_mem_cons.2 ⟨by rw [hexit, haccepted]; rfl, hcodes⟩, found', hholds',
        ?_, ?_, ?_⟩
      · intro key hkey
        rw [hsettles.others key hkey, get_storeOf, get_storeOf, Option.getD_some,
          findMember?_rewritten, if_neg (Ne.symm hkey)]
      · rw [lastAccepted_accepted haccepted]
        rintro ⟨⟩
      · intro last hlast
        rw [lastAccepted_accepted haccepted] at hlast
        cases hrest : lastAccepted edits with
        | some later =>
          rw [hrest] at hlast
          cases hlast
          exact hsettles.last _ hrest
        | none =>
          rw [hrest] at hlast
          cases hlast
          refine ⟨_, hsettles.untouched hrest, ?_⟩
          rw [findMember?_rewritten, if_pos rfl]
          rfl

/-- **Agreement of the commands.** A text that is refused ends with exit code one and leaves the file
as it is, whatever that holds. After any number of edits of a file that is absent or loads, each of
which ended with exit code zero if it was accepted, the file holds the text of the last accepted
one, and no text after the preference was cleared; every other key shows what it did. The settings
after that are those of the last accepted edit, and their lines are printed as they are exactly if
they fit on the console. -/
theorem schema_commands_agree (path : Path) :
    (∀ {words : List String} {value : String} {h : CliHost} {opened : Platform},
      Invokes words (.schemaSet value) path h opened →
      (∀ schemas, Schema.check value ≠ .ok schemas) →
        (run words h).1.exitCode = 1 ∧ SameFile path h.platform (run words h).2.platform) ∧
    ∀ {p p' : Platform} {edits : List (Edit × Outcome)} {found : Option (List (Text × Text))},
      Session path p edits p' → Holds path found p →
        (∀ e ∈ edits, e.2.exitCode = if e.1.isAccepted then 0 else 1) ∧
        (lastAccepted edits = none → SameFile path p p') ∧
        ∃ found', Holds path found' p' ∧
          (∀ key ≠ schemaKey, (storeOf path found').get key = (storeOf path found).get key) ∧
          ∀ edit, lastAccepted edits = some edit →
            (storeOf path found').get schemaKey = edit.text ∧
            (edit = .clear → ∃ values, found' = some values ∧
              schemaKey ∉ values.map Prod.fst) ∧
            ∃ settings, edit.settings? = some settings ∧
              ∀ {words : List String} {h : CliHost} {opened : Platform},
                SameFile path p' h.platform → Invokes words .settings path h opened →
                  ∃ lines, (run words h).1 = .done 0 lines ∧
                    (lines = Console.linesOf (Json.writeIndented 0 settings) ↔
                      Console.Fits (Json.writeIndented 0 settings)) := by
  constructor
  · intro words value h opened hinvokes hrefused
    have hnot : (Edit.set value).isAccepted = false := by
      refine Bool.eq_false_iff.2 fun haccepted => ?_
      obtain ⟨schemas, hcheck⟩ := Edit.isAccepted_set.1 haccepted
      exact hrefused schemas hcheck
    exact run_refused hnot hinvokes
  · intro p p' edits found hsession hholds
    obtain ⟨hcodes, found', hholds', hsettles⟩ := hsession.settles hholds
    refine ⟨hcodes, hsession.sameFile, found', hholds', hsettles.others, fun edit hlast => ?_⟩
    obtain ⟨values, rfl, hschema⟩ := hsettles.last edit hlast
    have hget : (storeOf path (some values)).get schemaKey = edit.text := get_schemaKey hschema
    obtain ⟨settings, hsettings⟩ := Option.isSome_iff_exists.1 (isAccepted_of_lastAccepted hlast)
    refine ⟨hget, ?_, settings, hsettings, fun hsame hinvokes => ?_⟩
    · rintro rfl
      refine ⟨values, rfl, fun hmem => ?_⟩
      have hsome := (isSome_findMember? schemaKey values).2 hmem
      rw [hschema] at hsome
      cases hsome
    · exact run_settings hinvokes (hholds'.of_same hsame) (Edit.build_of_accepted hsettings hget)

/-! ## A session -/

/-- The words that set the schema preference in a file to any text, with the log printed. -/
def setWords (value : String) : List String :=
  ["--print-logs", "schema", "set", "--preferences", "/p.json", "--", value]

/-- The words that show its settings. -/
def settingsWords : List String :=
  ["--print-logs", "settings", "--preferences", "/p.json"]

lemma invokes_setWords (value : String) (h : CliHost) :
    Invokes (setWords value) (.schemaSet value) Host.mixedPath h (printed .info h.platform) :=
  invokes_printed (some "/p.json") rfl rfl
    (show Path.ofString "/p.json" = Host.mixedPath by decide)

lemma invokes_settingsWords (h : CliHost) :
    Invokes settingsWords .settings Host.mixedPath h (printed .info h.platform) :=
  invokes_printed (some "/p.json") rfl rfl
    (show Path.ofString "/p.json" = Host.mixedPath by decide)

lemma canSave_printed : CanSave Host.mixedPath (printed .info Host.mixedPlatform) where
  noNul := by decide
  slot := ⟨0, rfl, by rintro handle ⟨⟩⟩

/-- One text after another. -/
lemma session_setWords (value other : String) (h : CliHost)
    (hcan : CanSave Host.mixedPath (printed .info h.platform))
    (hother : (Edit.set other).isAccepted = false) :
    Session Host.mixedPath h.platform
      [(.set value, (run (setWords value) h).1),
        (.set other, (run (setWords other) (run (setWords value) h).2).1)]
      (run (setWords other) (run (setWords value) h).2).2.platform := by
  refine .edit (.refl _ _) (invokes_setWords value h) (fun _ => hcan) ?_
  refine .edit (.refl _ _) (invokes_setWords other _) (fun haccepted => ?_) (.rest (.refl _ _))
  rw [hother] at haccepted
  cases haccepted

lemma exitCodes_pair {edit other : Edit} {outcome outcome' : Outcome}
    (h : ∀ e ∈ [(edit, outcome), (other, outcome')],
      e.2.exitCode = if e.1.isAccepted then 0 else 1) :
    outcome.exitCode = (if edit.isAccepted then 0 else 1) ∧
      outcome'.exitCode = if other.isAccepted then 0 else 1 :=
  ⟨h (edit, outcome) (.head _), h (other, outcome') (.tail _ (.head _))⟩

/-- A schema text. -/
def plainText : String :=
  "\x7b\"a\": \"b\"\x7d"

/-- A text that is none. -/
def wrongText : String :=
  "x"

/-- The mapping of the schema text. -/
def plainSchemas : SchemaMapping :=
  [("a", .one "b")]

/-- The settings for it, line by line. -/
def plainLines : List String :=
  ["\x7b", "  \"yaml\": \x7b", "    \"schemas\": \x7b", "      \"a\": \"b\"", "    \x7d,",
    "    \"validate\": true,", "    \"completion\": true,", "    \"hover\": true", "  \x7d", "\x7d"]

/-- A machine with a preference file that holds more than strings. -/
def mixedHost : CliHost :=
  Host.empty Host.mixedPlatform Host.mixedPath

lemma settings?_plainText :
    (Edit.set plainText).settings? = some (Edit.envelope plainSchemas) := by
  have hcheck : (Schema.check plainText).toOption = some plainSchemas := by decide +kernel
  rw [Edit.settings?, hcheck]
  rfl

lemma linesOf_plainSchemas :
    Console.linesOf (Json.writeIndented 0 (Edit.envelope plainSchemas)) = plainLines :=
  rfl

/-- A schema text is accepted and another text is refused then. The settings are those of the first,
and another key shows what it did. -/
theorem settings_after_refused_edit :
    (run (setWords plainText) mixedHost).1.exitCode = 0 ∧
    (run (setWords wrongText) (run (setWords plainText) mixedHost).2).1.exitCode = 1 ∧
    SameFile Host.mixedPath (run (setWords plainText) mixedHost).2.platform
      (run (setWords wrongText) (run (setWords plainText) mixedHost).2).2.platform ∧
    (run settingsWords (run (setWords wrongText) (run (setWords plainText) mixedHost).2).2).1 =
      .done 0 plainLines ∧
    ∃ found, Holds Host.mixedPath found
        (run (setWords wrongText) (run (setWords plainText) mixedHost).2).2.platform ∧
      (storeOf Host.mixedPath found).get "a" = Text.ofString "\x7b\"k\": 1\x7d" := by
  have haccepted : (Edit.set plainText).isAccepted = true := by
    rw [Edit.isAccepted, settings?_plainText]
    rfl
  have hrefused : (Edit.set wrongText).isAccepted = false := by decide +kernel
  have hwrong : ∀ schemas, Schema.check wrongText ≠ .ok schemas := fun schemas hcheck => by
    simp [Edit.isAccepted_set.2 ⟨schemas, hcheck⟩] at hrefused
  have hsame := ((schema_commands_agree Host.mixedPath).1
    (invokes_setWords wrongText (run (setWords plainText) mixedHost).2) hwrong).2
  have hsession := session_setWords plainText wrongText mixedHost canSave_printed hrefused
  have hholds : Holds Host.mixedPath (some Host.mixedValues) mixedHost.platform :=
    Host.load_mixedPlatform
  -- The two runs are never looked into: what they do is all in the theorem.
  generalize run (setWords plainText) mixedHost = first at hsession hsame ⊢
  generalize run (setWords wrongText) first.2 = second at hsession hsame ⊢
  obtain ⟨hcodes, -, found, hfound, hothers, hlast⟩ :=
    (schema_commands_agree Host.mixedPath).2 hsession hholds
  obtain ⟨hfirst, hsecond⟩ := exitCodes_pair hcodes
  rw [haccepted] at hfirst
  rw [hrefused] at hsecond
  have hlatest : lastAccepted [(.set plainText, first.1), (.set wrongText, second.1)] =
      some (.set plainText) := by
    rw [lastAccepted_accepted haccepted, lastAccepted_refused hrefused]
    rfl
  obtain ⟨-, -, settings, hsettings, hshown⟩ := hlast _ hlatest
  obtain rfl := Option.some.inj (settings?_plainText.symm.trans hsettings)
  obtain ⟨lines, hlines, hfits⟩ :=
    hshown (.refl _ second.2.platform) (invokes_settingsWords second.2)
  refine ⟨hfirst, hsecond, hsame, ?_, found, hfound, ?_⟩
  · rw [hlines, hfits.2 (by decide +kernel), linesOf_plainSchemas]
  · rw [hothers "a" (by decide +kernel), get_storeOf]
    decide +kernel

/-- A schema for files whose name has no room on the console. -/
def longSchemas : SchemaMapping :=
  [("a", .one (.ofChars (List.replicate 1000 'g')))]

/-- Its text. -/
def longText : String :=
  String.ofList (Json.write longSchemas.toJson)

lemma check_longText : Schema.check longText = .ok longSchemas := by
  have hwhole : SchemaMapping.IsWhole longSchemas :=
    List.forall_mem_singleton.2 ⟨Text.isWhole_ofChars _, Text.isWhole_ofChars _⟩
  have htext : Text.ofString longText = longSchemas.text := by
    rw [longText, Text.ofString, String.toList_ofList, SchemaMapping.text]
  rw [htext]
  exact Schema.check_text (by decide) hwhole

/-- A schema text is accepted and saved, and still the settings for it are not printed in full. -/
theorem long_settings_cut_off :
    Schema.check longText = .ok longSchemas ∧
    Holds Host.mixedPath (some Host.mixedValues) mixedHost.platform ∧
    (run (setWords longText) mixedHost).1.exitCode = 0 ∧
    ∃ lines, (run settingsWords (run (setWords longText) mixedHost).2).1 = .done 0 lines ∧
      lines ≠ Console.linesOf (Json.writeIndented 0 (Edit.envelope longSchemas)) := by
  have haccepted : (Edit.set longText).isAccepted = true :=
    Edit.isAccepted_set.2 ⟨_, check_longText⟩
  have hsettings : (Edit.set longText).settings? = some (Edit.envelope longSchemas) := by
    rw [Edit.settings?, check_longText]
    rfl
  have hholds : Holds Host.mixedPath (some Host.mixedValues) mixedHost.platform :=
    Host.load_mixedPlatform
  obtain ⟨hexit, hsaved⟩ :=
    run_accepted haccepted (invokes_setWords longText mixedHost) hholds canSave_printed
  refine ⟨check_longText, hholds, hexit, ?_⟩
  generalize run (setWords longText) mixedHost = first at hsaved ⊢
  obtain ⟨lines, hlines, hfits⟩ := run_settings (invokes_settingsWords first.2) hsaved
    (Edit.build_of_accepted hsettings (get_storeOf_rewritten _))
  refine ⟨lines, hlines, fun hwhole => ?_⟩
  have hlong : ¬ Console.Fits (Json.writeIndented 0 (Edit.envelope longSchemas)) := by
    decide +kernel
  exact hlong (hfits.1 hwhole)

end CommandLine

end LanguageHost
