import Mathlib.Data.List.GetD
import LanguageHost.Host.Plugin
import LanguageHost.Proofs.Link
import LanguageHost.Proofs.Seeding
import LanguageHost.Proofs.View

/-!
# Plugins that share a registry

Plugins are built one after another, over any stores and workspaces, and over registries that they
may share. A registry keeps the definition that came first, so the plugins over one registry have
one definition, and its providers seed servers from the store and the workspace of whoever came
first. An adapter is over the store and the workspace of its own plugin all the same. Hence a plugin
seeds its servers from its own state exactly if whoever came first to its registry is over the same
store and workspace.
-/

namespace LanguageHost

open Act Host

variable {γ : Type}

/-- The store, the workspace and the registry that a plugin is built over. -/
structure Parts where
  store : Nat
  workspace : Nat
  registry : Nat

/-- What the definition that a plugin brings along makes its providers from. -/
def Parts.source (parts : Parts) : ProviderSource :=
  .yaml parts.store parts.workspace

/-- What the providers from a source do with every message. -/
def ProviderSource.hook : ProviderSource → Hook
  | .yaml store workspace => .seed store workspace
  | .labelled _ => .none

namespace Host

/-- The number of the definition of the YAML server that a registry holds. -/
def kept? (registry : Nat) (h : Host γ) : Option Nat :=
  findMember? Definition.yamlId (h.registries.getD registry [])

/-- What the definition of the YAML server in a registry makes its providers from, once some plugins
are built: the one that the registry holds already, or else the first that is brought along. -/
def supplier? (plugins : List Parts) (registry : Nat) (h : Host γ) : Option ProviderSource :=
  ((h.kept? registry).map fun d => (h.definition d).source).or
    ((plugins.find? fun parts => parts.registry = registry).map Parts.source)

/-- The definitions of the YAML server that registries hold are there. -/
def Catalogued (h : Host γ) : Prop :=
  ∀ registry d, h.kept? registry = some d → d < h.definitions.length

/-- The host after a plugin was built. -/
def build (h : Host γ) (parts : Parts) : Host γ :=
  (createPlugin parts.store parts.workspace parts.registry h).2

/-- The host after some plugins were built. -/
def built (plugins : List Parts) (h : Host γ) : Host γ :=
  plugins.foldl build h

variable {h h' : Host γ} {parts : Parts} {plugins : List Parts} {registry d : Nat}

/-! ## One plugin -/

/-- The definition that the registry of a new plugin holds afterwards: the one that it holds, or
else the new one. -/
def settled (registry : Nat) (h : Host γ) : Nat :=
  (h.kept? registry).getD h.definitions.length

/-- A registry after a definition of the YAML server was offered to it. -/
def offered (registry : Nat) (h : Host γ) : Registry :=
  let entries := h.registries.getD registry []
  if (h.kept? registry).isSome then entries
  else entries ++ [(Definition.yamlId, h.definitions.length)]

lemma register_yaml (registry : Nat) (h : Host γ) :
    Registry.register Definition.yamlId h.definitions.length (h.registries.getD registry []) =
      (h.settled registry, h.offered registry) := by
  unfold Registry.register settled offered kept?
  cases findMember? Definition.yamlId (h.registries.getD registry []) <;> rfl

/-- A plugin can always be built. It is over its parts, and so is its adapter. -/
lemma createPlugin_run (parts : Parts) (h : Host γ) :
    createPlugin parts.store parts.workspace parts.registry h = (.ok h.plugins.length, { h with
      definitions := h.definitions ++ [Definition.yaml parts.store parts.workspace]
      registries := h.registries.set parts.registry (h.offered parts.registry)
      adapters := h.adapters ++
        [⟨some (h.settled parts.registry), parts.store, parts.workspace, none, []⟩]
      plugins := h.plugins ++
        [⟨parts.store, parts.workspace, h.settled parts.registry, h.adapters.length⟩] }) := by
  have hsettled := congrArg Prod.fst (register_yaml parts.registry h)
  have hoffered := congrArg Prod.snd (register_yaml parts.registry h)
  dsimp only at hsettled hoffered
  rw [← hsettled, ← hoffered]
  rfl

lemma build_eq (h : Host γ) (parts : Parts) :
    h.build parts = { h with
      definitions := h.definitions ++ [Definition.yaml parts.store parts.workspace]
      registries := h.registries.set parts.registry (h.offered parts.registry)
      adapters := h.adapters ++
        [⟨some (h.settled parts.registry), parts.store, parts.workspace, none, []⟩]
      plugins := h.plugins ++
        [⟨parts.store, parts.workspace, h.settled parts.registry, h.adapters.length⟩] } :=
  congrArg Prod.snd (createPlugin_run parts h)

lemma findMember?_offered (registry : Nat) (h : Host γ) :
    findMember? Definition.yamlId (h.offered registry) = some (h.settled registry) := by
  unfold offered settled
  cases hkept : h.kept? registry with
  | some d => exact hkept
  | none =>
    rw [kept?] at hkept
    simp only [Option.isSome_none, Bool.false_eq_true, if_false, Option.getD_none]
    rw [findMember?_append, hkept]
    rfl

/-- A new plugin changes what its own registry holds, and no other one. -/
lemma kept?_build (hregistry : parts.registry < h.registries.length) (registry : Nat) :
    (h.build parts).kept? registry =
      if registry = parts.registry then some (h.settled parts.registry) else h.kept? registry := by
  rw [build_eq, kept?, List.getD_eq_getElem?_getD, List.getElem?_set]
  by_cases hsame : parts.registry = registry
  · subst hsame
    rw [if_pos rfl, if_pos hregistry, if_pos rfl, Option.getD_some, findMember?_offered]
  · rw [if_neg hsame, if_neg (Ne.symm hsame), ← List.getD_eq_getElem?_getD]
    rfl

lemma length_registries_build (h : Host γ) (parts : Parts) :
    (h.build parts).registries.length = h.registries.length := by
  rw [build_eq, List.length_set]

/-! ## What later plugins leave alone -/

/-- Definitions, adapters and plugins are only added, and a registry keeps what it holds. -/
structure Growth (h h' : Host γ) : Prop where
  definitions : h.definitions <+: h'.definitions
  adapters : h.adapters <+: h'.adapters
  plugins : h.plugins <+: h'.plugins
  registries : h'.registries.length = h.registries.length
  kept : ∀ registry d, h.kept? registry = some d → h'.kept? registry = some d

namespace Growth

lemma refl (h : Host γ) : Growth h h :=
  ⟨List.prefix_rfl, List.prefix_rfl, List.prefix_rfl, rfl, fun _ _ hkept => hkept⟩

lemma trans {h'' : Host γ} (a : Growth h h') (b : Growth h' h'') : Growth h h'' :=
  ⟨a.definitions.trans b.definitions, a.adapters.trans b.adapters, a.plugins.trans b.plugins,
    b.registries.trans a.registries,
    fun registry d hkept => b.kept registry d (a.kept registry d hkept)⟩

lemma build (hregistry : parts.registry < h.registries.length) : Growth h (h.build parts) := by
  refine ⟨?_, ?_, ?_, length_registries_build h parts, fun registry d hkept => ?_⟩
  · rw [build_eq]
    exact List.prefix_append _ _
  · rw [build_eq]
    exact List.prefix_append _ _
  · rw [build_eq]
    exact List.prefix_append _ _
  · rw [kept?_build hregistry]
    by_cases hsame : registry = parts.registry
    · rw [if_pos hsame, settled, ← hsame, hkept, Option.getD_some]
    · rw [if_neg hsame, hkept]

lemma built (hregistries : ∀ parts ∈ plugins, parts.registry < h.registries.length) :
    Growth h (h.built plugins) := by
  induction plugins generalizing h with
  | nil => exact .refl h
  | cons parts rest ih =>
    have hfirst : Growth h (h.build parts) := .build (hregistries parts List.mem_cons_self)
    refine hfirst.trans (ih fun other hother => ?_)
    rw [hfirst.registries]
    exact hregistries other (List.mem_cons_of_mem _ hother)

lemma definition (a : Growth h h') (hd : d < h.definitions.length) :
    h'.definition d = h.definition d := by
  obtain ⟨more, hmore⟩ := a.definitions
  rw [Host.definition, Host.definition, ← hmore, List.getD_append _ _ _ _ hd]

lemma adapter (a : Growth h h') {n : Nat} (hn : n < h.adapters.length) :
    h'.adapter n = h.adapter n := by
  obtain ⟨more, hmore⟩ := a.adapters
  rw [Host.adapter, Host.adapter, ← hmore, List.getD_append _ _ _ _ hn]

lemma plugin (a : Growth h h') {n : Nat} (hn : n < h.plugins.length) :
    h'.plugin n = h.plugin n := by
  obtain ⟨more, hmore⟩ := a.plugins
  rw [Host.plugin, Host.plugin, ← hmore, List.getD_append _ _ _ _ hn]

end Growth

/-! ## Whose providers a registry supplies -/

lemma Catalogued.settled_le (hknown : h.Catalogued) (registry : Nat) :
    h.settled registry ≤ h.definitions.length := by
  unfold settled
  cases hkept : h.kept? registry with
  | none => exact Nat.le_refl _
  | some d => exact Nat.le_of_lt (hknown registry d hkept)

lemma length_definitions_build (h : Host γ) (parts : Parts) :
    (h.build parts).definitions.length = h.definitions.length + 1 := by
  rw [build_eq, List.length_append, List.length_singleton]

lemma Catalogued.build (hknown : h.Catalogued) (hregistry : parts.registry < h.registries.length) :
    (h.build parts).Catalogued := by
  intro registry d hkept
  rw [kept?_build hregistry] at hkept
  rw [length_definitions_build]
  by_cases hsame : registry = parts.registry
  · rw [if_pos hsame] at hkept
    have hle := hknown.settled_le parts.registry
    rw [Option.some.inj hkept] at hle
    omega
  · rw [if_neg hsame] at hkept
    have hlt := hknown registry d hkept
    omega

lemma Growth.source (a : Growth h h') (hknown : h.Catalogued) (registry : Nat) :
    ((h.kept? registry).map fun d => (h'.definition d).source) =
      (h.kept? registry).map fun d => (h.definition d).source := by
  cases hkept : h.kept? registry with
  | none => rfl
  | some d => rw [Option.map_some, Option.map_some, a.definition (hknown registry d hkept)]

/-- The plugin that is built next supplies its registry if it came first. -/
lemma Catalogued.supplier?_build (hknown : h.Catalogued)
    (hregistry : parts.registry < h.registries.length) (plugins : List Parts) (registry : Nat) :
    (h.build parts).supplier? plugins registry = h.supplier? (parts :: plugins) registry := by
  have a : Growth h (h.build parts) := .build hregistry
  have hsource := a.source hknown registry
  rw [supplier?, supplier?, kept?_build hregistry]
  by_cases hsame : registry = parts.registry
  · subst hsame
    rw [if_pos rfl, List.find?_cons_of_pos (by simp), Option.map_some, Option.some_or]
    unfold settled
    cases hkept : h.kept? parts.registry with
    | some d =>
      rw [hkept] at hsource
      exact hsource
    | none =>
      have hnew : (h.build parts).definition h.definitions.length =
          Definition.yaml parts.store parts.workspace := by
        rw [build_eq, definition, List.getD_append_right _ _ _ _ (Nat.le_refl _), Nat.sub_self]
        rfl
      rw [Option.getD_none, hnew]
      rfl
  · rw [if_neg hsame, hsource, List.find?_cons_of_neg (by simpa using Ne.symm hsame)]

/-- A plugin among others that are built is over its parts, and so is its adapter. Its definition is
the one that its registry holds. -/
lemma plugin_built (hknown : h.Catalogued)
    (hregistries : ∀ parts ∈ plugins, parts.registry < h.registries.length) {i : Nat}
    (hi : plugins[i]? = some parts) :
    let h' := h.built plugins
    ∃ d k, h'.plugin (h.plugins.length + i) = ⟨parts.store, parts.workspace, d, k⟩ ∧
      h'.adapter k = ⟨some d, parts.store, parts.workspace, none, []⟩ ∧
      h'.kept? parts.registry = some d ∧
      h.supplier? plugins parts.registry = some (h'.definition d).source := by
  induction plugins generalizing h i with
  | nil => cases hi
  | cons first rest ih =>
    have hregistry := hregistries first List.mem_cons_self
    have hrest : ∀ other ∈ rest, other.registry < (h.build first).registries.length := by
      intro other hother
      rw [length_registries_build]
      exact hregistries other (List.mem_cons_of_mem _ hother)
    have hknown' := hknown.build hregistry
    cases i with
    | zero =>
      obtain rfl : first = parts := Option.some.inj hi
      have a : Growth (h.build first) (h.built (first :: rest)) := .built hrest
      have hkept : (h.build first).kept? first.registry = some (h.settled first.registry) := by
        rw [kept?_build hregistry, if_pos rfl]
      have hplugin : (h.build first).plugin h.plugins.length =
          ⟨first.store, first.workspace, h.settled first.registry, h.adapters.length⟩ := by
        rw [build_eq, plugin, List.getD_append_right _ _ _ _ (Nat.le_refl _), Nat.sub_self]
        rfl
      have hadapter : (h.build first).adapter h.adapters.length =
          ⟨some (h.settled first.registry), first.store, first.workspace, none, []⟩ := by
        rw [build_eq, adapter, List.getD_append_right _ _ _ _ (Nat.le_refl _), Nat.sub_self]
        rfl
      refine ⟨h.settled first.registry, h.adapters.length, ?_, ?_, a.kept _ _ hkept, ?_⟩
      · rw [Nat.add_zero, a.plugin (by rw [build_eq]; simp), hplugin]
      · rw [a.adapter (by rw [build_eq]; simp), hadapter]
      · rw [← hknown.supplier?_build hregistry, supplier?, hkept, Option.map_some, Option.some_or,
          a.definition (hknown' _ _ hkept)]
    | succ i =>
      obtain ⟨d, k, hplugin, hparts⟩ := ih hknown' hrest hi
      have hlength : (h.build first).plugins.length + i = h.plugins.length + (i + 1) := by
        rw [build_eq, List.length_append, List.length_singleton]
        omega
      rw [hlength] at hplugin
      rw [hknown.supplier?_build hregistry] at hparts
      exact ⟨d, k, hplugin, hparts⟩

end Host

lemma ProviderSource.hook_eq_seed {source : ProviderSource} {store workspace : Nat} :
    source.hook = .seed store workspace ↔ source = .yaml store workspace := by
  cases source <;> simp [ProviderSource.hook]

/-- A connection comes with the hook of its source. -/
lemma Host.hook_of_provide {source : ProviderSource} {h : Host γ} {connection : Connection}
    {hook : Hook} (hprovided : (provide source h).1 = .ok (connection, hook)) :
    hook = source.hook := by
  cases source with
  | labelled name =>
    cases hprovided
    rfl
  | yaml store workspace =>
    rw [provide] at hprovided
    rcases hlocated : (Act.onPlatform YamlProvider.located : Act γ Connection) h with
      ⟨fault | found, h'⟩
    · rw [bind_error hlocated] at hprovided
      cases hprovided
    · rw [bind_ok hlocated] at hprovided
      cases hprovided
      rfl

/-- What a session sends that seeds its server from a store and a workspace: the settings of the
store and the folders of the workspace, as far as the wire takes them. -/
def Wire.seeding (wire : Wire γ) (store workspace n : Nat) (h : Host γ) : List Sent :=
  handed wire n (Notice.configuration (Settings.build (h.store store)).1).message
      (atSettings store n h) ++
    (Folders.initial (h.workspace workspace) h.platform).1.toOption.elim [] fun uris =>
      handed wire n (Notice.folders (Folders.changeParams uris [])).message
        (atFolders wire store workspace n h)

/-- **Plugins seed their servers from whoever came first.** Plugins are built over any stores,
workspaces and registries. Each one is over its own parts, and its adapter, once started, sends the
sessions of its definition the settings of its own store and the changes of its own workspace. Its
definition is the one that its registry holds, and sessions of it seed their servers from the store
and the workspace of whoever came first to the registry. So a plugin's servers are seeded from its
own state exactly if who came first is over the same store and workspace. -/
theorem plugin_seeds_own_iff (plugins : List Parts) (i : Nat) (parts : Parts) {h : Host γ}
    (hknown : h.Catalogued) (hregistries : ∀ parts ∈ plugins, parts.registry < h.registries.length)
    (hi : plugins[i]? = some parts) :
    let h' := h.built plugins
    let p := h'.plugin (h.plugins.length + i)
    ∃ source, h.supplier? plugins parts.registry = some source ∧
      p.store = parts.store ∧ p.workspace = parts.workspace ∧
      h'.kept? parts.registry = some p.definition ∧
      (h'.definition p.definition).source = source ∧
      (∀ (h₁ : Host γ) connection hook,
        (provide source h₁).1 = .ok (connection, hook) → hook = source.hook) ∧
      (source.hook = .seed p.store p.workspace ↔ source = parts.source) ∧
      (∀ {wire : Wire γ} {n : Nat} {h₁ : Host γ} {message : Json}, wire.Relays n →
        (h₁.session n).isWired = true → (h₁.session n).endpoint.isSome = true →
        Message.isStartResult message = .ok true → (h₁.session n).hook = source.hook →
        ∀ store workspace, source = .yaml store workspace →
          Sends n (wire.seeding store workspace n h₁) h₁ (wire.behindHook n message h₁)) ∧
      ∀ h₂ : Host γ, h₂.adapter p.adapter = h'.adapter p.adapter →
        let settings : Listener γ := .settings (some p.definition) p.store schemaKey none
        let listeners := h₂.listeners ++ [settings]
        ∃ (platform : Platform) (adapters : List Adapter),
          startAdapter p.adapter h₂ = (.ok (), { h₂ with
            platform
            adapters
            stores := h₂.stores.set p.store { h₂.store p.store with
              bus := (h₂.store p.store).bus.subscribe preferenceTopic h₂.listeners.length }
            workspaces := h₂.workspaces.set p.workspace
              ((h₂.workspace p.workspace).subscribe postChange listeners.length)
            listeners := listeners ++ [.folders (some p.definition) none] }) := by
  intro h' p
  obtain ⟨d, k, hplugin, hadapter, hkept, hsupplier⟩ := plugin_built hknown hregistries hi
  have hp : p = ⟨parts.store, parts.workspace, d, k⟩ := hplugin
  rw [hp]
  refine ⟨(h'.definition d).source, hsupplier, rfl, rfl, hkept, rfl,
    fun h₁ connection hook hprovided => hook_of_provide hprovided, ProviderSource.hook_eq_seed,
    ?_, ?_⟩
  · intro wire n h₁ message hrelays hwired hopen hstart hhook store workspace hsource
    rw [hsource] at hhook
    exact hrelays.seeds hwired hopen hstart hhook
  · intro h₂ hsame settings listeners
    obtain ⟨platform, adapters, -, hrun⟩ := startAdapter_run (hsame.trans hadapter)
    exact ⟨platform, adapters, hrun⟩

/-- The small host with another store, another workspace and two registries. -/
def Host.furnished : Host Empty :=
  { Host.small with
    stores := [.empty ⟨.root, []⟩, .empty ⟨.root, []⟩]
    workspaces := [.empty, .empty]
    registries := [[], []] }

lemma Host.catalogued_furnished : furnished.Catalogued := by
  intro registry d hkept
  match registry with
  | 0 | 1 => cases hkept
  | registry + 2 => cases hkept

/-- A plugin that shares its registry with one over the same store and workspace seeds its servers
from these, whatever plugins are built over another registry. -/
theorem plugin_seeds_own_beside_others :
    let h' := Host.furnished.built [⟨0, 0, 0⟩, ⟨1, 1, 1⟩, ⟨0, 0, 0⟩]
    let p := h'.plugin 2
    let message := StartResult.plain.val
    (h'.definition p.definition).source = .yaml 0 0 ∧
      (∃ connection, (provide (h'.definition p.definition).source h').1 =
        .ok (connection, .seed 0 0)) ∧
      (Wire.behindHook Wire.writeToChild 0 message h').said 0 =
        Wire.seeding Wire.writeToChild 0 0 0 h' ∧
      (startAdapter p.adapter h').2.listeners =
        [.settings (some p.definition) 0 schemaKey none, .folders (some p.definition) none] := by
  intro h' p message
  obtain ⟨source, hsupplier, hst, hws, -, hsource, hhooks, hown, hsends, hstarts⟩ :=
    plugin_seeds_own_iff [⟨0, 0, 0⟩, ⟨1, 1, 1⟩, ⟨0, 0, 0⟩] 2 ⟨0, 0, 0⟩
      Host.catalogued_furnished (by decide) rfl
  have hfirst : source = .yaml 0 0 := Option.some.inj (hsupplier.symm.trans rfl)
  have hstore : p.store = 0 := hst
  have hworkspace : p.workspace = 0 := hws
  have hhook : source.hook = .seed p.store p.workspace := hown.2 hfirst
  rw [hstore, hworkspace] at hhook
  have hsame : (h'.definition p.definition).source = source := hsource
  refine ⟨hsame.trans hfirst, ?_, ?_, ?_⟩
  · rw [hsame]
    have hgiven : (provide source h').1.isOk = true := by
      rw [hfirst]
      decide +kernel
    rcases hresult : (provide source h').1 with fault | ⟨connection, hook⟩
    · rw [hresult] at hgiven
      cases hgiven
    · rw [hhooks h' connection hook hresult, hhook]
      exact ⟨connection, rfl⟩
  · have hopen : (h'.session 0).endpoint.isSome = true := rfl
    have hstart : Message.isStartResult message = .ok true := rfl
    exact (hsends (Wire.relays_writeToChild 0) rfl hopen hstart hhook.symm 0 0 hfirst).said
  · obtain ⟨platform, adapters, hrun⟩ := hstarts h' rfl
    have hlisteners := congrArg (fun result => result.2.listeners) hrun
    rw [← hstore]
    exact hlisteners

/-- A plugin over a registry that another plugin came to first hears of changes of its own store and
workspace, but its servers are seeded from those of the other. -/
theorem plugin_seeded_from_other :
    let h' := Host.furnished.built [⟨0, 0, 0⟩, ⟨1, 1, 0⟩]
    let p := h'.plugin 1
    h'.adapter p.adapter = ⟨some p.definition, 1, 1, none, []⟩ ∧ p.store = 1 ∧ p.workspace = 1 ∧
      (h'.definition p.definition).source = .yaml 0 0 ∧
      p.definition = (h'.plugin 0).definition :=
  ⟨rfl, rfl, rfl, rfl, rfl⟩

end LanguageHost
