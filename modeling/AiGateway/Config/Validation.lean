import AiGateway.Discover.Key
import AiGateway.Types.ModelId
import AiGateway.Types.Router

/-!
# Validating a configuration

`Config::validate` and `config/validation.rs`: what a configuration is checked for before
the gateway starts. The weights and the ids of the routers are checked one router at a
time. The model mappings are checked for every model a router may be asked for and every
provider it may send the request to.

The maps and sets of the configuration are lists in the order they are iterated.

* `validateModelMappings_eq_ok`: what the checks of the model mappings establish;
* `validate_eq_ok`: what those of the routers do.
-/

namespace AiGateway

/-! ### The configuration -/

/-- `ModelMappingConfig`: the models a model may be replaced with. -/
structure ModelMappingConfig where
  entries : List (ModelName × NESet ModelName)
  nodup : (entries.map Prod.fst).Nodup
  ne_nil : entries ≠ []

/-- `NEMap::get`. -/
def ModelMappingConfig.get (mapping : ModelMappingConfig) (name : ModelName) :
    Option (List ModelName) :=
  (mapping.entries.lookup name).map NESet.elems

/-- `GlobalProviderConfig`, as far as the mappings depend on it. -/
structure GlobalProviderConfig where
  models : List ModelName
  nodup : models.Nodup

structure ProvidersConfig where
  entries : List (InferenceProvider × GlobalProviderConfig)
  nodup : (entries.map Prod.fst).Nodup

/-- `IndexMap::get`. -/
def ProvidersConfig.get (providers : ProvidersConfig) (provider : InferenceProvider) :
    Option GlobalProviderConfig :=
  providers.entries.lookup provider

/-- A router's configuration, with its mappings. -/
structure MappedRouterConfig extends RouterConfig where
  modelMappings : Option ModelMappingConfig

structure RouterConfigs where
  entries : List (RouterId × MappedRouterConfig)
  nodup : (entries.map Prod.fst).Nodup

/-- The sections of `Config` that say where requests may go. -/
structure RoutingConfig where
  defaultModelMapping : ModelMappingConfig
  providers : ProvidersConfig
  routers : RouterConfigs

/-- `BalanceConfig::providers`. -/
def BalanceConfig.providers (config : BalanceConfig) : List InferenceProvider :=
  (config.entries.flatMap fun entry => entry.2.providers).eraseDups

/-! ### The checks -/

inductive ModelMappingValidationError
  | providerNotConfigured (router : RouterId) (provider : InferenceProvider)
  | noValidMapping (router : RouterId) (sourceModel : ModelName)
      (targetProvider : InferenceProvider)
  | modelNotFound (model : ModelName)
  deriving DecidableEq

/-- `InitError`, the ones of validation. -/
inductive InitError
  | invalidWeightedBalancer (e : InvalidWeightedBalancer)
  | invalidRouterId (id : List Char)
  | invalidMappingsConfig (e : ModelMappingValidationError)

/-- A check that ends in an error. -/
def ensure {ε : Type} (b : Bool) (e : ε) : Except ε Unit := if b then .ok () else .error e

/-- A model of a mapping is offered by some provider. -/
def checkModelExists (allProviderModels : List ModelName) (model : ModelName) :
    Except ModelMappingValidationError Unit :=
  ensure (allProviderModels.contains model) (.modelNotFound model)

/-- The loop over a mapping, which is the same for the default one and those of routers. -/
def checkMappingModelsExist (allProviderModels : List ModelName) (mapping : ModelMappingConfig) :
    Except ModelMappingValidationError Unit :=
  mapping.entries.forM fun entry => do
    checkModelExists allProviderModels entry.1
    entry.2.elems.forM (checkModelExists allProviderModels)

namespace RoutingConfig

/-- The models a provider is configured with. Providers that are not configured have been
refused before this is used. -/
def modelsOf (config : RoutingConfig) (provider : InferenceProvider) : List ModelName :=
  (config.providers.get provider).elim [] GlobalProviderConfig.models

/-- `validate_mapping_models_exist`. -/
def validateMappingModelsExist (config : RoutingConfig) :
    Except ModelMappingValidationError Unit := do
  let allProviderModels := config.providers.entries.flatMap fun entry => entry.2.models
  checkMappingModelsExist allProviderModels config.defaultModelMapping
  config.routers.entries.forM fun entry =>
    match entry.2.modelMappings with
    | some mapping => checkMappingModelsExist allProviderModels mapping
    | none => .ok ()

/-- A mapping has an alternative to a model among those of the target. -/
def hasAlternative (mapping : ModelMappingConfig) (sourceModel : ModelName)
    (targetModels : List ModelName) : Bool :=
  match mapping.get sourceModel with
  | some alternatives => alternatives.any fun m => targetModels.contains m
  | none => false

/-- `can_map_model`. -/
def canMapModel (config : RoutingConfig) (sourceModel : ModelName)
    (targetProvider : InferenceProvider) (targetModels : List ModelName) (routerId : RouterId)
    (routerConfig : MappedRouterConfig) : Except ModelMappingValidationError Unit :=
  -- the target offers the model itself
  if targetModels.contains sourceModel then .ok ()
  else if routerConfig.modelMappings.any fun mapping =>
      hasAlternative mapping sourceModel targetModels then .ok ()
  else if hasAlternative config.defaultModelMapping sourceModel targetModels then .ok ()
  else .error (.noValidMapping routerId sourceModel targetProvider)

/-- The checks on the mappings of one router. -/
def validateRouterMappings (config : RoutingConfig) (routerId : RouterId)
    (routerConfig : MappedRouterConfig) : Except ModelMappingValidationError Unit := do
  let routerProviders := routerConfig.loadBalance.providers
  routerProviders.forM fun provider =>
    ensure (config.providers.get provider).isSome (.providerNotConfigured routerId provider)
  let offered := (routerProviders.flatMap config.modelsOf).eraseDups
  routerProviders.forM fun targetProvider =>
    offered.forM fun sourceModel =>
      config.canMapModel sourceModel targetProvider (config.modelsOf targetProvider) routerId
        routerConfig

/-- `validate_model_mappings`. -/
def validateModelMappings (config : RoutingConfig) : Except ModelMappingValidationError Unit := do
  config.validateMappingModelsExist
  config.routers.entries.forM fun entry => config.validateRouterMappings entry.1 entry.2

end RoutingConfig

/-- The characters of router ids. -/
def idChar (c : Char) : Bool :=
  ('A' ≤ c && c ≤ 'Z') || ('a' ≤ c && c ≤ 'z') || ('0' ≤ c && c ≤ '9') || c == '_' || c == '-'

/-- `ROUTER_ID_REGEX`: one to twelve of them. -/
def isRouterId (s : List Char) : Bool := 1 ≤ s.length && s.length ≤ 12 && s.all idChar

/-- The checks on a router that concern it alone. -/
def validateRouter (routerId : RouterId) (routerConfig : MappedRouterConfig) :
    Except InitError Unit := do
  routerConfig.validate.mapError .invalidWeightedBalancer
  ensure (isRouterId routerId.asStr) (.invalidRouterId routerId.asStr)

/-- `validate`. -/
def RoutingConfig.validate (config : RoutingConfig) : Except InitError Unit := do
  config.routers.entries.forM fun entry => validateRouter entry.1 entry.2
  config.validateModelMappings.mapError .invalidMappingsConfig

/-! ### What the checks establish -/

section Except

variable {ε α : Type}

@[simp] theorem ensure_eq_ok {b : Bool} {e : ε} : ensure b e = .ok () ↔ b = true := by
  unfold ensure
  split
  · next hb => exact iff_of_true rfl hb
  · next hb => exact iff_of_false (fun h => by cases h) hb

/-- Two checks pass if each of them does. -/
theorem bind_eq_ok {x : Except ε Unit} {y : Except ε Unit} :
    (x >>= fun _ => y) = .ok () ↔ x = .ok () ∧ y = .ok () := by
  cases x with
  | error e => exact iff_of_false (fun h => by cases h) (fun h => by cases h.1)
  | ok u => exact ⟨fun h => ⟨rfl, h⟩, fun h => h.2⟩

/-- A loop of checks passes if each of them does. -/
theorem forM_eq_ok {l : List α} {check : α → Except ε Unit} :
    l.forM check = .ok () ↔ ∀ a ∈ l, check a = .ok () := by
  induction l with
  | nil => exact iff_of_true rfl (fun a h => by cases h)
  | cons a l ih =>
    show (check a >>= fun _ => l.forM check) = .ok () ↔ _
    rw [bind_eq_ok, ih, List.forall_mem_cons]

end Except

/-- A model is offered by the target, or one of the mappings has an alternative that is. -/
theorem canMapModel_eq_ok {config : RoutingConfig} {sourceModel : ModelName}
    {targetProvider : InferenceProvider} {targetModels : List ModelName} {routerId : RouterId}
    {routerConfig : MappedRouterConfig} :
    config.canMapModel sourceModel targetProvider targetModels routerId routerConfig = .ok () ↔
      sourceModel ∈ targetModels ∨
        (∃ mapping ∈ routerConfig.modelMappings,
          RoutingConfig.hasAlternative mapping sourceModel targetModels = true) ∨
        RoutingConfig.hasAlternative config.defaultModelMapping sourceModel targetModels =
          true := by
  unfold RoutingConfig.canMapModel
  simp only [List.contains_iff_mem, Option.any_eq_true]
  -- the tests in the order of the code
  split
  · next h => exact iff_of_true rfl (Or.inl h)
  · next hdirect =>
    split
    · next h => exact iff_of_true rfl (Or.inr (Or.inl h))
    · next hrouter =>
      split
      · next h => exact iff_of_true rfl (Or.inr (Or.inr h))
      · next hdefault =>
        exact iff_of_false (fun h => by cases h)
          (fun h => h.elim hdirect (fun h => h.elim hrouter hdefault))

/-- **What the checks of the model mappings establish.** The providers of every router are
configured, and each model one of them offers can be mapped to each of them. -/
theorem validateModelMappings_eq_ok {config : RoutingConfig}
    (h : config.validateModelMappings = .ok ()) :
    ∀ entry ∈ config.routers.entries, ∀ target ∈ entry.2.loadBalance.providers,
      (config.providers.get target).isSome = true ∧
        ∀ provider ∈ entry.2.loadBalance.providers, ∀ model ∈ config.modelsOf provider,
          config.canMapModel model target (config.modelsOf target) entry.1 entry.2 = .ok () := by
  intro entry hentry target htarget
  have hrouter := forM_eq_ok.mp (bind_eq_ok.mp h).2 entry hentry
  obtain ⟨hconfigured, hmapped⟩ := bind_eq_ok.mp hrouter
  refine ⟨ensure_eq_ok.mp (forM_eq_ok.mp hconfigured target htarget), ?_⟩
  intro provider hprovider model hmodel
  refine forM_eq_ok.mp (forM_eq_ok.mp hmapped target htarget) model ?_
  rw [List.mem_eraseDups, List.mem_flatMap]
  exact ⟨provider, hprovider, hmodel⟩

/-- **What the checks of the routers establish.** Their weights sum to one, and their ids
are short texts of the permitted characters. -/
theorem validate_eq_ok {config : RoutingConfig} (h : config.validate = .ok ()) :
    ∀ entry ∈ config.routers.entries,
      entry.2.validate = .ok () ∧ isRouterId entry.1.asStr = true := by
  intro entry hentry
  have hrouter := forM_eq_ok.mp (bind_eq_ok.mp h).1 entry hentry
  obtain ⟨hweights, hid⟩ := bind_eq_ok.mp hrouter
  exact ⟨Except.mapError_eq_ok_iff.mp hweights, ensure_eq_ok.mp hid⟩

/-- Routers over one provider, which offers one model. -/
def singleModelRouting (ids : List RouterId) (hids : ids.Nodup) (provider : InferenceProvider)
    (model : ModelName) : RoutingConfig where
  defaultModelMapping := ⟨[(model, ⟨[model], by simp, by simp⟩)], by simp, by simp⟩
  providers := ⟨[(provider, ⟨[model], by simp⟩)], by simp⟩
  routers :=
    { entries := ids.map fun id =>
        (id, ⟨⟨⟨[(.chat, .latency ⟨[provider], by simp, by simp⟩)], by simp⟩⟩, none⟩)
      nodup := by
        rw [List.map_map]
        show (ids.map fun id => id).Nodup
        rwa [List.map_id'] }

section Single

variable {ids : List RouterId} (hids : ids.Nodup) (provider : InferenceProvider) (model : ModelName)

/-- Their mappings are accepted. -/
theorem validateModelMappings_single :
    (singleModelRouting ids hids provider model).validateModelMappings = .ok () := by
  have hconfigured :
      ((singleModelRouting ids hids provider model).providers.get provider).isSome = true := by
    simp [singleModelRouting, ProvidersConfig.get]
  have hmodel : checkModelExists [model] model = .ok () :=
    ensure_eq_ok.mpr (List.contains_iff_mem.mpr (List.mem_singleton_self _))
  refine bind_eq_ok.mpr ⟨bind_eq_ok.mpr ⟨forM_eq_ok.mpr ?_, forM_eq_ok.mpr ?_⟩, forM_eq_ok.mpr ?_⟩
  · -- the default mapping is of the one model to itself
    intro entry hentry
    obtain rfl := List.mem_singleton.mp hentry
    refine bind_eq_ok.mpr ⟨hmodel, forM_eq_ok.mpr ?_⟩
    intro m hm
    obtain rfl := List.mem_singleton.mp hm
    exact hmodel
  -- a router has no mapping of its own
  · intro entry hentry
    obtain ⟨id, -, rfl⟩ := List.mem_map.mp hentry
    rfl
  -- a router has the one target, whose provider is configured and offers its own model
  · intro entry hentry
    obtain ⟨id, -, rfl⟩ := List.mem_map.mp hentry
    refine bind_eq_ok.mpr ⟨forM_eq_ok.mpr ?_, forM_eq_ok.mpr ?_⟩
    · intro target htarget
      obtain rfl := List.mem_singleton.mp htarget
      exact ensure_eq_ok.mpr hconfigured
    · intro target htarget
      obtain rfl := List.mem_singleton.mp htarget
      refine forM_eq_ok.mpr fun source hsource => ?_
      rw [List.mem_eraseDups, List.mem_flatMap] at hsource
      obtain ⟨target', htarget', hoffered⟩ := hsource
      obtain rfl := List.mem_singleton.mp htarget'
      exact canMapModel_eq_ok.mpr (Or.inl hoffered)

/-- They are accepted if their ids are. -/
theorem validate_single (hok : ∀ id ∈ ids, isRouterId id.asStr = true) :
    (singleModelRouting ids hids provider model).validate = .ok () := by
  refine bind_eq_ok.mpr ⟨forM_eq_ok.mpr ?_, ?_⟩
  · intro entry hentry
    obtain ⟨id, hid, rfl⟩ := List.mem_map.mp hentry
    exact bind_eq_ok.mpr ⟨rfl, ensure_eq_ok.mpr (hok id hid)⟩
  · exact Except.mapError_eq_ok_iff.mpr (validateModelMappings_single hids provider model)

end Single

end AiGateway
