import AiGateway.Config.Validation
import AiGateway.Mapper.Model
import AiGateway.Types.Written

/-!
# What validation promises the mapper

`validate_model_mappings` checks that every model a router offers can be mapped to each of
its providers. It looks the models up as they are configured. A request names its provider
and a model; the mapper parses the model and looks up what is left of it without the
version, and for Bedrock without the provider of the model as well.

* `fromStrAndProvider_isOk_iff`, `fromModel_eq_bareName`: the models a provider's format accepts,
  and their names;
* `mapModel_isOk_iff`: the models the mapper maps;
* `sound_iff`: the configurations whose routers map all they offer.
-/

namespace AiGateway

open ModelId

variable {Date : Type}

/-! ### The models a format accepts -/

/-- The texts that are in the format of a provider. -/
def Accepts : InferenceProvider → List Char → Prop
  | .ollama, _ => True
  | .bedrock, s => ∃ provider rest, Text.splitFirst '.' s = some (provider, rest) ∧
      Text.contains "-v".toList rest = true
  | _, s => s ≠ [] ∧ s.getLast? ≠ some '-' ∧ s.getLast? ≠ some '.' ∧ s.getLast? ≠ some '@'

/-- A text without the version at its end. -/
def withoutVersion (chrono : Chrono Date) (s : List Char) : ModelName :=
  (parseModelAndVersion chrono s '-').1

/-- The bare name of a model: for Ollama what stands before the tag, for Bedrock what stands
between the provider and the internal version, and no version for either of the others. -/
def bareName (chrono : Chrono Date) : InferenceProvider → List Char → ModelName
  | .ollama, s => (OllamaModelId.fromStr s).model
  | .bedrock, s => ((bedrockModelPart s).map (withoutVersion chrono)).getD []
  | _, s => withoutVersion chrono s

theorem modelIdWithVersion_isOk_iff (chrono : Chrono Date) (s : List Char) :
    (∃ id, ModelIdWithVersion.fromStr chrono s = .ok id) ↔
      s ≠ [] ∧ s.getLast? ≠ some '-' ∧ s.getLast? ≠ some '.' ∧ s.getLast? ≠ some '@' := by
  unfold ModelIdWithVersion.fromStr
  -- each check that fails is a format that is not accepted
  split
  · next h => exact iff_of_false (fun ⟨_, he⟩ => by cases he) (fun hs => hs.1 h)
  · next hempty =>
    split
    · next h => exact iff_of_false (fun ⟨_, he⟩ => by cases he) (fun hs => hs.2.1 h)
    · next hdash =>
      split
      · next h => exact iff_of_false (fun ⟨_, he⟩ => by cases he) (fun hs => hs.2.2.1 h)
      · next hdot =>
        split
        · next h => exact iff_of_false (fun ⟨_, he⟩ => by cases he) (fun hs => hs.2.2.2 h)
        · next hat => exact iff_of_true ⟨_, rfl⟩ ⟨hempty, hdash, hdot, hat⟩

theorem bedrock_isOk_iff (chrono : Chrono Date) (s : List Char) :
    (∃ id, BedrockModelId.fromStr chrono s = .ok id) ↔ Accepts .bedrock s := by
  unfold BedrockModelId.fromStr
  show _ ↔ ∃ provider rest, Text.splitFirst '.' s = some (provider, rest) ∧
    Text.contains "-v".toList rest = true
  -- what is read is cut at the first dot, and the rest at the last `-v`
  cases hprovider : Text.splitFirst '.' s with
  | none => exact iff_of_false (fun ⟨_, he⟩ => by cases he) (fun ⟨_, _, h, _⟩ => by cases h)
  | some p =>
    obtain ⟨provider, rest⟩ := p
    dsimp only
    cases hversion : Text.splitLast "-v".toList rest with
    | none =>
      refine iff_of_false (fun ⟨_, he⟩ => by cases he) ?_
      rintro ⟨provider', rest', heq, hcontains⟩
      obtain ⟨-, rfl⟩ := Prod.mk.inj (Option.some.inj heq)
      unfold Text.contains at hcontains
      rw [hversion] at hcontains
      cases hcontains
    | some p' =>
      refine iff_of_true ⟨_, rfl⟩ ⟨provider, rest, rfl, ?_⟩
      unfold Text.contains
      rw [hversion]
      rfl

/-- **The models a format accepts.** -/
theorem fromStrAndProvider_isOk_iff (chrono : Chrono Date) (provider : InferenceProvider)
    (s : List Char) :
    (∃ m, fromStrAndProvider chrono provider s = .ok m) ↔ Accepts provider s := by
  have hmap : ∀ {α β : Type} (x : Except MapperError α) (f : α → β),
      (∃ b, x.map f = .ok b) ↔ ∃ a, x = .ok a := by
    intro α β x f
    simp [Except.map_eq_ok_iff]
  cases provider with
  | ollama => exact iff_of_true ⟨_, rfl⟩ trivial
  | bedrock => exact (hmap _ _).trans (bedrock_isOk_iff chrono s)
  | openAI => exact (hmap _ _).trans (modelIdWithVersion_isOk_iff chrono s)
  | anthropic => exact (hmap _ _).trans (modelIdWithVersion_isOk_iff chrono s)
  | googleGemini => exact (hmap _ _).trans (modelIdWithVersion_isOk_iff chrono s)
  | named name => exact (hmap _ _).trans (modelIdWithVersion_isOk_iff chrono s)

/-- **The name of a model that is accepted.** -/
theorem fromModel_eq_bareName {chrono : Chrono Date} {provider : InferenceProvider}
    {s : List Char} {m : ModelId Date} (h : fromStrAndProvider chrono provider s = .ok m) :
    ModelName.fromModel m = bareName chrono provider s := by
  obtain ⟨rfl, id, hid, rfl⟩ | ⟨rfl, rfl⟩ | ⟨hbedrock, hollama, id, hid, rfl⟩ :=
    fromStrAndProvider_cases h
  · obtain ⟨provider, rest, modelPart, after, hprovider, hversion, rfl⟩ :=
      BedrockModelId.exists_of_fromStr hid
    show _ = ((bedrockModelPart s).map (withoutVersion chrono)).getD []
    unfold bedrockModelPart
    rw [hprovider, Option.bind_some, hversion]
    rfl
  · rfl
  · obtain rfl := ModelIdWithVersion.eq_of_fromStr hid
    unfold bareName
    split
    · exact absurd rfl hollama
    · exact absurd rfl hbedrock
    · rfl

/-! ### The mapper -/

/-- The mapper of a router. -/
def RoutingConfig.mapper (config : RoutingConfig) (routerConfig : MappedRouterConfig) :
    ModelMapper where
  providersConfig provider := (config.providers.get provider).map GlobalProviderConfig.models
  routerMapping := routerConfig.modelMappings.map ModelMappingConfig.get
  defaultMapping := config.defaultModelMapping.get

/-- The alternative a mapper takes for a model its target does not offer: the first one the
target offers, of the router's mapping if it has one there, or else of the default one. -/
def ModelMapper.alternative (mapper : ModelMapper) (offered : List ModelName)
    (name : ModelName) : Option ModelName :=
  (mapper.routerMapping.bind fun mapping => firstOffered offered mapping name).or
    (firstOffered offered mapper.defaultMapping name)

/-- **The models the mapper maps.** The target offers the bare name of the model, or there
is an alternative, in the target's format. -/
theorem mapModel_isOk_iff {chrono : Chrono Date} {mapper : ModelMapper} {source : ModelId Date}
    {target : InferenceProvider} {offered : List ModelName}
    (hoffered : mapper.providersConfig target = some offered) :
    (∃ m, mapModel chrono mapper source target = .ok m) ↔
      ModelName.fromModel source ∈ offered ∨
        ∃ t ∈ mapper.alternative offered (ModelName.fromModel source), Accepts target t := by
  unfold mapModel ModelMapper.alternative
  rw [hoffered]
  dsimp only
  split
  · next hfast => exact iff_of_true ⟨_, rfl⟩ (Or.inl hfast)
  · next hslow =>
    rw [or_iff_right hslow]
    cases mapper.routerMapping.bind fun mapping =>
        firstOffered offered mapping (ModelName.fromModel source) with
    | some t => simpa using fromStrAndProvider_isOk_iff chrono target t
    | none =>
      rw [Option.none_or]
      cases firstOffered offered mapper.defaultMapping (ModelName.fromModel source) with
      | some t => simpa using fromStrAndProvider_isOk_iff chrono target t
      | none => exact iff_of_false (fun ⟨_, h⟩ => by cases h) (fun ⟨_, h, _⟩ => by cases h)

/-- An alternative is offered. -/
theorem mem_of_alternative {mapper : ModelMapper} {offered : List ModelName}
    {name t : ModelName} (h : t ∈ mapper.alternative offered name) : t ∈ offered := by
  rcases Option.or_eq_some_iff.mp h with hrouter | ⟨-, hdefault⟩
  · obtain ⟨mapping, -, hfirst⟩ := Option.bind_eq_some_iff.mp hrouter
    exact mem_of_firstOffered hfirst
  · exact mem_of_firstOffered hdefault

/-- **What a model is mapped to.** Itself, or the alternative, read for the target. -/
theorem mapModel_eq_ok_iff {chrono : Chrono Date} {mapper : ModelMapper}
    {source m : ModelId Date} {target : InferenceProvider} {offered : List ModelName}
    (hoffered : mapper.providersConfig target = some offered) :
    mapModel chrono mapper source target = .ok m ↔
      (ModelName.fromModel source ∈ offered ∧ source = m) ∨
        (ModelName.fromModel source ∉ offered ∧
          ∃ t ∈ mapper.alternative offered (ModelName.fromModel source),
            fromStrAndProvider chrono target t = .ok m) := by
  unfold mapModel ModelMapper.alternative
  rw [hoffered]
  dsimp only
  -- the fast path is for a model that the target offers
  split
  · next hfast => simp [hfast]
  · next hslow =>
    cases mapper.routerMapping.bind fun mapping =>
        firstOffered offered mapping (ModelName.fromModel source) with
    | some t => simp [hslow]
    | none =>
      rw [Option.none_or]
      cases firstOffered offered mapper.defaultMapping (ModelName.fromModel source) with
      | some t => simp [hslow]
      | none => simp [hslow]

/-- A mapping has an alternative exactly when there is a first one. -/
theorem hasAlternative_iff (mapping : ModelMappingConfig) (offered : List ModelName)
    (name : ModelName) :
    RoutingConfig.hasAlternative mapping name offered = true ↔
      (firstOffered offered mapping.get name).isSome = true := by
  unfold RoutingConfig.hasAlternative firstOffered
  cases mapping.get name with
  | none => exact Iff.rfl
  | some alternatives => simp [List.find?_isSome]

/-- **The two lookups agree.** The validator accepts a name exactly when the mapper finds it
among the models of the target, or an alternative to it. -/
theorem canMapModel_iff (config : RoutingConfig) (routerId : RouterId)
    (routerConfig : MappedRouterConfig) (target : InferenceProvider) (offered : List ModelName)
    (name : ModelName) :
    config.canMapModel name target offered routerId routerConfig = .ok () ↔
      name ∈ offered ∨ ((config.mapper routerConfig).alternative offered name).isSome = true := by
  rw [canMapModel_eq_ok]
  refine or_congr Iff.rfl ?_
  unfold ModelMapper.alternative RoutingConfig.mapper
  rw [Option.isSome_or, Bool.or_eq_true, hasAlternative_iff]
  refine or_congr ?_ Iff.rfl
  cases routerConfig.modelMappings with
  | none => simp
  | some mapping => simp [hasAlternative_iff]

/-! ### What is asked for -/

/-- A model of a provider, as a request names it. -/
def requestModel (provider : InferenceProvider) (model : ModelName) : List Char :=
  provider.asStr.toList ++ '/' :: model

/-- The provider and the model a request is read as. The name of a provider may hold a
slash itself. -/
def requested (provider : InferenceProvider) (model : ModelName) :
    InferenceProvider × List Char :=
  match Text.splitFirst '/' (requestModel provider model) with
  | some (name, rest) => (InferenceProvider.fromStr (String.ofList name), rest)
  | none => (provider, model)

/-- A request is parsed for the provider it is read as. -/
theorem fromStr_requestModel (chrono : Chrono Date) (provider : InferenceProvider)
    (model : ModelName) :
    fromStr chrono (requestModel provider model) =
      if (requested provider model).2 = [] then
        .error (.invalidModelName "Model name cannot be empty after provider".toList)
      else fromStrAndProvider chrono (requested provider model).1 (requested provider model).2 := by
  have hsome : (Text.splitFirst '/' (requestModel provider model)).isSome = true :=
    Text.isSome_splitFirst (List.mem_append_right _ List.mem_cons_self)
  obtain ⟨⟨name, rest⟩, hsplit⟩ := Option.isSome_iff_exists.mp hsome
  unfold fromStr requested
  rw [hsplit]

/-! ### Soundness -/

section Soundness

variable (chrono : Chrono Date) (config : RoutingConfig)

/-- **A model is mapped.** A request for it is parsed, and the result is mapped to each
provider of the router. -/
def MapsAll (routerConfig : MappedRouterConfig) (provider : InferenceProvider)
    (model : ModelName) : Prop :=
  ∃ id, fromStr chrono (requestModel provider model) = .ok id ∧
    ∀ target ∈ routerConfig.loadBalance.providers,
      ∃ m, mapModel chrono (config.mapper routerConfig) id target = .ok m

/-- The name the mapper looks a model up by. -/
def lookupName (provider : InferenceProvider) (model : ModelName) : ModelName :=
  bareName chrono (requested provider model).1 (requested provider model).2

/-- **The bare name passes as well.** What validation checks of a model as it is configured
holds of the model as the mapper looks it up. -/
structure BareNamePasses (entry : RouterId × MappedRouterConfig) (provider : InferenceProvider)
    (model : ModelName) : Prop where
  /-- A request for the model is in the format of the provider it names. -/
  accepted : (requested provider model).2 ≠ [] ∧
    Accepts (requested provider model).1 (requested provider model).2
  /-- Validation would accept the bare name of the model. -/
  validated : ∀ target ∈ entry.2.loadBalance.providers,
    config.canMapModel (lookupName chrono provider model) target (config.modelsOf target) entry.1
      entry.2 = .ok ()
  /-- An alternative that is taken is in the format of the target. -/
  alternative : ∀ target ∈ entry.2.loadBalance.providers,
    lookupName chrono provider model ∉ config.modelsOf target →
      ∀ t ∈ (config.mapper entry.2).alternative (config.modelsOf target)
        (lookupName chrono provider model), Accepts target t

variable {chrono config}

/-- The models of a configured provider are those the mapper knows. -/
theorem providersConfig_mapper {routerConfig : MappedRouterConfig} {target : InferenceProvider}
    (h : (config.providers.get target).isSome = true) :
    (config.mapper routerConfig).providersConfig target = some (config.modelsOf target) := by
  obtain ⟨providerConfig, hget⟩ := Option.isSome_iff_exists.mp h
  show (config.providers.get target).map _ = some ((config.providers.get target).elim [] _)
  rw [hget]
  rfl

/-- A model is parsed exactly when it is accepted, under the name it is looked up by. -/
theorem fromStr_requestModel_isOk_iff {provider : InferenceProvider} {model : ModelName} :
    (∃ id, fromStr chrono (requestModel provider model) = .ok id) ↔
      (requested provider model).2 ≠ [] ∧
        Accepts (requested provider model).1 (requested provider model).2 := by
  rw [fromStr_requestModel]
  split
  · next hempty => exact iff_of_false (fun ⟨_, h⟩ => by cases h) (fun h => h.1 hempty)
  · next hne => rw [fromStrAndProvider_isOk_iff, and_iff_right hne]

theorem fromModel_eq_lookupName {provider : InferenceProvider} {model : ModelName}
    {id : ModelId Date} (h : fromStr chrono (requestModel provider model) = .ok id) :
    ModelName.fromModel id = lookupName chrono provider model := by
  rw [fromStr_requestModel] at h
  split at h
  · cases h
  · exact fromModel_eq_bareName h

/-- One model of one router. -/
theorem mapsAll_iff {entry : RouterId × MappedRouterConfig} {provider : InferenceProvider}
    {model : ModelName}
    (hconfigured : ∀ target ∈ entry.2.loadBalance.providers,
      (config.providers.get target).isSome = true) :
    MapsAll chrono config entry.2 provider model ↔
      BareNamePasses chrono config entry provider model := by
  constructor
  · rintro ⟨id, hid, hmaps⟩
    have hname := fromModel_eq_lookupName hid
    -- the mapper succeeds for each target, which says where it found the name
    have hfound : ∀ target ∈ entry.2.loadBalance.providers,
        lookupName chrono provider model ∈ config.modelsOf target ∨
          ∃ t ∈ (config.mapper entry.2).alternative (config.modelsOf target)
            (lookupName chrono provider model), Accepts target t := by
      intro target htarget
      rw [← hname]
      exact (mapModel_isOk_iff (providersConfig_mapper (hconfigured target htarget))).mp
        (hmaps target htarget)
    refine ⟨fromStr_requestModel_isOk_iff.mp ⟨id, hid⟩, ?_, ?_⟩
    · intro target htarget
      rw [canMapModel_iff]
      refine (hfound target htarget).imp_right ?_
      rintro ⟨t, ht, -⟩
      exact Option.isSome_iff_exists.mpr ⟨t, ht⟩
    · intro target htarget hslow t ht
      obtain ⟨t', ht', haccepts⟩ := (hfound target htarget).resolve_left hslow
      rwa [Option.mem_unique ht ht']
  · rintro ⟨haccepted, hvalidated, halternative⟩
    obtain ⟨id, hid⟩ := fromStr_requestModel_isOk_iff.mpr haccepted
    refine ⟨id, hid, fun target htarget => ?_⟩
    rw [mapModel_isOk_iff (providersConfig_mapper (hconfigured target htarget)),
      fromModel_eq_lookupName hid]
    by_cases hfast : lookupName chrono provider model ∈ config.modelsOf target
    · exact Or.inl hfast
    · have hsome := ((canMapModel_iff config entry.1 entry.2 target (config.modelsOf target)
        (lookupName chrono provider model)).mp (hvalidated target htarget)).resolve_left hfast
      obtain ⟨t, ht⟩ := Option.isSome_iff_exists.mp hsome
      exact Or.inr ⟨t, ht, halternative target htarget hfast t ht⟩

end Soundness

/-- **When validation is sound.** The routers of a validated configuration map every model
they offer exactly when validation would accept the bare names of these models too. -/
theorem sound_iff (chrono : Chrono Date) (config : RoutingConfig)
    (h : config.validateModelMappings = .ok ()) :
    (∀ entry ∈ config.routers.entries, ∀ provider ∈ entry.2.loadBalance.providers,
        ∀ model ∈ config.modelsOf provider, MapsAll chrono config entry.2 provider model) ↔
      ∀ entry ∈ config.routers.entries, ∀ provider ∈ entry.2.loadBalance.providers,
        ∀ model ∈ config.modelsOf provider,
          BareNamePasses chrono config entry provider model := by
  refine forall₂_congr fun entry hentry => forall₂_congr fun provider _ =>
    forall₂_congr fun model _ => ?_
  exact mapsAll_iff fun target htarget =>
    (validateModelMappings_eq_ok h entry hentry target htarget).1

/-! ### A router of Bedrock -/

/-- A router of OpenAI alone, which offers one model. -/
def openAIRouting : RoutingConfig :=
  singleModelRouting [.default] (by simp) .openAI "gpt-4o".toList

/-- It maps it. -/
theorem sound_iff_openAI : ∃ entry ∈ openAIRouting.routers.entries,
    MapsAll gregorian openAIRouting entry.2 .openAI "gpt-4o".toList := by
  have hpasses : ∀ entry ∈ openAIRouting.routers.entries,
      ∀ provider ∈ entry.2.loadBalance.providers, ∀ model ∈ openAIRouting.modelsOf provider,
        BareNamePasses gregorian openAIRouting entry provider model := by
    intro entry hentry provider hprovider model hmodel
    obtain rfl := List.mem_singleton.mp hentry
    obtain rfl := List.mem_singleton.mp hprovider
    obtain rfl := List.mem_singleton.mp hmodel
    refine ⟨⟨by decide, by decide, by decide, by decide, by decide⟩, ?_, ?_⟩
    · intro target htarget
      obtain rfl := List.mem_singleton.mp htarget
      rfl
    · intro target htarget hslow
      obtain rfl := List.mem_singleton.mp htarget
      exact absurd (by decide +kernel) hslow
  have hvalid : openAIRouting.validateModelMappings = .ok () :=
    validateModelMappings_single _ .openAI "gpt-4o".toList
  exact ⟨_, List.mem_singleton_self _,
    (sound_iff gregorian openAIRouting hvalid).mpr hpasses _ (List.mem_singleton_self _) .openAI
      (by decide) _ (by decide)⟩

/-- A router of Bedrock alone, with a model of the default configuration. -/
def bedrockRouting : RoutingConfig :=
  singleModelRouting [.default] (by simp) .bedrock "amazon.nova-pro-v1:0".toList

/-- **A router of Bedrock does not map what it offers.** The model is looked up without its
provider and its internal version, and nothing is configured under that name. -/
theorem sound_fails : ¬ ∀ config : RoutingConfig, config.validateModelMappings = .ok () →
    ∀ entry ∈ config.routers.entries, ∀ provider ∈ entry.2.loadBalance.providers,
      ∀ model ∈ config.modelsOf provider, MapsAll gregorian config entry.2 provider model := by
  intro h
  have hvalid : bedrockRouting.validateModelMappings = .ok () :=
    validateModelMappings_single _ .bedrock "amazon.nova-pro-v1:0".toList
  obtain ⟨id, hid, hmaps⟩ := h bedrockRouting hvalid _ (List.mem_singleton_self _) .bedrock
    (by decide) _ (List.mem_singleton_self _)
  have hparsed : fromStr gregorian (requestModel .bedrock "amazon.nova-pro-v1:0".toList) =
      .ok (.bedrock ⟨"amazon".toList, "nova-pro".toList, none, "v1:0".toList⟩) := by rfl
  obtain rfl := Except.ok.inj (hid.symm.trans hparsed)
  obtain ⟨m, hm⟩ := hmaps .bedrock (by decide)
  cases hm

end AiGateway
