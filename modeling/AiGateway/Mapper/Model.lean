import AiGateway.Types.ModelId

/-!
# Mapping models

`ModelMapper::map_model` of `middleware/mapper/model.rs`: the model a request is sent
with when its provider is not the one it was written for, and what the converter to
Anthropic does with it.

The mappings of the router and of the global configuration end in a model that is parsed
for the target provider. The fast path before them does not: a source model whose bare
name the target offers is returned as it is, in whatever format it came.

* `mapModel_cases`: the paths of `map_model`;
* `mapped_iff`: the models that are mapped to one the target offers, in its own format.
-/

namespace AiGateway

open ModelId

variable {Date : Type}

/-- `ModelMappingConfig`: the models a name may be replaced with, in order. -/
abbrev ModelMapping := ModelName → Option (List ModelName)

/-- What a mapper reads of the configurations: the models each configured provider offers,
the mapping of the router, if there is a router with one, and the default mapping. -/
structure ModelMapper where
  providersConfig : InferenceProvider → Option (List ModelName)
  routerMapping : Option ModelMapping
  defaultMapping : ModelMapping

/-! ### The code -/

/-- The first model of a mapping that the target offers. -/
def firstOffered (offered : List ModelName) (mapping : ModelMapping) (name : ModelName) :
    Option ModelName :=
  (mapping name).bind fun models => models.find? fun m => decide (m ∈ offered)

/-- `map_model`. -/
def mapModel (chrono : Chrono Date) (mapper : ModelMapper) (sourceModel : ModelId Date)
    (targetProvider : InferenceProvider) : Except MapperError (ModelId Date) :=
  match mapper.providersConfig targetProvider with
  | none => .error (.noProviderConfig targetProvider)
  | some offered =>
    let sourceModelName := ModelName.fromModel sourceModel
    -- the id is returned, with the provider and the format of the source
    if sourceModelName ∈ offered then .ok sourceModel
    else
      match mapper.routerMapping.bind fun mapping =>
          firstOffered offered mapping sourceModelName with
      | some targetModel => fromStrAndProvider chrono targetProvider targetModel
      | none =>
        match firstOffered offered mapper.defaultMapping sourceModelName with
        | some targetModel => fromStrAndProvider chrono targetProvider targetModel
        | none => .error (.noModelMapping targetProvider sourceModelName)

/-- `AnthropicConverter`: the version of a model for Anthropic is written for the third
generation and left out for the others. -/
def anthropicVersion : ModelId Date → ModelId Date
  | .modelIdWithVersion .anthropic id =>
    .modelIdWithVersion .anthropic
      { id with
        version := if Text.contains "claude-3".toList id.model then .latest else .implicitLatest }
  | m => m

/-! ### The paths -/

theorem mem_of_firstOffered {offered : List ModelName} {mapping : ModelMapping}
    {name targetModel : ModelName} (h : firstOffered offered mapping name = some targetModel) :
    targetModel ∈ offered := by
  obtain ⟨models, -, hfind⟩ := Option.bind_eq_some_iff.mp h
  exact of_decide_eq_true (List.find?_some (p := fun m => decide (m ∈ offered)) hfind)

/-- **The paths of `map_model`.** The source is returned if its name is offered. If not,
the result is an offered model, parsed for the target. -/
theorem mapModel_cases {chrono : Chrono Date} {mapper : ModelMapper} {source m : ModelId Date}
    {target : InferenceProvider} {offered : List ModelName}
    (hoffered : mapper.providersConfig target = some offered)
    (h : mapModel chrono mapper source target = .ok m) :
    (ModelName.fromModel source ∈ offered ∧ m = source) ∨
      (ModelName.fromModel source ∉ offered ∧
        ∃ targetModel ∈ offered, fromStrAndProvider chrono target targetModel = .ok m) := by
  unfold mapModel at h
  rw [hoffered] at h
  dsimp only at h
  split at h
  · next hfast => exact Or.inl ⟨hfast, (Except.ok.inj h).symm⟩
  · next hslow =>
    refine Or.inr ⟨hslow, ?_⟩
    -- the mapping of the router goes before the default one
    split at h
    · next targetModel hrouter =>
      obtain ⟨mapping, -, hfirst⟩ := Option.bind_eq_some_iff.mp hrouter
      exact ⟨targetModel, mem_of_firstOffered hfirst, h⟩
    · split at h
      · next targetModel hdefault => exact ⟨targetModel, mem_of_firstOffered hdefault, h⟩
      · cases h

/-! ### What is sent -/

/-- A model for a provider: in its format, and up to the version one it offers. -/
def OfferedBy (chrono : Chrono Date) (target : InferenceProvider) (offered : List ModelName)
    (m : ModelId Date) : Prop :=
  OwnVariant target m ∧ ∃ s ∈ offered, UpToVersion chrono m s

/-- A model whose bare name is offered is offered up to the version, if that name is all
there is besides the version. -/
theorem upToVersion_fromModel (chrono : Chrono Date) {m : ModelId Date}
    (hbedrock : ∀ id, m ≠ .bedrock id) : UpToVersion chrono m (ModelName.fromModel m) := by
  cases m with
  | bedrock id => exact absurd rfl (hbedrock id)
  | modelIdWithVersion provider id => exact ⟨[], Or.inl rfl, by simp [ModelName.fromModel, frame]⟩
  | ollama id => exact ⟨[], Or.inl rfl, by simp [ModelName.fromModel, frame]⟩
  | unknown id => exact ⟨[], rfl, by simp [ModelName.fromModel, frame]⟩

/-- The source can be returned as it is: it is in the format of the target, and for
Bedrock, whose ids hold more than a name and a version, the whole id is offered. -/
def Returnable (chrono : Chrono Date) (target : InferenceProvider) (offered : List ModelName)
    (source : ModelId Date) : Prop :=
  OwnVariant target source ∧
    ∀ id, source = .bedrock id → ∃ s ∈ offered, UpToVersion chrono source s

/-- **When a model is mapped to one of the target.** The result is in the target's own
format and offered by it, up to the version, exactly when the source is so already or its
bare name is not one the target offers. -/
theorem mapped_iff (chrono : Chrono Date) (mapper : ModelMapper) (source : ModelId Date)
    (target : InferenceProvider) (offered : List ModelName)
    (hoffered : mapper.providersConfig target = some offered) (m : ModelId Date)
    (h : mapModel chrono mapper source target = .ok m) :
    OfferedBy chrono target offered m ↔
      (ModelName.fromModel source ∈ offered → Returnable chrono target offered source) := by
  obtain ⟨hfast, rfl⟩ | ⟨hslow, targetModel, hmem, hparsed⟩ := mapModel_cases hoffered h
  · constructor
    · exact fun hoff _ => ⟨hoff.1, fun _ _ => hoff.2⟩
    · intro hreturnable
      -- the fast path: the source itself is what is sent
      obtain ⟨hown, hbedrock⟩ := hreturnable hfast
      refine ⟨hown, ?_⟩
      by_cases hid : ∃ id, m = .bedrock id
      · obtain ⟨id, hid⟩ := hid
        exact hbedrock id hid
      · exact ⟨_, hfast, upToVersion_fromModel chrono fun id heq => hid ⟨id, heq⟩⟩
  -- the mappings: what is sent was parsed for the target
  · obtain ⟨hown, hupTo⟩ := spec_of_fromStrAndProvider hparsed
    exact iff_of_true ⟨hown, targetModel, hmem, hupTo⟩ fun hfast => absurd hfast hslow

/-! ### A model of Bedrock -/

/-- Dates of eight digits, in the year 2025. -/
def compactDates : Chrono (List Char) where
  parseFromStr input format :=
    if format = DateFormat.compact.asStr ∧ input.length = 8 ∧ input.all Char.isDigit then some input
    else none
  format date _ := date
  year := 2025

/-- A mapper for Anthropic, which offers two models. -/
def anthropicMapper : ModelMapper where
  providersConfig provider :=
    if provider = .anthropic then some ["claude-3-7-sonnet".toList, "claude-3-5-haiku".toList]
    else none
  routerMapping := none
  defaultMapping name :=
    if name = "gpt-4o-mini".toList then some ["claude-3-5-haiku".toList] else none

/-- A model of OpenAI is mapped to one of Anthropic. -/
theorem mapped_iff_gpt : ∃ m, mapModel compactDates anthropicMapper
    (.modelIdWithVersion .openAI ⟨"gpt-4o-mini".toList, .implicitLatest⟩) .anthropic = .ok m ∧
      OfferedBy compactDates .anthropic ["claude-3-7-sonnet".toList, "claude-3-5-haiku".toList] m :=
  ⟨.modelIdWithVersion .anthropic ⟨"claude-3-5-haiku".toList, .implicitLatest⟩, by rfl,
    (mapped_iff compactDates anthropicMapper
      (.modelIdWithVersion .openAI ⟨"gpt-4o-mini".toList, .implicitLatest⟩) .anthropic
      ["claude-3-7-sonnet".toList, "claude-3-5-haiku".toList] (by rfl) _ (by rfl)).mpr
      fun h => absurd h (by decide)⟩

/-- **A model of Bedrock is not.** Its bare name is one Anthropic offers, and it is
returned with the syntax of Bedrock. -/
theorem mapped_fails :
    ¬ ∀ (source : ModelId (List Char)) (target : InferenceProvider) (offered : List ModelName),
        anthropicMapper.providersConfig target = some offered → ∀ m,
        mapModel compactDates anthropicMapper source target = .ok m →
        OfferedBy compactDates target offered m := by
  intro h
  have hsource : ∃ source, fromStr compactDates
        "bedrock/anthropic.claude-3-7-sonnet-20250219-v1:0".toList = .ok source ∧
      ModelName.fromModel source = "claude-3-7-sonnet".toList ∧ ∃ id, source = .bedrock id :=
    ⟨_, by rfl, by rfl, _, by rfl⟩
  obtain ⟨source, -, hname, id, rfl⟩ := hsource
  have hmapped : mapModel compactDates anthropicMapper (.bedrock id) .anthropic =
      .ok (.bedrock id) := by
    change (if ModelName.fromModel (.bedrock id) ∈ _ then _ else _) = _
    rw [if_pos (by rw [hname]; decide)]
  have hoffered := h (.bedrock id) .anthropic _ (by rfl) _ hmapped
  exact InferenceProvider.noConfusion (show InferenceProvider.anthropic = .bedrock from hoffered.1)

end AiGateway
