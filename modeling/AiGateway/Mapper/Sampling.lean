import AiGateway.Mapper.Kept

/-!
# The sampling parameters of a conversion

How many tokens a request asks for at most, at which temperature and with which nucleus, held
against what the converters to Anthropic and to Bedrock set.

The one to Anthropic passes on what it is given, and takes `max_tokens` where there is no
`max_completion_tokens`. The one to Bedrock reads `max_completion_tokens` alone, and sets a
temperature and a nucleus also where there are none: to 0.

`converted_keeps_sampling_iff`: for Bedrock the parameters are kept if the request has both
decimals, and `max_tokens` is not what it asks by.
-/

namespace AiGateway

open Conversation OpenAI Serde

/-- The parameters of sampling. -/
structure Sampling where
  maxTokens : ℕ
  temperature : Option ℚ
  topP : Option ℚ

/-- What a request asks for. `max_tokens` is the older word for `max_completion_tokens`. -/
def OpenAI.ChatRequest.sampling (request : ChatRequest) : Sampling where
  maxTokens := request.maxCompletionTokens.getD (request.maxTokens.getD defaultMaxTokens)
  temperature := request.temperature
  topP := request.topP

def Anthropic.CreateMessageParams.sampling (params : CreateMessageParams) : Sampling where
  maxTokens := params.maxTokens
  temperature := params.temperature
  topP := params.topP

/-- A configuration that the converter builds has both decimals. -/
def Bedrock.InferenceConfiguration.sampling (config : InferenceConfiguration) : Sampling where
  maxTokens := config.maxTokens
  temperature := some config.temperature
  topP := some config.topP

/-- **Kept parameters.** The tokens are what is asked for if an `i32` holds it, and there is a
temperature, and a nucleus, exactly when one is asked for. -/
structure SamplingKept (asked set : Sampling) : Prop where
  maxTokens : asked.maxTokens < 2 ^ 31 → set.maxTokens = asked.maxTokens
  temperature : set.temperature = asked.temperature
  topP : set.topP = asked.topP

/-- Nothing is left to the defaults: `max_tokens` is not asked by, or says what the default
says, and both decimals are given. -/
structure OpenAI.ChatRequest.NamesSampling (request : ChatRequest) : Prop where
  maxTokens : request.maxCompletionTokens = none →
    ∀ n, request.maxTokens = some n → n < 2 ^ 31 → n = defaultMaxTokens
  temperature : request.temperature.isSome
  topP : request.topP.isSome

namespace Conversation

/-- A decimal that is always set is the one asked for if there is one. -/
theorem some_getD_eq_iff {α : Type} (o : Option α) (a : α) : some (o.getD a) = o ↔ o.isSome := by
  cases o with
  | none => exact iff_of_false (Option.some_ne_none _) Bool.false_ne_true
  | some b => exact iff_of_true rfl rfl

/-- The tokens that are set for Bedrock are those asked for unless `max_tokens` asks for them. -/
theorem maxTokens_eq_iff (completion older : Option ℕ) :
    (completion.getD (older.getD defaultMaxTokens) < 2 ^ 31 →
      (if completion.getD defaultMaxTokens < 2 ^ 31 then completion.getD defaultMaxTokens
        else defaultMaxTokens) = completion.getD (older.getD defaultMaxTokens)) ↔
      (completion = none → ∀ n, older = some n → n < 2 ^ 31 → n = defaultMaxTokens) := by
  have hdefault : defaultMaxTokens < 2 ^ 31 := by decide
  cases completion with
  | some n =>
    refine iff_of_true (fun hfits => if_pos hfits) fun hnone => ?_
    exact absurd hnone (Option.some_ne_none n)
  | none =>
    -- the default is set, whatever `max_tokens` says
    show (older.getD defaultMaxTokens < 2 ^ 31 → (if defaultMaxTokens < 2 ^ 31 then _ else _) = _)
      ↔ _
    rw [if_pos hdefault]
    cases older with
    | none =>
      refine iff_of_true (fun _ => rfl) fun _ n hn => ?_
      exact absurd hn.symm (Option.some_ne_none n)
    | some n =>
      constructor
      · intro h _ m hm hfits
        obtain rfl := Option.some.inj hm
        exact (h hfits).symm
      · intro h hfits
        exact (h rfl n rfl hfits).symm

section Converted

variable {Document Date : Type} (images : Anthropic.ImageLib) (toDocument : Json → Option Document)
  (chrono : Chrono Date) (mapper : ModelMapper)

/-- **Sampling.** What is converted for Anthropic has the parameters asked for. What is converted
for Bedrock keeps them if the request names all of them. -/
theorem converted_keeps_sampling_iff (request : ChatRequest) :
    (∀ out, Anthropic.tryConvert images chrono mapper request = .ok out →
      out.sampling = request.sampling) ∧
    (∀ out, Bedrock.tryConvert toDocument chrono mapper request = .ok out →
      (SamplingKept request.sampling out.inferenceConfig.sampling ↔ request.NamesSampling)) := by
  constructor
  · intro out h
    obtain ⟨sourceModel, -, h⟩ := Except.bind_eq_ok_iff.mp h
    obtain ⟨targetModel, -, h⟩ := Except.bind_eq_ok_iff.mp h
    obtain ⟨messages, -, h⟩ := Except.bind_eq_ok_iff.mp h
    cases h
    rfl
  · intro out h
    obtain ⟨sourceModel, -, h⟩ := Except.bind_eq_ok_iff.mp h
    obtain ⟨targetModel, -, h⟩ := Except.bind_eq_ok_iff.mp h
    cases h
    -- for Bedrock, what is not named is sent as a default
    have hmax := maxTokens_eq_iff request.maxCompletionTokens request.maxTokens
    have htemperature := some_getD_eq_iff request.temperature 0
    have htopP := some_getD_eq_iff request.topP 0
    constructor
    · intro hkept
      exact ⟨hmax.mp hkept.maxTokens, htemperature.mp hkept.temperature, htopP.mp hkept.topP⟩
    · intro hnames
      exact ⟨hmax.mpr hnames.maxTokens, htemperature.mpr hnames.temperature,
        htopP.mpr hnames.topP⟩

end Converted

/-- A short greeting, sampled as the parameters say. -/
def greeting (maxCompletionTokens maxTokens : Option ℕ) (temperature topP : Option ℚ) :
    ChatRequest :=
  { chat [.user (.text "Hello")] none with maxCompletionTokens, maxTokens, temperature, topP }

/-- A request that names its parameters is sampled as it asks, by either provider. -/
theorem converted_keeps_sampling_iff_named :
    (∃ out, Anthropic.tryConvert noImages compactDates smallMapper
        (greeting (some 100) (some 50) (some 1) (some 1)) = .ok out ∧
      out.sampling = (greeting (some 100) (some 50) (some 1) (some 1)).sampling) ∧
    ∃ out, Bedrock.tryConvert some compactDates smallMapper
        (greeting (some 100) (some 50) (some 1) (some 1)) = .ok out ∧
      SamplingKept (greeting (some 100) (some 50) (some 1) (some 1)).sampling
        out.inferenceConfig.sampling := by
  have hiff := converted_keeps_sampling_iff noImages some compactDates smallMapper
    (greeting (some 100) (some 50) (some 1) (some 1))
  have hnames : (greeting (some 100) (some 50) (some 1) (some 1)).NamesSampling :=
    ⟨fun hnone => absurd hnone (Option.some_ne_none 100), rfl, rfl⟩
  exact ⟨⟨_, rfl, hiff.1 _ rfl⟩, _, rfl, (hiff.2 _ rfl).mpr hnames⟩

/-- **Sampling changes.** A request for at most 100 tokens, in the older word, that leaves the
temperature to the provider is converted to one for 2000 at temperature 0. -/
theorem converted_keeps_sampling_fails :
    ∃ out, Bedrock.tryConvert some compactDates smallMapper
        (greeting none (some 100) none none) = .ok out ∧
      out.inferenceConfig.maxTokens = 2000 ∧ out.inferenceConfig.temperature = 0 ∧
      out.inferenceConfig.topP = 0 ∧
      ¬ SamplingKept (greeting none (some 100) none none).sampling
        out.inferenceConfig.sampling := by
  refine ⟨_, rfl, rfl, rfl, rfl, fun h => ?_⟩
  exact absurd h.temperature (Option.some_ne_none _)

end Conversation

end AiGateway
