import AiGateway.Mapper.Request
import AiGateway.Types.Reprinted

/-!
# The model in the path and the model in the body

A request to Bedrock names its model twice. The body has the text of the model it was mapped
to, and the path has what is printed when that text is read in the format of Bedrock. For an
id of Bedrock both are the same but for dashes that are swallowed; an id of another provider,
which is sent as the client wrote it when Bedrock offers its bare name, has to be one that is
written as it is read.

* `sameModel_iff`: the ids that are printed the same again, and the conversions that name one
  model.
-/

namespace AiGateway.Mapper

open Conversation OpenAI Serde

variable {Date Document : Type}

/-! ### One model -/

/-- **One model is named**: the id in the path, which is printed from the context, is the id
of the body. -/
def NamesOne (lib : Libraries Document Date) (mapper : ModelMapper) (request : ChatRequest)
    (converted : Bytes) (ctx : MapperContext Date) : Prop :=
  ∃ input m, Bedrock.tryConvert lib.toDocument lib.chrono mapper request = .ok input ∧
    lib.converseInput input = some converted ∧ ctx.model = some m ∧
    m.display lib.chrono = input.modelId

/-- **The model of a request is printed the same again.** The text is what the client sent
behind the provider. -/
structure SameModel (chrono : Chrono Date) (day : Date → Day) (mapper : ModelMapper)
    (offered : List ModelName) (source : ModelId Date) (text : List Char) : Prop where
  /-- An id of Bedrock whose bare name is offered keeps the dashes it was sent with. -/
  own : ModelName.fromModel source ∈ offered → ∀ id, source = .bedrock id →
    KeepsDashes chrono day text
  /-- An id of another provider is read as an id of Bedrock that is written the same. -/
  foreign : ModelName.fromModel source ∈ offered → (∀ id, source ≠ .bedrock id) →
    WrittenAsRead chrono .bedrock (source.display chrono)
  /-- What the mappings have keeps the dashes it was configured with. -/
  mapped : ModelName.fromModel source ∉ offered →
    ∀ t ∈ mapper.alternative offered (ModelName.fromModel source), KeepsDashes chrono day t

/-! ### When one model is named -/

/-- What is read in the format of Bedrock is an id of Bedrock. -/
theorem exists_bedrock {chrono : Chrono Date} {s : List Char} {m : ModelId Date}
    (h : ModelId.fromStrAndProvider chrono .bedrock s = .ok m) :
    ∃ id, BedrockModelId.fromStr chrono s = .ok id ∧ m = .bedrock id := by
  obtain ⟨-, hid⟩ | ⟨hne, -⟩ | ⟨hne, -⟩ := ModelId.fromStrAndProvider_cases h
  · exact hid
  · cases hne
  · exact absurd rfl hne

/-- The text a source of Bedrock was read from. -/
theorem fromStr_of_bedrock {chrono : Chrono Date} {s provider text : List Char}
    {id : BedrockModelId Date} (hsplit : Text.splitFirst '/' s = some (provider, text))
    (h : ModelId.fromStr chrono s = .ok (.bedrock id)) :
    BedrockModelId.fromStr chrono text = .ok id := by
  unfold ModelId.fromStr at h
  rw [hsplit] at h
  dsimp only at h
  split at h
  · cases h
  · obtain ⟨-, id', hid, heq⟩ | ⟨-, heq⟩ | ⟨-, -, id', -, heq⟩ :=
      ModelId.fromStrAndProvider_cases h
    · cases heq
      exact hid
    · cases heq
    · cases heq

/-- An id of Bedrock that is in the body comes back from it as it is, if it keeps its
dashes. -/
theorem display_bedrock_iff {chrono : Chrono Date} {day : Date → Day}
    (hdoc : chrono.Documented day) {s : List Char} {id : BedrockModelId Date} {m : ModelId Date}
    (hid : BedrockModelId.fromStr chrono s = .ok id)
    (hm : ModelId.fromStrAndProvider chrono .bedrock (id.display chrono) = .ok m) :
    m.display chrono = id.display chrono ↔ KeepsDashes chrono day s := by
  rw [← reprints_iff hdoc hid]
  obtain ⟨id', hid', rfl⟩ := exists_bedrock hm
  constructor
  · exact fun hdisplay => ⟨id', hid', hdisplay⟩
  · rintro ⟨id'', hid'', hdisplay⟩
    obtain rfl := Except.ok.inj (hid'.symm.trans hid'')
    exact hdisplay

/-- One model is named if the one that is read from the body is printed as it stands there. -/
theorem namesOne_iff {lib : Libraries Document Date} {mapper : ModelMapper}
    {request : ChatRequest} {source : ModelId Date} {bytes converted : Bytes}
    {ctx : MapperContext Date} (hrequest : lib.chatRequest bytes = some request)
    (hsource : ModelId.fromStr lib.chrono request.model.toList = .ok source)
    (h : bedrockConverter lib mapper bytes = .ok (converted, ctx)) :
    ∃ target m, mapModel lib.chrono mapper source .bedrock = .ok target ∧
      ModelId.fromStrAndProvider lib.chrono .bedrock (target.display lib.chrono) = .ok m ∧
      (NamesOne lib mapper request converted ctx ↔
        m.display lib.chrono = target.display lib.chrono) := by
  obtain ⟨input, m, hinput, hbytes, hread, rfl⟩ := bedrockConverter_input hrequest h
  obtain ⟨target, htarget, hid⟩ := modelId_of_tryConvert hsource hinput
  rw [hid] at hread
  refine ⟨target, m, htarget, hread, ?_⟩
  rw [← hid]
  -- there is one body and one model that is read from it
  constructor
  · rintro ⟨input', m', hinput', -, hm', hdisplay⟩
    obtain rfl := Except.ok.inj (hinput.symm.trans hinput')
    obtain rfl := Option.some.inj hm'
    exact hdisplay
  · exact fun hdisplay => ⟨input, m, hinput, hbytes, rfl, hdisplay⟩

/-- **When the path has the model of the body.** An id of Bedrock is printed the same again
exactly if it keeps its dashes, and a request that is converted to Bedrock names one model
exactly if its model is printed the same again. -/
theorem sameModel_iff (lib : Libraries Document Date) (mapper : ModelMapper) (day : Date → Day)
    (hdoc : lib.chrono.Documented day) :
    (∀ s id, BedrockModelId.fromStr lib.chrono s = .ok id →
      (id.Reprints lib.chrono ↔ KeepsDashes lib.chrono day s)) ∧
    ∀ bytes request provider text source offered converted ctx,
      lib.chatRequest bytes = some request →
      Text.splitFirst '/' request.model.toList = some (provider, text) →
      ModelId.fromStr lib.chrono request.model.toList = .ok source →
      mapper.providersConfig .bedrock = some offered →
      bedrockConverter lib mapper bytes = .ok (converted, ctx) →
      (NamesOne lib mapper request converted ctx ↔
        SameModel lib.chrono day mapper offered source text) := by
  refine ⟨fun s id hid => reprints_iff hdoc hid, ?_⟩
  intro bytes request provider text source offered converted ctx hrequest hsplit hsource hoffered
    hconverted
  -- the path has the text of the target, and the body what is read of it
  obtain ⟨target, m, htarget, hm, hnames⟩ := namesOne_iff hrequest hsource hconverted
  rw [hnames]
  obtain ⟨hin, rfl⟩ | ⟨hout, t, ht, hread⟩ := (mapModel_eq_ok_iff hoffered).mp htarget
  · -- the model of the request itself
    by_cases hbedrock : ∃ id, source = .bedrock id
    · obtain ⟨id, rfl⟩ := hbedrock
      have hkeeps := display_bedrock_iff hdoc (fromStr_of_bedrock hsplit hsource) hm
      constructor
      · exact fun hdisplay => ⟨fun _ _ _ => hkeeps.mp hdisplay,
          fun _ hforeign => absurd rfl (hforeign id), fun hout => absurd hin hout⟩
      · exact fun hsame => hkeeps.mpr (hsame.own hin id rfl)
    · -- its text is read in a format it was not written in
      have hforeign : ∀ id, source ≠ .bedrock id := fun id heq => hbedrock ⟨id, heq⟩
      have hwritten := written_iff lib.chrono .bedrock (source.display lib.chrono) m hm
      constructor
      · exact fun hdisplay => ⟨fun _ id heq => absurd heq (hforeign id),
          fun _ _ => hwritten.mp hdisplay, fun hout => absurd hin hout⟩
      · exact fun hsame => hwritten.mpr (hsame.foreign hin hforeign)
  · -- the alternative that is configured
    obtain ⟨id, hid, rfl⟩ := exists_bedrock hread
    have hkeeps := display_bedrock_iff hdoc hid hm
    constructor
    · intro hdisplay
      refine ⟨fun hin => absurd hin hout, fun hin => absurd hin hout, fun _ t' ht' => ?_⟩
      obtain rfl := Option.some.inj (Eq.trans (Eq.symm ht) ht')
      exact hkeeps.mp hdisplay
    · exact fun hsame => hkeeps.mpr (hsame.mapped hout t ht)

/-! ### A date without zeros in a tag -/

theorem keepsDashes_titan : KeepsDashes gregorian id "amazon.titan-text-express-v1".toList := by
  rintro part hpart ⟨q, u, text, date, hs, hswallowed⟩
  have hsplit := versionSplit_of_swallowed (q := q) gregorian_documented hswallowed
  have hpart' : bedrockModelPart "amazon.titan-text-express-v1".toList =
      some "titan-text-express".toList := by rfl
  obtain rfl := Option.some.inj (hpart'.symm.trans hpart)
  have hnone : versionSplit gregorian "titan-text-express".toList = none := by rfl
  rw [← hs, hnone] at hsplit
  cases hsplit

/-- An id without a date is printed the same again, and so is a model that is mapped to it. -/
theorem sameModel_iff_titan :
    (∃ id, BedrockModelId.fromStr gregorian "amazon.titan-text-express-v1".toList = .ok id ∧
      id.Reprints gregorian) ∧
    ∃ converted ctx, bedrockConverter helloLibraries titanMapper
        (helloBody "openai/gpt-4o-mini") = .ok (converted, ctx) ∧
      NamesOne helloLibraries titanMapper (askFor "openai/gpt-4o-mini") converted ctx := by
  obtain ⟨hprints, hnames⟩ := sameModel_iff helloLibraries titanMapper id gregorian_documented
  constructor
  · exact ⟨_, by rfl, (hprints "amazon.titan-text-express-v1".toList _ (by rfl)).mpr
      keepsDashes_titan⟩
  · have hrequest : readHello (helloBody "openai/gpt-4o-mini") =
        some (askFor "openai/gpt-4o-mini") := by rfl
    obtain ⟨⟨converted, ctx⟩, hconverted⟩ : ∃ out, bedrockConverter helloLibraries titanMapper
        (helloBody "openai/gpt-4o-mini") = .ok out := ⟨_, by rfl⟩
    refine ⟨converted, ctx, hconverted, (hnames (helloBody "openai/gpt-4o-mini")
      (askFor "openai/gpt-4o-mini") "openai".toList "gpt-4o-mini".toList
      (.modelIdWithVersion .openAI ⟨"gpt-4o-mini".toList, .implicitLatest⟩)
      ["amazon.titan-text-express-v1".toList] converted ctx hrequest (by rfl) (by rfl) (by rfl)
      hconverted).mpr ⟨?_, ?_, ?_⟩⟩
    · exact fun hin => absurd hin (by decide)
    · exact fun hin => absurd hin (by decide)
    · intro _ t ht
      obtain rfl := Option.some.inj ((by rfl : titanMapper.alternative
        ["amazon.titan-text-express-v1".toList] "gpt-4o-mini".toList =
          some "amazon.titan-text-express-v1".toList).symm.trans ht)
      exact keepsDashes_titan

/-- **A dash that is swallowed, and a date in a tag.** A date with a plus behind two dashes is
read again as one of a negative year. The tag of a model of Ollama is sent as it is, and
printed with zeros in the path. -/
theorem sameModel_fails :
    (¬ ∀ s id, BedrockModelId.fromStr gregorian s = .ok id → id.Reprints gregorian) ∧
    ¬ ∀ (body : Bytes) (request : ChatRequest) (converted : Bytes) (ctx : MapperContext Day),
        readHello body = some request →
        bedrockConverter helloLibraries titanMapper body = .ok (converted, ctx) →
        NamesOne helloLibraries titanMapper request converted ctx := by
  constructor
  · intro h
    have hread : BedrockModelId.fromStr gregorian "anthropic.claude- -+2024-1-1-v1:0".toList =
        .ok ⟨"anthropic".toList, "claude- ".toList, some (.date ⟨2024, 1, 1⟩ .yearMonthDay),
          "v1:0".toList⟩ := by rfl
    obtain ⟨m', hm', hdisplay⟩ := h _ _ hread
    have hagain : BedrockModelId.fromStr gregorian "anthropic.claude- -2024-01-01-v1:0".toList =
        .ok ⟨"anthropic".toList, "claude".toList, some (.date ⟨-2024, 1, 1⟩ .yearMonthDay),
          "v1:0".toList⟩ := by rfl
    obtain rfl := Except.ok.inj (hagain.symm.trans hm')
    revert hdisplay
    decide +kernel
  · intro h
    have hrequest : readHello (helloBody "ollama/amazon.titan-text-express-v1:x-3-5-v1") =
        some (askFor "ollama/amazon.titan-text-express-v1:x-3-5-v1") := by rfl
    have hconverted : ∃ out, bedrockConverter helloLibraries titanMapper
        (helloBody "ollama/amazon.titan-text-express-v1:x-3-5-v1") = .ok out := ⟨_, by rfl⟩
    obtain ⟨⟨converted, ctx⟩, hconverted⟩ := hconverted
    obtain ⟨input, m, hinput, -, hm, hdisplay⟩ := h _ _ converted ctx hrequest hconverted
    obtain ⟨input', m', hinput', -, hread, rfl⟩ := bedrockConverter_input hrequest hconverted
    obtain rfl := Option.some.inj hm
    obtain rfl := Except.ok.inj (hinput.symm.trans hinput')
    -- the body has the tag, and the path has it with a date
    have hbody : ∃ input, Bedrock.tryConvert some gregorian titanMapper
        (askFor "ollama/amazon.titan-text-express-v1:x-3-5-v1") = .ok input ∧
        input.modelId = "amazon.titan-text-express-v1:x-3-5-v1".toList := ⟨_, by rfl, by rfl⟩
    obtain ⟨input', hinput'', hid⟩ := hbody
    obtain rfl := Except.ok.inj (Eq.trans (Eq.symm hinput) hinput'')
    rw [hid] at hread hdisplay
    have hagain : ModelId.fromStrAndProvider gregorian .bedrock
        "amazon.titan-text-express-v1:x-3-5-v1".toList = .ok (.bedrock ⟨"amazon".toList,
          "titan-text-express-v1:x".toList, some (.date ⟨2025, 3, 5⟩ .monthDay),
          "v1".toList⟩) := by rfl
    obtain rfl := Except.ok.inj (hagain.symm.trans hread)
    revert hdisplay
    decide +kernel

end AiGateway.Mapper
