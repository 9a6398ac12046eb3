import AiGateway.Mapper.Kept
import AiGateway.Types.Written

/-!
# Pinned models

The model string in what `AnthropicConverter::try_convert` makes of a request, when the name of the
requested model is one Anthropic offers. The mapper then returns the id of the request as it is, and
what becomes of its version is up to the converter. Anthropic writes its models as
`{model}-{version}`, and an alias with the suffix `-latest` in the third generation and without a
suffix in the others.

* `model_tryConvert`: the model string, for each way an id can be written;
* `pinned_iff`: the ids with a pinned version whose model string names it.
-/

namespace AiGateway

variable {Date : Type}

/-- An explicit version: a date, a preview, or the preview of a date. -/
def Version.IsPinned : Version Date → Prop
  | .implicitLatest => False
  | .latest => False
  | .preview => True
  | .dateVersionedPreview _ _ => True
  | .date _ _ => True

/-- The version in an id, if its format has one. -/
def ModelId.version? : ModelId Date → Option (Version Date)
  | .modelIdWithVersion _ id => some id.version
  | .bedrock id => id.version
  | .ollama _ => none
  | .unknown _ => none

/-- An id that is read is in the format of its provider. -/
theorem ModelId.ownVariant_of_fromStr {chrono : Chrono Date} {s : List Char} {m : ModelId Date}
    (h : ModelId.fromStr chrono s = .ok m) : ∃ provider, OwnVariant provider m := by
  unfold ModelId.fromStr at h
  split at h
  · next provider model hsplit =>
    split at h
    · cases h
    · exact ⟨_, (spec_of_fromStrAndProvider h).1⟩
  · cases h

namespace Anthropic

open ModelId OpenAI

/-- The model string names a model with a version, as Anthropic writes it. -/
def Names (chrono : Chrono Date) (model : List Char) (name : ModelName)
    (version : Version Date) : Prop :=
  model = (⟨name, version⟩ : ModelIdWithVersion Date).display chrono

/-- The alias of a model. -/
def aliasForm (name : ModelName) : List Char :=
  if Text.contains "claude-3".toList name then name ++ "-latest".toList else name

/-- A pinned version is written after the name. -/
theorem display_of_isPinned (chrono : Chrono Date) (name : ModelName) {version : Version Date}
    (h : version.IsPinned) :
    (⟨name, version⟩ : ModelIdWithVersion Date).display chrono =
      name ++ '-' :: version.display chrono := by
  cases version with
  | implicitLatest => exact h.elim
  | latest => exact h.elim
  | preview => rfl
  | dateVersionedPreview date format => rfl
  | date date format => rfl

/-- Whatever its version was, a model of Anthropic is written as its alias. -/
theorem display_anthropicVersion (chrono : Chrono Date) (id : ModelIdWithVersion Date) :
    (anthropicVersion (.modelIdWithVersion .anthropic id)).display chrono = aliasForm id.model := by
  change (⟨id.model, if _ then _ else _⟩ : ModelIdWithVersion Date).display chrono = _
  unfold aliasForm
  split
  · rfl
  · rfl

/-- The ids of other providers are left alone. -/
theorem anthropicVersion_eq_self {m : ModelId Date} (h : m.inferenceProvider ≠ some .anthropic) :
    anthropicVersion m = m := by
  unfold anthropicVersion
  split
  · exact absurd rfl h
  · rfl

/-- An alias names no pinned version, as no date is written like the keyword. -/
theorem not_names_aliasForm {chrono : Chrono Date}
    (hlatest : ∀ date format, chrono.format date (DateFormat.asStr format) ≠ "latest".toList)
    (name : ModelName) {version : Version Date} (h : version.IsPinned) :
    ¬Names chrono (aliasForm name) name version := by
  intro hnames
  unfold Names at hnames
  rw [display_of_isPinned chrono name h, aliasForm] at hnames
  split at hnames
  · have hsuffix : "latest".toList = version.display chrono :=
      (List.cons.inj (List.append_cancel_left hnames)).2
    cases version with
    | implicitLatest => exact h
    | latest => exact h
    | preview => cases hsuffix
    | dateVersionedPreview date format => cases hsuffix
    | date date format => exact hlatest date format hsuffix.symm
  · -- without a suffix the alias is too short
    have hlength := congrArg List.length hnames
    rw [List.length_append, List.length_cons] at hlength
    omega

/-- The syntax of Bedrock names no model of Anthropic: there is more in it. -/
theorem not_names_bedrock (chrono : Chrono Date) (id : BedrockModelId Date) {version : Version Date}
    (hversion : id.version = some version) (h : version.IsPinned) :
    ¬Names chrono (id.display chrono) id.model version := by
  intro hnames
  unfold Names at hnames
  rw [display_of_isPinned chrono id.model h, BedrockModelId.display, hversion] at hnames
  have hlength := congrArg List.length hnames
  simp only [List.length_append, List.length_cons] at hlength
  omega

section Convert

variable {images : ImageLib} {chrono : Chrono Date} {mapper : ModelMapper} {request : ChatRequest}
  {out : CreateMessageParams} {source : ModelId Date} {offered : List ModelName}

/-- **The model string of an offered model.** -/
theorem model_tryConvert
    (hsource : ModelId.fromStr chrono request.model.toList = .ok source)
    (hoffered : mapper.providersConfig .anthropic = some offered)
    (hname : ModelName.fromModel source ∈ offered)
    (h : tryConvert images chrono mapper request = .ok out) :
    out.model = (anthropicVersion source).display chrono := by
  have hmapped : mapModel chrono mapper source .anthropic = .ok source := by
    unfold mapModel
    rw [hoffered]
    exact if_pos hname
  unfold tryConvert at h
  rw [hsource] at h
  obtain ⟨source', hsource', h⟩ := Except.bind_eq_ok_iff.mp h
  cases hsource'
  rw [hmapped] at h
  obtain ⟨target, htarget, h⟩ := Except.bind_eq_ok_iff.mp h
  cases htarget
  obtain ⟨messages, -, h⟩ := Except.bind_eq_ok_iff.mp h
  cases h
  rfl

/-- **When a pinned version is honoured.** It is in the ids that are written neither for Anthropic
nor for Bedrock. -/
theorem pinned_iff
    (hlatest : ∀ date format, chrono.format date (DateFormat.asStr format) ≠ "latest".toList)
    (hsource : ModelId.fromStr chrono request.model.toList = .ok source)
    {version : Version Date} (hversion : source.version? = some version)
    (hpinned : version.IsPinned)
    (hoffered : mapper.providersConfig .anthropic = some offered)
    (hname : ModelName.fromModel source ∈ offered)
    (h : tryConvert images chrono mapper request = .ok out) :
    Names chrono out.model (ModelName.fromModel source) version ↔
      source.inferenceProvider ≠ some .anthropic ∧ source.inferenceProvider ≠ some .bedrock := by
  rw [model_tryConvert hsource hoffered hname h]
  cases source with
  | modelIdWithVersion provider id =>
    obtain rfl := Option.some.inj hversion
    -- Anthropic has its version overwritten by an alias; all others keep their own
    by_cases hprovider : provider = .anthropic
    · subst hprovider
      rw [display_anthropicVersion]
      exact iff_of_false (not_names_aliasForm hlatest id.model hpinned) fun hor => hor.1 rfl
    · have hown : (modelIdWithVersion provider id).inferenceProvider ≠ some .anthropic :=
        fun heq => hprovider (Option.some.inj heq)
      rw [anthropicVersion_eq_self hown]
      obtain ⟨_, rfl, hbedrock, -⟩ := ModelId.ownVariant_of_fromStr hsource
      exact iff_of_true rfl ⟨hown, fun heq => hbedrock (Option.some.inj heq)⟩
  | bedrock id =>
    have hbedrock : anthropicVersion (bedrock id) = bedrock id := rfl
    rw [hbedrock]
    exact iff_of_false (not_names_bedrock chrono id hversion hpinned) fun hor => hor.2 rfl
  | ollama id => cases hversion
  | unknown id => cases hversion

end Convert

/-! ### A dated model -/

/-- A date is written with digits and dashes, and a plus before a year that is too long. -/
theorem isDigit_of_mem_write {date : Day} {format : DateFormat} {c : Char}
    (h : c ∈ date.write format) : c.isDigit = true ∨ c = '-' ∨ c = '+' := by
  have hpadded : ∀ width n, c ∈ Day.padded width n → c.isDigit = true := by
    intro width n hc
    rcases List.mem_append.mp hc with hc | hc
    · rw [List.eq_of_mem_replicate hc]
      rfl
    · exact Nat.isDigit_of_mem_toDigits (by decide) (by decide) hc
  have hyear : c ∈ Day.writeYear date.year → c.isDigit = true ∨ c = '-' ∨ c = '+' := by
    intro hc
    unfold Day.writeYear at hc
    split at hc
    · rcases List.mem_cons.mp hc with rfl | hc
      · exact Or.inr (Or.inl rfl)
      · exact Or.inl (hpadded _ _ hc)
    · split at hc
      · rcases List.mem_cons.mp hc with rfl | hc
        · exact Or.inr (Or.inr rfl)
        · exact Or.inl (hpadded _ _ hc)
      · exact Or.inl (hpadded _ _ hc)
  -- each format is a row of numbers with dashes between them, or with none
  cases format with
  | yearMonthDay =>
    simp only [Day.write, List.mem_append, List.mem_cons] at h
    obtain h | rfl | h | rfl | h := h
    · exact hyear h
    · exact Or.inr (Or.inl rfl)
    · exact Or.inl (hpadded _ _ h)
    · exact Or.inr (Or.inl rfl)
    · exact Or.inl (hpadded _ _ h)
  | compact =>
    simp only [Day.write, List.mem_append] at h
    obtain h | h | h := h
    · exact hyear h
    · exact Or.inl (hpadded _ _ h)
    · exact Or.inl (hpadded _ _ h)
  | monthDay =>
    simp only [Day.write, List.mem_append, List.mem_cons] at h
    obtain h | rfl | h := h
    · exact Or.inl (hpadded _ _ h)
    · exact Or.inr (Or.inl rfl)
    · exact Or.inl (hpadded _ _ h)

/-- No date of the calendar is written like the keyword. -/
theorem gregorian_ne_latest (date : Day) (format : DateFormat) :
    gregorian.format date format.asStr ≠ "latest".toList := by
  intro h
  have hwrite : date.write format = gregorian.format date format.asStr := by cases format <;> rfl
  have hmem : 'l' ∈ date.write format := by
    rw [hwrite, h]
    decide
  have hdigit := isDigit_of_mem_write hmem
  revert hdigit
  decide

/-- A request for a model, without messages. -/
def askFor (model : String) : ChatRequest :=
  { Conversation.chat [] none with model := model }

/-- **A pinned model in the catalogue of another provider.** -/
theorem pinned_iff_gemini : ∃ out,
    tryConvert Conversation.noImages gregorian Conversation.smallMapper
      (askFor "gemini/claude-3-5-haiku-20241022") = .ok out ∧
      Names gregorian out.model "claude-3-5-haiku".toList (.date ⟨2024, 10, 22⟩ .compact) := by
  have hsource : ModelId.fromStr gregorian "gemini/claude-3-5-haiku-20241022".toList =
      .ok (.modelIdWithVersion .googleGemini
        ⟨"claude-3-5-haiku".toList, .date ⟨2024, 10, 22⟩ .compact⟩) := by rfl
  have hpinned : (Version.date (⟨2024, 10, 22⟩ : Day) .compact).IsPinned := trivial
  obtain ⟨out, hout⟩ : ∃ out, tryConvert Conversation.noImages gregorian Conversation.smallMapper
      (askFor "gemini/claude-3-5-haiku-20241022") = .ok out := ⟨_, by rfl⟩
  have hiff := pinned_iff gregorian_ne_latest hsource rfl hpinned rfl
    (List.mem_singleton_self _) hout
  exact ⟨out, hout, hiff.mpr ⟨by decide, by decide⟩⟩

/-- **A pinned model of Anthropic is sent as its alias.** -/
theorem pinned_fails : ¬ ∀ (request : ChatRequest) (source : ModelId Day)
    (version : Version Day) (out : CreateMessageParams),
    ModelId.fromStr gregorian request.model.toList = .ok source →
    source.version? = some version → version.IsPinned →
    ModelName.fromModel source ∈ ["claude-3-5-haiku".toList] →
    tryConvert Conversation.noImages gregorian Conversation.smallMapper request = .ok out →
    Names gregorian out.model (ModelName.fromModel source) version := by
  intro h
  have hsource : ModelId.fromStr gregorian "anthropic/claude-3-5-haiku-20241022".toList =
      .ok (.modelIdWithVersion .anthropic
        ⟨"claude-3-5-haiku".toList, .date ⟨2024, 10, 22⟩ .compact⟩) := by rfl
  have hpinned : (Version.date (⟨2024, 10, 22⟩ : Day) .compact).IsPinned := trivial
  obtain ⟨out, hout⟩ : ∃ out, tryConvert Conversation.noImages gregorian Conversation.smallMapper
      (askFor "anthropic/claude-3-5-haiku-20241022") = .ok out := ⟨_, by rfl⟩
  have hnames := h _ _ _ out hsource rfl hpinned (List.mem_singleton_self _) hout
  rw [model_tryConvert hsource rfl (List.mem_singleton_self _) hout] at hnames
  exact not_names_aliasForm gregorian_ne_latest "claude-3-5-haiku".toList hpinned hnames

end Anthropic

end AiGateway
