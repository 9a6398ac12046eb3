import AiGateway.Framework.RustStd
import AiGateway.Framework.Text
import AiGateway.Types.Provider

/-!
# Model ids

`types/model_id.rs`: the model ids of the providers, how each format is parsed, and how
an id is written. A text is a list of characters. The dates of versions are parsed and
written by `Chrono`, about which nothing is assumed.

The parsers take a text apart and drop what they do not need to write it again, such as
the way a date was written. What is kept is said by `UpToVersion`: the text and the id
agree but for their versions. `spec_of_fromStrAndProvider` proves it of every id that is
parsed.
-/

namespace AiGateway

/-! ### Dates -/

/-- The formats of the dates in versions. -/
inductive DateFormat
  | yearMonthDay
  | compact
  | monthDay
  deriving DecidableEq, Repr

def DateFormat.asStr : DateFormat → List Char
  | yearMonthDay => "%Y-%m-%d".toList
  | compact => "%Y%m%d".toList
  | monthDay => "%m-%d".toList

/-- The parser and the printer of dates, and the current year. -/
structure Chrono (Date : Type) where
  parseFromStr : List Char → List Char → Option Date
  format : Date → List Char → List Char
  year : ℕ

variable {Date : Type}

/-- `parse_date`: a full date, a compact one, or a day of the current year. -/
def parseDate (chrono : Chrono Date) (input : List Char) : Option (Date × DateFormat) :=
  match chrono.parseFromStr input DateFormat.yearMonthDay.asStr with
  | some date => some (date, .yearMonthDay)
  | none =>
    match chrono.parseFromStr input DateFormat.compact.asStr with
    | some date => some (date, .compact)
    | none =>
      match chrono.parseFromStr ((toString chrono.year).toList ++ '-' :: input)
          DateFormat.yearMonthDay.asStr with
      | some date => some (date, .monthDay)
      | none => none

/-! ### Versions -/

inductive Version (Date : Type)
  /-- Same as `latest` but without the suffix. -/
  | implicitLatest
  | latest
  | preview
  | dateVersionedPreview (date : Date) (format : DateFormat)
  | date (date : Date) (format : DateFormat)

/-- `MapperError`, the ones that concern models. -/
inductive MapperError
  | noModelMapping (provider : InferenceProvider) (model : List Char)
  | invalidModelName (name : List Char)
  | noProviderConfig (provider : InferenceProvider)
  deriving DecidableEq

/-- `Display`. -/
def Version.display (chrono : Chrono Date) : Version Date → List Char
  | implicitLatest => []
  | latest => "latest".toList
  | preview => "preview".toList
  | dateVersionedPreview day format => "preview-".toList ++ chrono.format day format.asStr
  | date day format => chrono.format day format.asStr

/-- A candidate is read as a date of a given kind. -/
def dateVersion (chrono : Chrono Date) (kind : DateFormat → Bool)
    (candidate : List Char × List Char) : Option (List Char × Option (Version Date)) :=
  match parseDate chrono candidate.2 with
  | some (date, format) =>
    if kind format then some (candidate.1, some (.date date format)) else none
  | none => none

/-- A candidate is read as a date of any kind, or as a keyword. -/
def otherVersion (chrono : Chrono Date) (candidate : List Char × List Char) :
    Option (List Char × Option (Version Date)) :=
  match dateVersion chrono (fun _ => true) candidate with
  | some found => some found
  | none =>
    if Text.eqIgnoreAsciiCase candidate.2 "latest".toList then some (candidate.1, some .latest)
    else if Text.eqIgnoreAsciiCase candidate.2 "preview".toList then
      some (candidate.1, some .preview)
    else none

/-- A preview of a date. -/
def datedPreview (chrono : Chrono Date) (s : List Char) :
    Option (List Char × Option (Version Date)) :=
  match Text.splitLast "-preview-".toList s with
  | some (model, after) =>
    match parseDate chrono after with
    | some (date, format) => some (model, some (.dateVersionedPreview date format))
    | none => none
  | none => none

/-- `parse_model_and_version`. Dates of a full or compact format go before the rest, and
among candidates the longest one. -/
def parseModelAndVersion (chrono : Chrono Date) (s : List Char) (separator : Char) :
    List Char × Option (Version Date) :=
  match datedPreview chrono s with
  | some found => found
  | none =>
    match Text.stripSuffix "-preview".toList s with
    | some model => (model, some .preview)
    | none =>
      match Text.stripSuffix "-latest".toList s with
      | some model => (model, some .latest)
      | none =>
        let candidates := Text.splits separator s
        -- a day alone may be the end of a longer date, so it is tried last
        match candidates.findSome? (dateVersion chrono (· ≠ .monthDay)) with
        | some found => found
        | none =>
          match candidates.findSome? (otherVersion chrono) with
          | some found => found
          | none => (s, none)

/-! ### Model ids -/

/-- The format `{model}-{version}`. -/
structure ModelIdWithVersion (Date : Type) where
  model : List Char
  version : Version Date

/-- The format `{model}:{tag}`. -/
structure OllamaModelId where
  model : List Char
  tag : Option (List Char)

/-- The format `{provider}.{model}(-version)?-{bedrock_internal_version}`. -/
structure BedrockModelId (Date : Type) where
  provider : List Char
  model : List Char
  version : Option (Version Date)
  bedrockInternalVersion : List Char

inductive ModelId (Date : Type)
  | modelIdWithVersion (provider : InferenceProvider) (id : ModelIdWithVersion Date)
  | bedrock (id : BedrockModelId Date)
  | ollama (id : OllamaModelId)
  | unknown (id : List Char)

/-- `ModelName`. -/
abbrev ModelName := List Char

/-- `ModelName::from_model`: the name without provider and version. -/
def ModelName.fromModel : ModelId Date → ModelName
  | .modelIdWithVersion _ id => id.model
  | .bedrock id => id.model
  | .ollama id => id.model
  | .unknown id => id

/-! ### Parsing -/

def ModelIdWithVersion.fromStr (chrono : Chrono Date) (s : List Char) :
    Except MapperError (ModelIdWithVersion Date) :=
  if s = [] then .error (.invalidModelName "Model name cannot be empty".toList)
  else if s.getLast? = some '-' then
    .error (.invalidModelName "Model name cannot end with dash".toList)
  else if s.getLast? = some '.' then
    .error (.invalidModelName "Model name cannot end with dot".toList)
  else if s.getLast? = some '@' then
    .error (.invalidModelName "Model name cannot end with @ symbol".toList)
  else
    let parsed := parseModelAndVersion chrono s '-'
    .ok ⟨parsed.1, parsed.2.getD .implicitLatest⟩

/-- The tag is what follows the first colon, if there is anything. -/
def OllamaModelId.fromStr (s : List Char) : OllamaModelId :=
  match Text.splitFirst ':' s with
  | some (model, tag) => ⟨model, if tag = [] then none else some tag⟩
  | none => ⟨s, none⟩

def BedrockModelId.fromStr (chrono : Chrono Date) (s : List Char) :
    Except MapperError (BedrockModelId Date) :=
  match Text.splitFirst '.' s with
  | none => .error (.invalidModelName s)
  | some (provider, rest) =>
    match Text.splitLast "-v".toList rest with
    | none => .error (.invalidModelName s)
    | some (modelPart, after) =>
      let parsed := parseModelAndVersion chrono modelPart '-'
      .ok ⟨provider, parsed.1, parsed.2, 'v' :: after⟩

namespace ModelId

/-- `from_str_and_provider`: each provider has its format. -/
def fromStrAndProvider (chrono : Chrono Date) (requestStyle : InferenceProvider) (s : List Char) :
    Except MapperError (ModelId Date) :=
  match requestStyle with
  | .bedrock => (BedrockModelId.fromStr chrono s).map .bedrock
  | .ollama => .ok (.ollama (OllamaModelId.fromStr s))
  | provider => (ModelIdWithVersion.fromStr chrono s).map (.modelIdWithVersion provider)

/-- `inference_provider`. -/
def inferenceProvider : ModelId Date → Option InferenceProvider
  | modelIdWithVersion provider _ => some provider
  | bedrock _ => some .bedrock
  | ollama _ => some .ollama
  | unknown _ => none

/-- `FromStr`: the provider and its model, with a slash between them. -/
def fromStr (chrono : Chrono Date) (s : List Char) : Except MapperError (ModelId Date) :=
  match Text.splitFirst '/' s with
  | some (provider, model) =>
    if model = [] then
      .error (.invalidModelName "Model name cannot be empty after provider".toList)
    else fromStrAndProvider chrono (InferenceProvider.fromStr (String.ofList provider)) model
  | none => .error (.invalidModelName
      ("Model string must be in format '\x7bprovider\x7d/\x7bmodel_name\x7d', got '".toList ++
        s ++ "'".toList))

end ModelId

/-- What is parsed, once the checks on the text have passed. -/
theorem ModelIdWithVersion.eq_of_fromStr {chrono : Chrono Date} {s : List Char}
    {id : ModelIdWithVersion Date} (h : fromStr chrono s = .ok id) :
    id = ⟨(parseModelAndVersion chrono s '-').1,
      (parseModelAndVersion chrono s '-').2.getD .implicitLatest⟩ := by
  unfold fromStr at h
  split at h
  · cases h
  split at h
  · cases h
  split at h
  · cases h
  split at h
  · cases h
  exact (Except.ok.inj h).symm

/-- What is parsed, and how the text was split. -/
theorem BedrockModelId.exists_of_fromStr {chrono : Chrono Date} {s : List Char}
    {id : BedrockModelId Date} (h : fromStr chrono s = .ok id) :
    ∃ provider rest modelPart after, Text.splitFirst '.' s = some (provider, rest) ∧
      Text.splitLast "-v".toList rest = some (modelPart, after) ∧
      id = ⟨provider, (parseModelAndVersion chrono modelPart '-').1,
        (parseModelAndVersion chrono modelPart '-').2, 'v' :: after⟩ := by
  unfold fromStr at h
  split at h
  · cases h
  · next provider rest hprovider =>
    split at h
    · cases h
    · next modelPart after hversion =>
      exact ⟨provider, rest, modelPart, after, hprovider, hversion, (Except.ok.inj h).symm⟩

/-! ### Writing -/

def ModelIdWithVersion.display (chrono : Chrono Date) (id : ModelIdWithVersion Date) : List Char :=
  match id.version with
  | .implicitLatest => id.model
  | version => id.model ++ '-' :: version.display chrono

def OllamaModelId.display (id : OllamaModelId) : List Char :=
  match id.tag with
  | some tag => id.model ++ ':' :: tag
  | none => id.model

def BedrockModelId.display (chrono : Chrono Date) (id : BedrockModelId Date) : List Char :=
  match id.version with
  | some version => id.provider ++ '.' :: id.model ++ '-' :: version.display chrono ++
      '-' :: id.bedrockInternalVersion
  | none => id.provider ++ '.' :: id.model ++ '-' :: id.bedrockInternalVersion

namespace ModelId

/-- `Display`. -/
def display (chrono : Chrono Date) : ModelId Date → List Char
  | modelIdWithVersion _ id => id.display chrono
  | bedrock id => id.display chrono
  | ollama id => id.display
  | unknown id => id

/-! ### Up to the version -/

/-- What is written of an id besides its version: the text before and after it. -/
def frame : ModelId Date → List Char × List Char
  | modelIdWithVersion _ id => (id.model, [])
  | bedrock id => (id.provider ++ '.' :: id.model, '-' :: id.bedrockInternalVersion)
  | ollama id => (id.model, [])
  | unknown id => (id, [])

end ModelId

/-- The texts a version is read from. -/
def IsVersionText (chrono : Chrono Date) (text : List Char) : Prop :=
  Text.eqIgnoreAsciiCase text "latest".toList = true ∨
    Text.eqIgnoreAsciiCase text "preview".toList = true ∨
    (parseDate chrono text).isSome = true ∨
    ∃ day, text = "preview-".toList ++ day ∧ (parseDate chrono day).isSome = true

/-- A version suffix: nothing, or a dash and a version. -/
def IsVersionSuffix (chrono : Chrono Date) (suffix : List Char) : Prop :=
  suffix = [] ∨ ∃ text, suffix = '-' :: text ∧ IsVersionText chrono text

/-- A tag: nothing, or a colon and anything. -/
def IsTagSuffix (suffix : List Char) : Prop := suffix = [] ∨ ∃ tag, suffix = ':' :: tag

namespace ModelId

/-- The suffixes of the format of an id. An unknown id has none. -/
def IsSuffix (chrono : Chrono Date) : ModelId Date → List Char → Prop
  | modelIdWithVersion _ _, suffix => IsVersionSuffix chrono suffix
  | bedrock _, suffix => IsVersionSuffix chrono suffix
  | ollama _, suffix => IsTagSuffix suffix
  | unknown _, suffix => suffix = []

/-- **The same up to the version.** The text is the id as it is written, with another
version in the place of its own. -/
def UpToVersion (chrono : Chrono Date) (m : ModelId Date) (s : List Char) : Prop :=
  ∃ suffix, m.IsSuffix chrono suffix ∧ s = m.frame.1 ++ suffix ++ m.frame.2

end ModelId

/-! ### What is parsed -/

/-- A name has been split off a version. -/
def SplitsVersion (chrono : Chrono Date) (s model : List Char) : Prop :=
  ∃ text, s = model ++ '-' :: text ∧ IsVersionText chrono text

theorem splitsVersion_of_datedPreview {chrono : Chrono Date} {s : List Char}
    {found : List Char × Option (Version Date)} (h : datedPreview chrono s = some found) :
    SplitsVersion chrono s found.1 := by
  unfold datedPreview at h
  split at h
  · next model after hsplit =>
    split at h
    · next date format hdate =>
      obtain rfl := Option.some.inj h
      refine ⟨"preview-".toList ++ after, Text.eq_of_splitLast hsplit, ?_⟩
      exact Or.inr (Or.inr (Or.inr ⟨after, rfl, by rw [hdate]; rfl⟩))
    · cases h
  · cases h

/-- What a candidate read as a date is split into. -/
theorem dateVersion_eq_some {chrono : Chrono Date} {kind : DateFormat → Bool}
    {candidate : List Char × List Char} {found : List Char × Option (Version Date)}
    (h : dateVersion chrono kind candidate = some found) :
    found.1 = candidate.1 ∧ IsVersionText chrono candidate.2 := by
  unfold dateVersion at h
  split at h
  · next date format hdate =>
    split at h
    · obtain rfl := Option.some.inj h
      exact ⟨rfl, Or.inr (Or.inr (Or.inl (by rw [hdate]; rfl)))⟩
    · cases h
  · cases h

theorem otherVersion_eq_some {chrono : Chrono Date} {candidate : List Char × List Char}
    {found : List Char × Option (Version Date)}
    (h : otherVersion chrono candidate = some found) :
    found.1 = candidate.1 ∧ IsVersionText chrono candidate.2 := by
  unfold otherVersion at h
  split at h
  · next found' hdate =>
    obtain rfl := Option.some.inj h
    exact dateVersion_eq_some hdate
  · split at h
    · next hlatest =>
      obtain rfl := Option.some.inj h
      exact ⟨rfl, Or.inl hlatest⟩
    · split at h
      · next hpreview =>
        obtain rfl := Option.some.inj h
        exact ⟨rfl, Or.inr (Or.inl hpreview)⟩
      · cases h

/-- What is found among the candidates splits the text. -/
theorem splitsVersion_of_findSome {chrono : Chrono Date} {s : List Char}
    {read : List Char × List Char → Option (List Char × Option (Version Date))}
    (hread : ∀ candidate found, read candidate = some found →
      found.1 = candidate.1 ∧ IsVersionText chrono candidate.2)
    {found : List Char × Option (Version Date)}
    (h : (Text.splits '-' s).findSome? read = some found) : SplitsVersion chrono s found.1 := by
  obtain ⟨candidate, hmem, hcandidate⟩ := List.exists_of_findSome?_eq_some h
  obtain ⟨hmodel, htext⟩ := hread candidate found hcandidate
  rw [hmodel]
  exact ⟨candidate.2, Text.eq_of_mem_splits hmem, htext⟩

/-- **A name and its version.** A text that is parsed is the name alone, or splits into
the name and a version. -/
theorem parseModelAndVersion_spec (chrono : Chrono Date) (s : List Char) :
    s = (parseModelAndVersion chrono s '-').1 ∨
      SplitsVersion chrono s (parseModelAndVersion chrono s '-').1 := by
  unfold parseModelAndVersion
  -- the suffixes that are looked for first, each of them a version
  split
  · next found hfound => exact Or.inr (splitsVersion_of_datedPreview hfound)
  split
  · next model hmodel =>
    exact Or.inr ⟨"preview".toList, Text.eq_of_stripSuffix hmodel, Or.inr (Or.inl (by decide))⟩
  split
  · next model hmodel =>
    exact Or.inr ⟨"latest".toList, Text.eq_of_stripSuffix hmodel, Or.inl (by decide)⟩
  dsimp only
  -- the candidates are searched twice, first for the dates that cannot be mistaken
  split
  · next found hfound =>
    exact Or.inr (splitsVersion_of_findSome (fun _ _ => dateVersion_eq_some) hfound)
  split
  · next found hfound =>
    exact Or.inr (splitsVersion_of_findSome (fun _ _ => otherVersion_eq_some) hfound)
  · exact Or.inl rfl

/-- A text is the name that is parsed and a version suffix. -/
theorem exists_suffix_parseModelAndVersion (chrono : Chrono Date) (s : List Char) :
    ∃ suffix, IsVersionSuffix chrono suffix ∧
      s = (parseModelAndVersion chrono s '-').1 ++ suffix := by
  obtain h | ⟨text, h, htext⟩ := parseModelAndVersion_spec chrono s
  · exact ⟨[], Or.inl rfl, by rw [List.append_nil]; exact h⟩
  · exact ⟨'-' :: text, Or.inr ⟨text, rfl, htext⟩, h⟩

namespace ModelId

/-- The id has the format of a provider. -/
def OwnVariant (provider : InferenceProvider) : ModelId Date → Prop
  | modelIdWithVersion p _ => p = provider ∧ provider ≠ .bedrock ∧ provider ≠ .ollama
  | bedrock _ => provider = .bedrock
  | ollama _ => provider = .ollama
  | unknown _ => False

/-- An id of a format belongs to the provider. -/
theorem OwnVariant.inferenceProvider {provider : InferenceProvider} {m : ModelId Date}
    (h : OwnVariant provider m) : m.inferenceProvider = some provider := by
  cases m with
  | modelIdWithVersion p id => exact congrArg some h.1
  | bedrock id => exact congrArg some h.symm
  | ollama id => exact congrArg some h.symm
  | unknown id => exact h.elim

theorem upToVersion_of_modelIdWithVersion {chrono : Chrono Date} {s : List Char}
    {id : ModelIdWithVersion Date} (provider : InferenceProvider)
    (h : ModelIdWithVersion.fromStr chrono s = .ok id) :
    UpToVersion chrono (modelIdWithVersion provider id) s := by
  obtain rfl := ModelIdWithVersion.eq_of_fromStr h
  obtain ⟨suffix, hsuffix, hs⟩ := exists_suffix_parseModelAndVersion chrono s
  refine ⟨suffix, hsuffix, ?_⟩
  change s = (parseModelAndVersion chrono s '-').1 ++ suffix ++ []
  rw [List.append_nil]
  exact hs

theorem upToVersion_of_bedrock {chrono : Chrono Date} {s : List Char} {id : BedrockModelId Date}
    (h : BedrockModelId.fromStr chrono s = .ok id) : UpToVersion chrono (bedrock id) s := by
  obtain ⟨provider, rest, modelPart, after, hprovider, hversion, rfl⟩ :=
    BedrockModelId.exists_of_fromStr h
  obtain ⟨suffix, hsuffix, hmodel⟩ := exists_suffix_parseModelAndVersion chrono modelPart
  refine ⟨suffix, hsuffix, ?_⟩
  change s = provider ++ '.' :: (parseModelAndVersion chrono modelPart '-').1 ++ suffix ++
    '-' :: 'v' :: after
  -- put the text together again from the provider, the model and the internal version
  have hrest : rest = modelPart ++ '-' :: 'v' :: after := Text.eq_of_splitLast hversion
  calc s = provider ++ '.' :: rest := Text.eq_of_splitFirst hprovider
    _ = provider ++ '.' :: (modelPart ++ '-' :: 'v' :: after) := by rw [hrest]
    _ = provider ++ '.' :: ((parseModelAndVersion chrono modelPart '-').1 ++ suffix ++
          '-' :: 'v' :: after) := by rw [← hmodel]
    _ = _ := by simp

theorem upToVersion_of_ollama (chrono : Chrono Date) (s : List Char) :
    UpToVersion chrono (ollama (OllamaModelId.fromStr s)) s := by
  unfold OllamaModelId.fromStr
  split
  · next model tag hsplit =>
    refine ⟨':' :: tag, Or.inr ⟨tag, rfl⟩, ?_⟩
    rw [Text.eq_of_splitFirst hsplit]
    exact (List.append_nil _).symm
  · refine ⟨[], Or.inl rfl, ?_⟩
    change s = s ++ [] ++ []
    rw [List.append_nil, List.append_nil]

/-- The formats a text can be parsed in for a provider. -/
theorem fromStrAndProvider_cases {chrono : Chrono Date} {provider : InferenceProvider}
    {s : List Char} {m : ModelId Date} (h : fromStrAndProvider chrono provider s = .ok m) :
    (provider = .bedrock ∧ ∃ id, BedrockModelId.fromStr chrono s = .ok id ∧ m = bedrock id) ∨
    (provider = .ollama ∧ m = ollama (OllamaModelId.fromStr s)) ∨
    (provider ≠ .bedrock ∧ provider ≠ .ollama ∧
      ∃ id, ModelIdWithVersion.fromStr chrono s = .ok id ∧ m = modelIdWithVersion provider id) := by
  unfold fromStrAndProvider at h
  split at h
  · obtain ⟨id, hid, rfl⟩ := Except.map_eq_ok_iff.mp h
    exact Or.inl ⟨rfl, id, hid, rfl⟩
  · exact Or.inr (Or.inl ⟨rfl, (Except.ok.inj h).symm⟩)
  · next hbedrock hollama =>
    obtain ⟨id, hid, rfl⟩ := Except.map_eq_ok_iff.mp h
    exact Or.inr (Or.inr ⟨hbedrock, hollama, id, hid, rfl⟩)

/-- **What is parsed for a provider** is in its format, and the text is the id up to the
version. -/
theorem spec_of_fromStrAndProvider {chrono : Chrono Date} {provider : InferenceProvider}
    {s : List Char} {m : ModelId Date} (h : fromStrAndProvider chrono provider s = .ok m) :
    OwnVariant provider m ∧ UpToVersion chrono m s := by
  obtain ⟨rfl, id, hid, rfl⟩ | ⟨rfl, rfl⟩ | ⟨hbedrock, hollama, id, hid, rfl⟩ :=
    fromStrAndProvider_cases h
  · exact ⟨rfl, upToVersion_of_bedrock hid⟩
  · exact ⟨rfl, upToVersion_of_ollama chrono s⟩
  · exact ⟨⟨rfl, hbedrock, hollama⟩, upToVersion_of_modelIdWithVersion provider hid⟩

end ModelId

end AiGateway
