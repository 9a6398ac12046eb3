import AiGateway.Types.ModelId

/-!
# Writing what was read

A model id that is read and written again goes upstream in the place of the text the
client sent. A date is kept as a date and a keyword as a case of `Version`, so what is
written is the text that was read only if the printer happens to write it that way.

`versionSplit` finds the text that `parse_model_and_version` reads as the version, by the
same rules, and `WrittenBack` says of such a text that it is written as it stands.

* `parseModelAndVersion_eq`: the parser reads that text;
* `written_iff`: the texts that are written as they were read.
-/

namespace AiGateway

open ModelId

variable {Date : Type}

/-! ### The text of a version -/

/-- The text of a version, by the rule that reads it. -/
inductive VersionText
  | datedPreview (day : List Char)
  | preview
  | latest
  | date (text : List Char)
  | keyword (text : List Char)

namespace VersionText

/-- The text as it stands in the id. -/
def text : VersionText → List Char
  | datedPreview day => "preview-".toList ++ day
  | preview => "preview".toList
  | latest => "latest".toList
  | date text => text
  | keyword text => text

/-- The version that is read from it. -/
def version (chrono : Chrono Date) : VersionText → Option (Version Date)
  | datedPreview day => (parseDate chrono day).map fun p => .dateVersionedPreview p.1 p.2
  | preview => some .preview
  | latest => some .latest
  | date text => (parseDate chrono text).map fun p => .date p.1 p.2
  | keyword text =>
    if Text.eqIgnoreAsciiCase text "latest".toList then some .latest
    else if Text.eqIgnoreAsciiCase text "preview".toList then some .preview
    else none

end VersionText

/-- A candidate that is a date of a given kind. -/
def dateSplit (chrono : Chrono Date) (kind : DateFormat → Bool)
    (candidate : List Char × List Char) : Option (List Char × VersionText) :=
  if (parseDate chrono candidate.2).any fun p => kind p.2 then
    some (candidate.1, .date candidate.2)
  else none

/-- A candidate that is a date of any kind, or a keyword. -/
def otherSplit (chrono : Chrono Date) (candidate : List Char × List Char) :
    Option (List Char × VersionText) :=
  match dateSplit chrono (fun _ => true) candidate with
  | some p => some p
  | none =>
    if Text.eqIgnoreAsciiCase candidate.2 "latest".toList ∨
        Text.eqIgnoreAsciiCase candidate.2 "preview".toList then
      some (candidate.1, .keyword candidate.2)
    else none

/-- A preview of a date. -/
def datedPreviewSplit (chrono : Chrono Date) (s : List Char) : Option (List Char × VersionText) :=
  match Text.splitLast "-preview-".toList s with
  | some (model, after) =>
    if (parseDate chrono after).isSome then some (model, .datedPreview after) else none
  | none => none

/-- The name and the version text of a text, if it has one, by the rules of the parser in
their order. -/
def versionSplit (chrono : Chrono Date) (s : List Char) : Option (List Char × VersionText) :=
  match datedPreviewSplit chrono s with
  | some p => some p
  | none =>
    match Text.stripSuffix "-preview".toList s with
    | some model => some (model, .preview)
    | none =>
      match Text.stripSuffix "-latest".toList s with
      | some model => some (model, .latest)
      | none =>
        match (Text.splits '-' s).findSome? (dateSplit chrono (· ≠ .monthDay)) with
        | some p => some p
        | none => (Text.splits '-' s).findSome? (otherSplit chrono)

/-! ### What is written back -/

/-- A day is written back: the printer writes the date that is read from it, in the format
it was read in, with the same characters. -/
def WritesDay (chrono : Chrono Date) (day : List Char) : Prop :=
  ∃ date format, parseDate chrono day = some (date, format) ∧
    chrono.format date format.asStr = day

/-- A version text is written back: its date is, and a keyword is in lower case. -/
def VersionText.WrittenBack (chrono : Chrono Date) : VersionText → Prop
  | datedPreview day => WritesDay chrono day
  | preview => True
  | latest => True
  | date text => WritesDay chrono text
  | keyword text => text = "latest".toList ∨ text = "preview".toList

/-- A name with its version is written back if its version text is. -/
def WritesVersion (chrono : Chrono Date) (s : List Char) : Prop :=
  ∀ p ∈ versionSplit chrono s, p.2.WrittenBack chrono

/-- What stands for the model and its version in an id of Bedrock: the text between the
first dot and the last `-v`. -/
def bedrockModelPart (s : List Char) : Option (List Char) :=
  (Text.splitFirst '.' s).bind fun p => (Text.splitLast "-v".toList p.2).map Prod.fst

/-- **The texts that are written as they were read.** For Ollama those without a colon or
with something behind it, for the others those whose version text is written back. -/
def WrittenAsRead (chrono : Chrono Date) : InferenceProvider → List Char → Prop
  | .ollama, s => ∀ model, Text.splitFirst ':' s ≠ some (model, [])
  | .bedrock, s => ∀ part ∈ bedrockModelPart s, WritesVersion chrono part
  | _, s => WritesVersion chrono s

/-! ### The parser reads the version text -/

/-- The version is read from the text that was split off. -/
def readSplit (chrono : Chrono Date) (p : List Char × VersionText) :
    List Char × Option (Version Date) :=
  (p.1, p.2.version chrono)

theorem dateVersion_eq (chrono : Chrono Date) (kind : DateFormat → Bool)
    (candidate : List Char × List Char) :
    dateVersion chrono kind candidate =
      (dateSplit chrono kind candidate).map (readSplit chrono) := by
  unfold dateVersion dateSplit
  cases hdate : parseDate chrono candidate.2 with
  | none => rfl
  | some p =>
    by_cases hkind : kind p.2 = true <;>
      simp [hkind, readSplit, VersionText.version, hdate]

theorem otherVersion_eq (chrono : Chrono Date) (candidate : List Char × List Char) :
    otherVersion chrono candidate = (otherSplit chrono candidate).map (readSplit chrono) := by
  unfold otherVersion otherSplit
  rw [dateVersion_eq]
  cases dateSplit chrono (fun _ => true) candidate with
  | some p => rfl
  | none =>
    dsimp only [Option.map_none]
    -- the keywords are looked for in the same order as they are read
    by_cases hlatest : Text.eqIgnoreAsciiCase candidate.2 "latest".toList = true
    · rw [if_pos hlatest, if_pos (Or.inl hlatest), Option.map_some, readSplit,
        VersionText.version, if_pos hlatest]
    · rw [if_neg hlatest]
      by_cases hpreview : Text.eqIgnoreAsciiCase candidate.2 "preview".toList = true
      · rw [if_pos hpreview, if_pos (Or.inr hpreview), Option.map_some, readSplit,
          VersionText.version, if_neg hlatest, if_pos hpreview]
      · rw [if_neg hpreview, if_neg (fun h => h.elim hlatest hpreview), Option.map_none]

theorem datedPreview_eq (chrono : Chrono Date) (s : List Char) :
    datedPreview chrono s = (datedPreviewSplit chrono s).map (readSplit chrono) := by
  unfold datedPreview datedPreviewSplit
  cases Text.splitLast "-preview-".toList s with
  | none => rfl
  | some p =>
    obtain ⟨model, after⟩ := p
    dsimp only
    cases hdate : parseDate chrono after with
    | none => rfl
    | some d => simp [readSplit, VersionText.version, hdate]

/-- **The parser reads the version text.** The name is what stands before it. -/
theorem parseModelAndVersion_eq (chrono : Chrono Date) (s : List Char) :
    parseModelAndVersion chrono s '-' =
      match versionSplit chrono s with
      | some p => readSplit chrono p
      | none => (s, none) := by
  have hdates : dateVersion chrono (· ≠ .monthDay) =
      Option.map (readSplit chrono) ∘ dateSplit chrono (· ≠ .monthDay) :=
    funext (dateVersion_eq chrono _)
  have hothers : otherVersion chrono =
      Option.map (readSplit chrono) ∘ otherSplit chrono := funext (otherVersion_eq chrono)
  unfold parseModelAndVersion versionSplit
  rw [datedPreview_eq, hdates, hothers]
  -- the rules are tried in the same order
  cases datedPreviewSplit chrono s with
  | some p => rfl
  | none =>
    cases Text.stripSuffix "-preview".toList s with
    | some model => rfl
    | none =>
      cases Text.stripSuffix "-latest".toList s with
      | some model => rfl
      | none =>
        dsimp only [Option.map_none]
        rw [← List.map_findSome?]
        cases (Text.splits '-' s).findSome? (dateSplit chrono (· ≠ .monthDay)) with
        | some p => rfl
        | none =>
          dsimp only [Option.map_none]
          rw [← List.map_findSome?]
          cases (Text.splits '-' s).findSome? (otherSplit chrono) with
          | some p => rfl
          | none => rfl

/-! ### A version text is written or not -/

/-- A version text ends the text it was split off, and a version is read from it. -/
def SplitsOff (chrono : Chrono Date) (s : List Char) (p : List Char × VersionText) : Prop :=
  s = p.1 ++ '-' :: p.2.text ∧ (p.2.version chrono).isSome = true

theorem splitsOff_of_dateSplit {chrono : Chrono Date} {kind : DateFormat → Bool}
    {s : List Char} {candidate : List Char × List Char} (hmem : candidate ∈ Text.splits '-' s)
    {p : List Char × VersionText} (h : dateSplit chrono kind candidate = some p) :
    SplitsOff chrono s p := by
  unfold dateSplit at h
  split at h
  · next hdate =>
    obtain rfl := Option.some.inj h
    refine ⟨Text.eq_of_mem_splits hmem, ?_⟩
    obtain ⟨d, hd, -⟩ := (Option.any_eq_true _ _).mp hdate
    show ((parseDate chrono candidate.2).map _).isSome = true
    rw [Option.isSome_map, hd]
    rfl
  · cases h

theorem splitsOff_of_otherSplit {chrono : Chrono Date} {s : List Char}
    {candidate : List Char × List Char} (hmem : candidate ∈ Text.splits '-' s)
    {p : List Char × VersionText} (h : otherSplit chrono candidate = some p) :
    SplitsOff chrono s p := by
  unfold otherSplit at h
  split at h
  · next p' hdate =>
    obtain rfl := Option.some.inj h
    exact splitsOff_of_dateSplit hmem hdate
  · split at h
    · next hkeyword =>
      obtain rfl := Option.some.inj h
      refine ⟨Text.eq_of_mem_splits hmem, ?_⟩
      show (if _ then some _ else if _ then some _ else none).isSome = true
      split
      · rfl
      · next hlatest => rw [if_pos (hkeyword.resolve_left hlatest)]; rfl
    · cases h

/-- **What is split off** is the end of the text, whichever rule found it. -/
theorem splitsOff_of_versionSplit {chrono : Chrono Date} {s : List Char}
    {p : List Char × VersionText} (h : versionSplit chrono s = some p) : SplitsOff chrono s p := by
  unfold versionSplit at h
  split at h
  · next p' hpreview =>
    obtain rfl := Option.some.inj h
    unfold datedPreviewSplit at hpreview
    split at hpreview
    · next model after hsplit =>
      split at hpreview
      · next hdate =>
        obtain rfl := Option.some.inj hpreview
        exact ⟨Text.eq_of_splitLast hsplit, by simpa [VersionText.version] using hdate⟩
      · cases hpreview
    · cases hpreview
  split at h
  · next model hmodel =>
    obtain rfl := Option.some.inj h
    exact ⟨Text.eq_of_stripSuffix hmodel, rfl⟩
  split at h
  · next model hmodel =>
    obtain rfl := Option.some.inj h
    exact ⟨Text.eq_of_stripSuffix hmodel, rfl⟩
  -- the two searches of the candidates
  split at h
  · next p' hsearch =>
    obtain rfl := Option.some.inj h
    obtain ⟨candidate, hmem, hfound⟩ := List.exists_of_findSome?_eq_some hsearch
    exact splitsOff_of_dateSplit hmem hfound
  · obtain ⟨candidate, hmem, hfound⟩ := List.exists_of_findSome?_eq_some h
    exact splitsOff_of_otherSplit hmem hfound

theorem writesDay_iff {chrono : Chrono Date} {day : List Char} {date : Date}
    {format : DateFormat} (h : parseDate chrono day = some (date, format)) :
    WritesDay chrono day ↔ chrono.format date format.asStr = day := by
  constructor
  · rintro ⟨date', format', h', hday⟩
    obtain ⟨rfl, rfl⟩ := Prod.mk.inj (Option.some.inj (h.symm.trans h'))
    exact hday
  · exact fun hday => ⟨date, format, h, hday⟩

/-- The keywords, in any case of letters. -/
theorem version_keyword_cases {chrono : Chrono Date} {text : List Char} {version : Version Date}
    (h : (VersionText.keyword text).version chrono = some version) :
    (Text.eqIgnoreAsciiCase text "latest".toList = true ∧ version = .latest) ∨
      (Text.eqIgnoreAsciiCase text "preview".toList = true ∧ version = .preview) := by
  change (if _ then some _ else if _ then some _ else none) = some version at h
  split at h
  · next hlatest => exact Or.inl ⟨hlatest, (Option.some.inj h).symm⟩
  · split at h
    · next hpreview => exact Or.inr ⟨hpreview, (Option.some.inj h).symm⟩
    · cases h

/-- A version is written as its text exactly when that text is written back. -/
theorem display_version_iff {chrono : Chrono Date} {v : VersionText} {version : Version Date}
    (h : v.version chrono = some version) :
    version.display chrono = v.text ↔ v.WrittenBack chrono := by
  cases v with
  | preview =>
    obtain rfl := Option.some.inj h
    exact iff_of_true rfl trivial
  | latest =>
    obtain rfl := Option.some.inj h
    exact iff_of_true rfl trivial
  | datedPreview day =>
    obtain ⟨⟨date, format⟩, hdate, rfl⟩ := Option.map_eq_some_iff.mp h
    show "preview-".toList ++ chrono.format date format.asStr = "preview-".toList ++ day ↔ _
    rw [List.append_cancel_left_eq]
    exact (writesDay_iff hdate).symm
  | date text =>
    obtain ⟨⟨date, format⟩, hdate, rfl⟩ := Option.map_eq_some_iff.mp h
    exact (writesDay_iff hdate).symm
  | keyword text =>
    -- the keyword is written in lower case, and `text` may be in any
    show version.display chrono = text ↔ text = "latest".toList ∨ text = "preview".toList
    obtain ⟨hcase, rfl⟩ | ⟨hcase, rfl⟩ := version_keyword_cases h
    · refine ⟨fun heq => Or.inl heq.symm, fun hor => ?_⟩
      rcases hor with rfl | rfl
      · rfl
      · exact absurd hcase (by decide)
    · refine ⟨fun heq => Or.inr heq.symm, fun hor => ?_⟩
      rcases hor with rfl | rfl
      · exact absurd hcase (by decide)
      · rfl

/-- No rule reads the version that is not written. -/
theorem version_ne_implicitLatest {chrono : Chrono Date} {v : VersionText}
    {version : Version Date} (h : v.version chrono = some version) : version ≠ .implicitLatest := by
  rintro rfl
  cases v with
  | datedPreview day => obtain ⟨p, -, hp⟩ := Option.map_eq_some_iff.mp h; cases hp
  | preview => cases h
  | latest => cases h
  | date text => obtain ⟨p, -, hp⟩ := Option.map_eq_some_iff.mp h; cases hp
  | keyword text => obtain ⟨-, h⟩ | ⟨-, h⟩ := version_keyword_cases h <;> cases h

/-! ### Names with a version -/

/-- A name and its version, as they are written. -/
def displayParsed (chrono : Chrono Date) (parsed : List Char × Option (Version Date)) :
    List Char :=
  match parsed.2 with
  | some version => parsed.1 ++ '-' :: version.display chrono
  | none => parsed.1

/-- **When a name and its version are written as they were read.** -/
theorem displayParsed_iff (chrono : Chrono Date) (s : List Char) :
    displayParsed chrono (parseModelAndVersion chrono s '-') = s ↔ WritesVersion chrono s := by
  rw [parseModelAndVersion_eq]
  unfold WritesVersion
  cases hsplit : versionSplit chrono s with
  | none => exact iff_of_true rfl (fun p hp => by cases hp)
  | some p =>
    obtain ⟨hs, hsome⟩ := splitsOff_of_versionSplit hsplit
    obtain ⟨version, hversion⟩ := Option.isSome_iff_exists.mp hsome
    have hdisplay : displayParsed chrono (readSplit chrono p) =
        p.1 ++ '-' :: version.display chrono := by
      unfold displayParsed readSplit
      rw [hversion]
    show displayParsed chrono (readSplit chrono p) = s ↔ _
    rw [hdisplay]
    calc p.1 ++ '-' :: version.display chrono = s
        ↔ p.1 ++ '-' :: version.display chrono = p.1 ++ '-' :: p.2.text := by rw [← hs]
      _ ↔ version.display chrono = p.2.text := by
          rw [List.append_cancel_left_eq, List.cons.injEq, and_iff_right rfl]
      _ ↔ p.2.WrittenBack chrono := display_version_iff hversion
      _ ↔ _ := ⟨fun h q hq => by obtain rfl := Option.some.inj hq; exact h, fun h => h p rfl⟩

/-- An id with a version is written as its name and version. -/
theorem display_modelIdWithVersion (chrono : Chrono Date) (s : List Char) :
    (⟨(parseModelAndVersion chrono s '-').1,
        (parseModelAndVersion chrono s '-').2.getD .implicitLatest⟩ :
      ModelIdWithVersion Date).display chrono =
      displayParsed chrono (parseModelAndVersion chrono s '-') := by
  rw [parseModelAndVersion_eq]
  cases hsplit : versionSplit chrono s with
  | none => rfl
  | some p =>
    obtain ⟨-, hsome⟩ := splitsOff_of_versionSplit hsplit
    obtain ⟨version, hversion⟩ := Option.isSome_iff_exists.mp hsome
    have hne := version_ne_implicitLatest hversion
    show (⟨p.1, (p.2.version chrono).getD .implicitLatest⟩ : ModelIdWithVersion Date).display
      chrono = displayParsed chrono (p.1, p.2.version chrono)
    rw [hversion]
    cases version with
    | implicitLatest => exact absurd rfl hne
    | latest => rfl
    | preview => rfl
    | dateVersionedPreview date format => rfl
    | date date format => rfl

/-! ### The formats -/

/-- An id of Bedrock is written as its name and version, between the provider and the
internal version. -/
theorem display_bedrockModelId (chrono : Chrono Date) (provider internal : List Char)
    (parsed : List Char × Option (Version Date)) :
    (⟨provider, parsed.1, parsed.2, internal⟩ : BedrockModelId Date).display chrono =
      provider ++ '.' :: (displayParsed chrono parsed ++ '-' :: internal) := by
  obtain ⟨model, version⟩ := parsed
  cases version <;> simp [BedrockModelId.display, displayParsed]

theorem written_modelIdWithVersion {chrono : Chrono Date} {s : List Char}
    {id : ModelIdWithVersion Date} (h : ModelIdWithVersion.fromStr chrono s = .ok id) :
    id.display chrono = s ↔ WritesVersion chrono s := by
  obtain rfl := ModelIdWithVersion.eq_of_fromStr h
  rw [display_modelIdWithVersion]
  exact displayParsed_iff chrono s

theorem written_bedrock {chrono : Chrono Date} {s : List Char} {id : BedrockModelId Date}
    (h : BedrockModelId.fromStr chrono s = .ok id) :
    id.display chrono = s ↔ ∀ part ∈ bedrockModelPart s, WritesVersion chrono part := by
  obtain ⟨provider, rest, modelPart, after, hprovider, hversion, rfl⟩ :=
    BedrockModelId.exists_of_fromStr h
  have hs : s = provider ++ '.' :: (modelPart ++ '-' :: 'v' :: after) := by
    rw [Text.eq_of_splitFirst hprovider, Text.eq_of_splitLast hversion]
    rfl
  have hpart : bedrockModelPart s = some modelPart := by
    unfold bedrockModelPart
    rw [hprovider, Option.bind_some, hversion, Option.map_some]
  rw [display_bedrockModelId, hpart]
  -- only what stands between the dot and the internal version can differ
  calc provider ++ '.' :: (displayParsed chrono (parseModelAndVersion chrono modelPart '-') ++
        '-' :: 'v' :: after) = s
      ↔ displayParsed chrono (parseModelAndVersion chrono modelPart '-') = modelPart := by
        rw [hs, List.append_cancel_left_eq, List.cons.injEq, and_iff_right rfl,
          List.append_cancel_right_eq]
    _ ↔ WritesVersion chrono modelPart := displayParsed_iff chrono modelPart
    _ ↔ _ := by simp

theorem written_ollama (s : List Char) :
    (OllamaModelId.fromStr s).display = s ↔ ∀ model, Text.splitFirst ':' s ≠ some (model, []) := by
  unfold OllamaModelId.fromStr
  cases hsplit : Text.splitFirst ':' s with
  | none => exact iff_of_true rfl (fun _ h => by cases h)
  | some p =>
    obtain ⟨model, tag⟩ := p
    have hs : s = model ++ ':' :: tag := Text.eq_of_splitFirst hsplit
    dsimp only
    by_cases htag : tag = []
    · -- the colon is dropped with the tag
      subst htag
      rw [if_pos rfl]
      refine iff_of_false (fun h => ?_) (fun h => h model rfl)
      have hlength : model.length = s.length := congrArg List.length h
      rw [hs, List.length_append, List.length_singleton] at hlength
      omega
    · rw [if_neg htag]
      refine iff_of_true hs.symm (fun model' h => htag ?_)
      exact congrArg Prod.snd (Option.some.inj h)

/-- **When a model id is written as it was read.** A text that is accepted comes back from
the printer exactly when its version text is written back, or, for Ollama, unless it ends
in the colon of an empty tag. -/
theorem written_iff (chrono : Chrono Date) (requestStyle : InferenceProvider) (s : List Char)
    (m : ModelId Date) (h : fromStrAndProvider chrono requestStyle s = .ok m) :
    m.display chrono = s ↔ WrittenAsRead chrono requestStyle s := by
  obtain ⟨rfl, id, hid, rfl⟩ | ⟨rfl, rfl⟩ | ⟨hbedrock, hollama, id, hid, rfl⟩ :=
    fromStrAndProvider_cases h
  · exact written_bedrock hid
  · exact written_ollama s
  · unfold WrittenAsRead
    split
    · exact absurd rfl hollama
    · exact absurd rfl hbedrock
    · exact written_modelIdWithVersion hid

/-! ### A calendar -/

/-- `char::is_whitespace`. -/
def isWhite (c : Char) : Bool :=
  (9 ≤ c.toNat && c.toNat ≤ 13) || c.toNat == 0x20 || c.toNat == 0x85 || c.toNat == 0xA0 ||
    c.toNat == 0x1680 || (0x2000 ≤ c.toNat && c.toNat ≤ 0x200A) || c.toNat == 0x2028 ||
    c.toNat == 0x2029 || c.toNat == 0x202F || c.toNat == 0x205F || c.toNat == 0x3000

/-- A day, in years of any sign. -/
structure Day where
  year : ℤ
  month : ℕ
  day : ℕ
  deriving DecidableEq, Repr

namespace Day

def daysIn (year : ℤ) : ℕ → ℕ
  | 2 => if year % 4 = 0 ∧ (year % 100 ≠ 0 ∨ year % 400 = 0) then 29 else 28
  | 4 | 6 | 9 | 11 => 30
  | _ => 31

/-- The days there are, from `NaiveDate::MIN` to `NaiveDate::MAX`. -/
def Exists (d : Day) : Prop :=
  (-262143 ≤ d.year ∧ d.year ≤ 262142) ∧ (1 ≤ d.month ∧ d.month ≤ 12) ∧
    1 ≤ d.day ∧ d.day ≤ daysIn d.year d.month

instance : DecidablePred Exists := fun _ => inferInstanceAs (Decidable (_ ∧ _))

/-- A number of one digit to as many as are permitted, and what follows it. -/
def readNumber (most : ℕ) (s : List Char) : Option (ℕ × List Char) :=
  let digits := (s.take most).takeWhile Char.isDigit
  if digits = [] then none
  else some (digits.foldl (fun n c => 10 * n + (c.toNat - '0'.toNat)) 0, s.drop digits.length)

/-- The separator between two numbers. -/
def skip : List Char → List Char → Option (List Char)
  | [], s => some s
  | c :: cs, d :: s => if c = d then skip cs s else none
  | _ :: _, [] => none

/-- `%Y`: a number of up to four digits, or of any number of digits behind a sign. -/
def readYear (s : List Char) : Option (ℤ × List Char) :=
  match s.dropWhile isWhite with
  -- behind a sign the width of four digits is not respected
  | '-' :: s => (readNumber s.length s).map fun p => (-(p.1 : ℤ), p.2)
  | '+' :: s => (readNumber s.length s).map fun p => ((p.1 : ℤ), p.2)
  | s => (readNumber 4 s).map fun p => ((p.1 : ℤ), p.2)

/-- `%m` and `%d`. -/
def readTwo (s : List Char) : Option (ℕ × List Char) := readNumber 2 (s.dropWhile isWhite)

/-- A year, a month and a day, with a separator or without. -/
def read (separator s : List Char) : Option Day := do
  let (year, s) ← readYear s
  let (month, s) ← readTwo (← skip separator s)
  let (day, s) ← readTwo (← skip separator s)
  if s = [] ∧ (⟨year, month, day⟩ : Day).Exists then some ⟨year, month, day⟩ else none

/-- A number, padded with zeros. -/
def padded (width n : ℕ) : List Char :=
  List.replicate (width - (Nat.toDigits 10 n).length) '0' ++ Nat.toDigits 10 n

/-- A year is written with a sign if it does not have four digits. -/
def writeYear (year : ℤ) : List Char :=
  if year < 0 then '-' :: padded 4 year.natAbs
  else if 9999 < year then '+' :: padded 4 year.natAbs
  else padded 4 year.natAbs

def write (d : Day) : DateFormat → List Char
  | .yearMonthDay => writeYear d.year ++ '-' :: (padded 2 d.month ++ '-' :: padded 2 d.day)
  | .compact => writeYear d.year ++ (padded 2 d.month ++ padded 2 d.day)
  | .monthDay => padded 2 d.month ++ '-' :: padded 2 d.day

end Day

/-- The calendar, in the year 2025. -/
def gregorian : Chrono Day where
  parseFromStr input format :=
    if format = DateFormat.yearMonthDay.asStr then Day.read ['-'] input
    else if format = DateFormat.compact.asStr then Day.read [] input
    else none
  format date format :=
    if format = DateFormat.yearMonthDay.asStr then date.write .yearMonthDay
    else if format = DateFormat.compact.asStr then date.write .compact
    else date.write .monthDay
  year := 2025

/-- A dated model of OpenAI comes back as it was written. -/
theorem written_iff_dated : ∃ m, fromStrAndProvider gregorian .openAI "gpt-4o-2024-08-06".toList =
      .ok m ∧ m.display gregorian = "gpt-4o-2024-08-06".toList :=
  ⟨.modelIdWithVersion .openAI ⟨"gpt-4o".toList, .date ⟨2024, 8, 6⟩ .yearMonthDay⟩,
    by rfl, (written_iff gregorian .openAI "gpt-4o-2024-08-06".toList _ (by rfl)).mpr (by
      rintro p hp
      obtain rfl : p = ("gpt-4o".toList, .date "2024-08-06".toList) :=
        (Option.some.inj ((by rfl : versionSplit gregorian "gpt-4o-2024-08-06".toList =
          some ("gpt-4o".toList, .date "2024-08-06".toList)).symm.trans hp)).symm
      exact ⟨⟨2024, 8, 6⟩, .yearMonthDay, by rfl, by rfl⟩)⟩

/-- **A number that looks like a day does not.** The last two numbers of a model's name are
read as the fifth of March, and written with zeros. -/
theorem written_fails : ¬ ∀ (requestStyle : InferenceProvider) (s : List Char)
    (m : ModelId Day), fromStrAndProvider gregorian requestStyle s = .ok m →
      m.display gregorian = s := by
  intro h
  have hname := h .anthropic "claude-3-5".toList
    (.modelIdWithVersion .anthropic ⟨"claude".toList, .date ⟨2025, 3, 5⟩ .monthDay⟩) (by rfl)
  exact absurd hname (by decide +kernel)

end AiGateway
