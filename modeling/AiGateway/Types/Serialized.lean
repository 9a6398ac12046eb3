import AiGateway.Framework.Json
import AiGateway.Types.WrittenDates

/-!
# Model ids in serialized form

`Serialize` and `Deserialize` of `types/model_id.rs`. A model id is serialized as it is written,
without its provider, and deserialized from a provider and a model with a slash between them.

A name may have a slash of its own, so that what was serialized can be read: as a model of the
provider that the front of the name happens to be. It would be the same id only if what is left
of the name were written with something in front of it. A version that is written may be longer
than the text it was read from, but it does not have that text behind a dash.

* `not_isSuffix_display`: the text of a version is not the end of a longer one;
* `eq_nil_of_display_eq_append`: an id is not written as its text with something in front;
* `deserialize_serialize_ne`: no model id comes back.
-/

namespace AiGateway

open Serde

variable {Date : Type} {chrono : Chrono Date} {day : Date → Day}

/-! ### The code -/

/-- The errors of `Deserialize`. -/
inductive DeserializeError
  /-- The value is not a string. -/
  | invalidType
  | custom (e : MapperError)

namespace ModelId

/-- `Serialize`. -/
def serialize (chrono : Chrono Date) (m : ModelId Date) : Json :=
  .str (String.ofList (m.display chrono))

/-- `Deserialize`. -/
def deserialize (chrono : Chrono Date) : Json → Except DeserializeError (ModelId Date)
  | .str s => (fromStr chrono s.toList).mapError .custom
  | _ => .error .invalidType

end ModelId

/-! ### Versions -/

/-- The end of a text is an end of its last part, if it is no longer. -/
theorem isSuffix_of_append {α : Type} {a b t : List α} (h : t <:+ a ++ b)
    (hlength : t.length ≤ b.length) : t <:+ b :=
  List.suffix_of_suffix_length_le h (List.suffix_append a b) hlength

theorem length_of_eqIgnoreAsciiCase {a b : List Char} (h : Text.eqIgnoreAsciiCase a b = true) :
    a.length = b.length := by
  have hmap := congrArg List.length (beq_iff_eq.mp h)
  rwa [List.length_map, List.length_map] at hmap

/-- The text of a date does not stand behind a dash of the date as it is written. -/
theorem not_isSuffix_format (hdoc : chrono.Documented day) {text : List Char} {date : Date}
    {format : DateFormat} (h : parseDate chrono text = some (date, format)) :
    ¬ ('-' :: text) <:+ chrono.format date format.asStr := by
  rintro ⟨front, hfront⟩
  have hdate := dateText_of_parseDate hdoc h
  rw [hdoc.format_eq] at hfront
  -- the ends of what is written are written back
  have hwritten : (day date).write format = text :=
    hdate.write_of_isEnd hdate.exists (Or.inr ⟨front, hfront.symm⟩)
  have hlength := congrArg List.length hfront
  rw [hwritten, List.length_append, List.length_cons] at hlength
  omega

/-- **The text of a version** does not stand behind a dash of the version as it is written. -/
theorem not_isSuffix_display (hdoc : chrono.Documented day) {v : VersionText}
    {version : Version Date} (h : v.version chrono = some version) :
    ¬ ('-' :: v.text) <:+ version.display chrono := by
  -- a keyword is written in as many letters as it was read in
  have hsame : v.text.length = (version.display chrono).length →
      ¬ ('-' :: v.text) <:+ version.display chrono := by
    intro hlength hsuffix
    have hle := hsuffix.length_le
    rw [List.length_cons, hlength] at hle
    exact Nat.not_succ_le_self _ hle
  cases v with
  | preview =>
    obtain rfl := Option.some.inj h
    exact hsame rfl
  | latest =>
    obtain rfl := Option.some.inj h
    exact hsame rfl
  | keyword text =>
    obtain ⟨hcase, rfl⟩ | ⟨hcase, rfl⟩ := version_keyword_cases h
    · exact hsame (length_of_eqIgnoreAsciiCase hcase)
    · exact hsame (length_of_eqIgnoreAsciiCase hcase)
  | date text =>
    obtain ⟨⟨date, format⟩, hdate, rfl⟩ := Option.map_eq_some_iff.mp h
    exact not_isSuffix_format hdoc hdate
  | datedPreview text =>
    obtain ⟨⟨date, format⟩, hdate, rfl⟩ := Option.map_eq_some_iff.mp h
    intro hsuffix
    -- what stands in front of the day is the same on both sides
    have hlength : ("preview-".toList ++ text).length <
        ("preview-".toList ++ chrono.format date format.asStr).length := hsuffix.length_le
    rw [List.length_append, List.length_append] at hlength
    have hday : ('-' :: text) <:+ "preview-".toList ++ chrono.format date format.asStr :=
      List.IsSuffix.trans ⟨"-preview".toList, rfl⟩ hsuffix
    refine not_isSuffix_format hdoc hdate (isSuffix_of_append hday ?_)
    rw [List.length_cons]
    omega

/-- A name with its version is not written as its text with something in front. -/
theorem eq_nil_of_displayParsed (hdoc : chrono.Documented day) {s a x : List Char}
    (h : a ++ displayParsed chrono (parseModelAndVersion chrono s '-') = x ++ (a ++ s)) :
    x = [] := by
  rw [parseModelAndVersion_eq] at h
  cases hsplit : versionSplit chrono s with
  | none =>
    rw [hsplit] at h
    have hlength : (a ++ s).length = (x ++ (a ++ s)).length := congrArg List.length h
    rw [@List.length_append _ x] at hlength
    exact List.eq_nil_of_length_eq_zero (by omega)
  | some p =>
    rw [hsplit] at h
    obtain ⟨hs, hsome⟩ := splitsOff_of_versionSplit hsplit
    obtain ⟨version, hversion⟩ := Option.isSome_iff_exists.mp hsome
    have hdisplay : displayParsed chrono (readSplit chrono p) =
        p.1 ++ '-' :: version.display chrono := by
      unfold displayParsed readSplit
      rw [hversion]
    change a ++ displayParsed chrono (readSplit chrono p) = _ at h
    rw [hdisplay, hs] at h
    by_contra hne
    have hpos : 0 < x.length := List.length_pos_of_ne_nil hne
    have hlength := congrArg List.length h
    simp only [List.length_append, List.length_cons] at hlength
    -- the text of the version ends what is written of it, which is longer
    have hsuffix : ('-' :: p.2.text) <:+ (a ++ p.1 ++ ['-']) ++ version.display chrono := by
      refine ⟨x ++ (a ++ p.1), ?_⟩
      simp only [List.append_assoc, List.singleton_append]
      exact h.symm
    refine not_isSuffix_display hdoc hversion (isSuffix_of_append hsuffix ?_)
    rw [List.length_cons]
    omega

/-! ### Model ids -/

namespace ModelId

/-- A model of Ollama is not written with more than it was read from. -/
theorem length_display_ollama_le (s : List Char) :
    (OllamaModelId.fromStr s).display.length ≤ s.length := by
  unfold OllamaModelId.fromStr
  cases hsplit : Text.splitFirst ':' s with
  | none => exact le_refl _
  | some p =>
    obtain ⟨model, tag⟩ := p
    have hs : s = model ++ ':' :: tag := Text.eq_of_splitFirst hsplit
    dsimp only
    split
    · show model.length ≤ s.length
      rw [hs, List.length_append]
      exact Nat.le_add_right _ _
    · exact le_of_eq (congrArg List.length hs.symm)

/-- **An id is not written as its text with something in front.** -/
theorem eq_nil_of_display_eq_append (hdoc : chrono.Documented day)
    {requestStyle : InferenceProvider} {s x : List Char} {m : ModelId Date}
    (h : fromStrAndProvider chrono requestStyle s = .ok m) (heq : m.display chrono = x ++ s) :
    x = [] := by
  obtain ⟨-, id, hid, rfl⟩ | ⟨-, rfl⟩ | ⟨-, -, id, hid, rfl⟩ := fromStrAndProvider_cases h
  · obtain ⟨provider, rest, modelPart, after, hprovider, hversion, rfl⟩ :=
      BedrockModelId.exists_of_fromStr hid
    have hs : s = provider ++ '.' :: (modelPart ++ '-' :: 'v' :: after) := by
      rw [Text.eq_of_splitFirst hprovider, Text.eq_of_splitLast hversion]
      rfl
    change BedrockModelId.display chrono _ = _ at heq
    rw [display_bedrockModelId, hs] at heq
    -- the internal version is the same on both sides
    refine @eq_nil_of_displayParsed _ _ _ hdoc modelPart (provider ++ ['.']) x ?_
    refine @List.append_cancel_right _ _ ('-' :: 'v' :: after) _ ?_
    simpa using heq
  · have hlength := length_display_ollama_le s
    have hsame := congrArg List.length heq
    change (OllamaModelId.fromStr s).display.length = _ at hsame
    rw [hsame, List.length_append] at hlength
    exact List.eq_nil_of_length_eq_zero (by omega)
  · obtain rfl := ModelIdWithVersion.eq_of_fromStr hid
    change ModelIdWithVersion.display chrono _ = _ at heq
    rw [display_modelIdWithVersion] at heq
    exact @eq_nil_of_displayParsed _ _ _ hdoc s [] x heq

/-- **The serialized form of a model id is read as another one**, if it is read at all. -/
theorem fromStr_display_ne (hdoc : chrono.Documented day) (m : ModelId Date) :
    fromStr chrono (m.display chrono) ≠ .ok m := by
  intro h
  unfold fromStr at h
  split at h
  · next provider model hsplit =>
    split at h
    · cases h
    · -- the provider and the slash would be in front
      have hdisplay : m.display chrono = (provider ++ ['/']) ++ model := by
        rw [Text.eq_of_splitFirst hsplit, List.append_assoc]
        rfl
      exact absurd (eq_nil_of_display_eq_append hdoc h hdisplay) (by simp)
  · cases h

/-- What is written does not depend on the year it is. -/
theorem display_year (chrono : Chrono Date) (year : ℕ) (m : ModelId Date) :
    m.display { chrono with year := year } = m.display chrono := by
  cases m with
  | modelIdWithVersion provider id =>
    obtain ⟨model, version⟩ := id
    cases version <;> rfl
  | bedrock id =>
    obtain ⟨provider, model, version, internal⟩ := id
    cases version with
    | none => rfl
    | some version => cases version <;> rfl
  | ollama id => rfl
  | unknown id => rfl

/-- A string is deserialized as it is parsed. -/
theorem deserialize_serialize (chrono chrono' : Chrono Date) (m : ModelId Date) :
    deserialize chrono' (serialize chrono m) =
      (fromStr chrono' (m.display chrono)).mapError DeserializeError.custom := by
  show (fromStr chrono' (String.ofList (m.display chrono)).toList).mapError
    DeserializeError.custom = _
  rw [String.toList_ofList]

/-- **No model id comes back** when its serialized form is deserialized, in the same year or in
another one. -/
theorem deserialize_serialize_ne (hdoc : chrono.Documented day) (year : ℕ) (m : ModelId Date) :
    deserialize { chrono with year := year } (serialize chrono m) ≠ .ok m := by
  have hdoc' : Chrono.Documented { chrono with year := year } day :=
    ⟨hdoc.parse_full, hdoc.parse_compact, hdoc.format_eq⟩
  have hne := fromStr_display_ne hdoc' m
  rw [display_year] at hne
  rw [deserialize_serialize]
  intro h
  cases hread : fromStr { chrono with year := year } (m.display chrono) with
  | error e =>
    rw [hread] at h
    cases h
  | ok m' =>
    rw [hread] at h
    obtain rfl : m' = m := Except.ok.inj h
    exact hne hread

/-- A dated model, read in one year and in the next. -/
theorem deserialize_serialize_ne_dated : ∃ m,
    fromStr gregorian "openai/gpt-4-06-13".toList = .ok m ∧
      deserialize { gregorian with year := 2026 } (serialize gregorian m) ≠ .ok m :=
  ⟨_, rfl, deserialize_serialize_ne gregorian_documented 2026 _⟩

/-- **Without its provider a model id is not read.** -/
theorem deserialize_serialize_fails : ¬ ∀ (s : List Char) (m : ModelId Day),
    fromStr gregorian s = .ok m → deserialize gregorian (serialize gregorian m) = .ok m := by
  intro h
  have hread : fromStr gregorian "openai/gpt-4o".toList =
      .ok (.modelIdWithVersion .openAI ⟨"gpt-4o".toList, .implicitLatest⟩) := rfl
  have hback := h _ _ hread
  rw [deserialize_serialize] at hback
  cases hback

end ModelId

end AiGateway
