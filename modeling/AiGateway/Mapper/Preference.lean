import AiGateway.Mapper.Model
import Mathlib.Data.List.Dedup

/-!
# The order of the alternatives

A mapping lists the models that may stand in for one, the preferred one first. `ModelMappingConfig`
of `config/model_mapping.rs` reads each list into a hash set, and `map_model` takes the first
member it meets that the target offers. The order in which a set is iterated is a matter of the
process.

`follows_iff`: every process follows the list exactly if those of its models that the target offers
are all one to it.
-/

namespace AiGateway

open ModelId

variable {Date : Type}

/-! ### Sets and processes -/

/-- **The order of hash sets**: each set has one of its own, of its members. -/
structure SetOrder where
  iterate : ModelName → List ModelName → List ModelName
  perm : ∀ name models, (iterate name models).Perm models.dedup

namespace SetOrder

/-- A mapping as it is iterated. -/
def apply (order : SetOrder) (mapping : ModelMapping) : ModelMapping := fun name =>
  (mapping name).map (order.iterate name)

/-- The order of the list. -/
def listed : SetOrder where
  iterate _ models := models.dedup
  perm _ _ := List.Perm.refl _

/-- An order in which one model comes before the others. -/
def leading (m : ModelName) : SetOrder where
  iterate _ models := if m ∈ models then m :: models.dedup.erase m else models.dedup
  perm _ models := by
    by_cases h : m ∈ models
    · rw [if_pos h]
      exact (List.perm_cons_erase (List.mem_dedup.2 h)).symm
    · rw [if_neg h]

theorem mem_iterate (order : SetOrder) {name m : ModelName} {models : List ModelName} :
    m ∈ order.iterate name models ↔ m ∈ models := by
  rw [(order.perm name models).mem_iff, List.mem_dedup]

end SetOrder

/-- A process, with the sets of both mappings. -/
structure Process where
  router : SetOrder
  default : SetOrder

/-- The mapper of a process that was started with a configuration, here given as it lists its
models. -/
def ModelMapper.started (listed : ModelMapper) (process : Process) : ModelMapper where
  providersConfig := listed.providersConfig
  routerMapping := listed.routerMapping.map process.router.apply
  defaultMapping := process.default.apply listed.defaultMapping

/-! ### The preference -/

/-- The alternatives of a mapping that the target offers, as they are listed. -/
def offeredIn (offered : List ModelName) (mapping : ModelMapping) (name : ModelName) :
    List ModelName :=
  ((mapping name).getD []).filter fun m => decide (m ∈ offered)

/-- The alternatives that are looked at: those of the router, or the default ones. -/
def alternatives (listed : ModelMapper) (offered : List ModelName) (name : ModelName) :
    List ModelName :=
  match listed.routerMapping.map fun mapping => offeredIn offered mapping name with
  | some (m :: models) => m :: models
  | _ => offeredIn offered listed.defaultMapping name

/-- **The configured preference**: the first alternative, for the target. -/
def preferred (chrono : Chrono Date) (listed : ModelMapper) (offered : List ModelName)
    (name : ModelName) (target : InferenceProvider) : Except MapperError (ModelId Date) :=
  match alternatives listed offered name with
  | m :: _ => fromStrAndProvider chrono target m
  | [] => .error (.noModelMapping target name)

/-! ### What a process finds -/

section FirstOffered

variable {offered : List ModelName} {mapping : ModelMapping} {name m : ModelName}

theorem mem_offeredIn : m ∈ offeredIn offered mapping name ↔
    (∃ models, mapping name = some models ∧ m ∈ models) ∧ m ∈ offered := by
  rw [offeredIn, List.mem_filter, decide_eq_true_iff]
  refine and_congr_left fun _ => ?_
  cases mapping name with
  | none => exact iff_of_false List.not_mem_nil (by rintro ⟨_, ⟨⟩, _⟩)
  | some models =>
    refine ⟨fun h => ⟨models, rfl, h⟩, ?_⟩
    rintro ⟨_, h, hm⟩
    cases h
    exact hm

/-- What comes first in a process is an alternative. -/
theorem mem_of_firstOffered_apply {order : SetOrder}
    (h : firstOffered offered (order.apply mapping) name = some m) :
    m ∈ offeredIn offered mapping name := by
  obtain ⟨iterated, hiterated, hfind⟩ := Option.bind_eq_some_iff.1 h
  obtain ⟨models, hmodels, rfl⟩ := Option.map_eq_some_iff.1 hiterated
  rw [mem_offeredIn]
  refine ⟨⟨models, hmodels, ?_⟩, mem_of_firstOffered h⟩
  exact order.mem_iterate.1 (List.mem_of_find?_eq_some hfind)

/-- Nothing comes first if there is no alternative. -/
theorem firstOffered_apply_eq_none_iff (order : SetOrder) :
    firstOffered offered (order.apply mapping) name = none ↔
      offeredIn offered mapping name = [] := by
  rw [List.eq_nil_iff_forall_not_mem]
  unfold firstOffered SetOrder.apply
  cases hmodels : mapping name with
  | none =>
    refine iff_of_true rfl fun m hm => ?_
    obtain ⟨⟨models, h, -⟩, -⟩ := mem_offeredIn.1 hm
    rw [hmodels] at h
    cases h
  | some models =>
    rw [Option.map_some, Option.bind_some, List.find?_eq_none]
    refine forall_congr' fun m => ?_
    rw [order.mem_iterate, mem_offeredIn, decide_eq_true_iff, not_and, hmodels]
    exact ⟨fun h ⟨_, heq, hm⟩ => h (Option.some.inj heq ▸ hm), fun h hm => h ⟨models, rfl, hm⟩⟩

/-- Any alternative may come first. -/
theorem firstOffered_leading (h : m ∈ offeredIn offered mapping name) :
    firstOffered offered ((SetOrder.leading m).apply mapping) name = some m := by
  obtain ⟨⟨models, hmodels, hm⟩, hoffered⟩ := mem_offeredIn.1 h
  unfold firstOffered SetOrder.apply SetOrder.leading
  rw [hmodels, Option.map_some, Option.bind_some]
  dsimp only
  rw [if_pos hm]
  exact List.find?_cons_of_pos (p := fun m => decide (m ∈ offered)) (decide_eq_true hoffered)

end FirstOffered

section Found

variable {listed : ModelMapper} {offered : List ModelName} {name : ModelName}

/-- The model that a process finds for a name. -/
def found (listed : ModelMapper) (offered : List ModelName) (name : ModelName)
    (process : Process) : Option ModelName :=
  match (listed.started process).routerMapping.bind fun mapping =>
      firstOffered offered mapping name with
  | some m => some m
  | none => firstOffered offered (listed.started process).defaultMapping name

/-- A model that is not offered directly becomes what the process finds. -/
theorem mapModel_started (chrono : Chrono Date) {source : ModelId Date}
    {target : InferenceProvider} (hoffered : listed.providersConfig target = some offered)
    (hdirect : ModelName.fromModel source ∉ offered) (process : Process) :
    mapModel chrono (listed.started process) source target =
      match found listed offered (ModelName.fromModel source) process with
      | some m => fromStrAndProvider chrono target m
      | none => .error (.noModelMapping target (ModelName.fromModel source)) := by
  have hproviders : (listed.started process).providersConfig target = some offered := hoffered
  unfold mapModel found
  rw [hproviders]
  dsimp only
  rw [if_neg hdirect]
  cases (listed.started process).routerMapping.bind fun mapping =>
      firstOffered offered mapping (ModelName.fromModel source) with
  | some m => rfl
  | none =>
    cases firstOffered offered (listed.started process).defaultMapping
      (ModelName.fromModel source) with
    | some m => rfl
    | none => rfl

/-- What a process finds is an alternative, and it finds one if there is one. -/
theorem found_spec (listed : ModelMapper) (offered : List ModelName) (name : ModelName)
    (process : Process) :
    (∀ m, found listed offered name process = some m → m ∈ alternatives listed offered name) ∧
      (found listed offered name process = none → alternatives listed offered name = []) := by
  unfold found alternatives
  cases hrouter : listed.routerMapping with
  | none =>
    have hnone : (listed.started process).routerMapping = none := by
      rw [ModelMapper.started, hrouter]
      rfl
    rw [hnone]
    exact ⟨fun m h => mem_of_firstOffered_apply h, (firstOffered_apply_eq_none_iff _).1⟩
  | some mapping =>
    have hsome : (listed.started process).routerMapping = some (process.router.apply mapping) := by
      rw [ModelMapper.started, hrouter]
      rfl
    rw [hsome, Option.bind_some, Option.map_some]
    -- the mapping of the router goes before the default one, in whatever order it is taken
    cases hfirst : firstOffered offered (process.router.apply mapping) name with
    | some m =>
      have hmem : m ∈ offeredIn offered mapping name := mem_of_firstOffered_apply hfirst
      cases hown : offeredIn offered mapping name with
      | nil =>
        rw [hown] at hmem
        cases hmem
      | cons first models =>
        rw [hown] at hmem
        refine ⟨?_, by rintro ⟨⟩⟩
        rintro m' ⟨⟩
        exact hmem
    | none =>
      rw [(firstOffered_apply_eq_none_iff _).1 hfirst]
      exact ⟨fun m h => mem_of_firstOffered_apply h, (firstOffered_apply_eq_none_iff _).1⟩

/-- Every alternative is found by some process. -/
theorem exists_found {m : ModelName} (h : m ∈ alternatives listed offered name) :
    ∃ process, found listed offered name process = some m := by
  -- the process that reads `m` first, in both mappings
  refine ⟨⟨.leading m, .leading m⟩, ?_⟩
  unfold alternatives at h
  unfold found
  cases hrouter : listed.routerMapping with
  | none =>
    rw [hrouter] at h
    have hnone : (listed.started ⟨.leading m, .leading m⟩).routerMapping = none := by
      rw [ModelMapper.started, hrouter]
      rfl
    rw [hnone]
    exact firstOffered_leading h
  | some mapping =>
    have hsome : (listed.started ⟨.leading m, .leading m⟩).routerMapping =
        some ((SetOrder.leading m).apply mapping) := by
      rw [ModelMapper.started, hrouter]
      rfl
    rw [hsome, Option.bind_some]
    rw [hrouter, Option.map_some] at h
    cases hown : offeredIn offered mapping name with
    | nil =>
      rw [hown] at h
      rw [(firstOffered_apply_eq_none_iff _).2 hown]
      exact firstOffered_leading h
    | cons first models =>
      rw [hown] at h
      have hmem : m ∈ offeredIn offered mapping name := hown ▸ h
      rw [firstOffered_leading hmem]

end Found

/-! ### Following the list -/

/-- **When the list is followed.** Every process maps a model to the first alternative of the list,
and any two map it alike, exactly if the target takes all the alternatives it offers for
the same model. -/
theorem follows_iff (chrono : Chrono Date) (listed : ModelMapper) (source : ModelId Date)
    (target : InferenceProvider) (offered : List ModelName)
    (hoffered : listed.providersConfig target = some offered)
    (hdirect : ModelName.fromModel source ∉ offered) :
    ((∀ process, mapModel chrono (listed.started process) source target =
        preferred chrono listed offered (ModelName.fromModel source) target) ∧
      ∀ process process', mapModel chrono (listed.started process) source target =
        mapModel chrono (listed.started process') source target) ↔
      ∀ m ∈ alternatives listed offered (ModelName.fromModel source),
        ∀ m' ∈ alternatives listed offered (ModelName.fromModel source),
          fromStrAndProvider chrono target m = fromStrAndProvider chrono target m' := by
  constructor
  · rintro ⟨-, hsame⟩ m hm m' hm'
    -- every alternative is the one that some process finds
    obtain ⟨process, hfound⟩ := exists_found hm
    obtain ⟨process', hfound'⟩ := exists_found hm'
    have h := hsame process process'
    rwa [mapModel_started chrono hoffered hdirect, mapModel_started chrono hoffered hdirect,
      hfound, hfound'] at h
  · intro hone
    suffices hall : ∀ process, mapModel chrono (listed.started process) source target =
        preferred chrono listed offered (ModelName.fromModel source) target from
      ⟨hall, fun process process' => (hall process).trans (hall process').symm⟩
    intro process
    -- a process finds an alternative, if there is one, and they all come to the same model
    obtain ⟨hsome, hnone⟩ := found_spec listed offered (ModelName.fromModel source) process
    rw [mapModel_started chrono hoffered hdirect, preferred]
    cases hfound : found listed offered (ModelName.fromModel source) process with
    | none => rw [hnone hfound]
    | some m =>
      have hm := hsome m hfound
      cases halternatives : alternatives listed offered (ModelName.fromModel source) with
      | nil =>
        rw [halternatives] at hm
        cases hm
      | cons first models =>
        exact hone m hm first (halternatives ▸ List.mem_cons_self)

/-- A model of OpenAI. -/
def openAIMini : ModelId (List Char) :=
  .modelIdWithVersion .openAI ⟨"gpt-4o-mini".toList, .implicitLatest⟩

theorem fromModel_openAIMini : ModelName.fromModel openAIMini = "gpt-4o-mini".toList := rfl

/-- Every process maps it to the one model of Anthropic that is listed for it. -/
theorem follows_iff_mini :
    alternatives anthropicMapper ["claude-3-7-sonnet".toList, "claude-3-5-haiku".toList]
        "gpt-4o-mini".toList = ["claude-3-5-haiku".toList] ∧
      ∀ process, mapModel compactDates (anthropicMapper.started process) openAIMini .anthropic =
        preferred compactDates anthropicMapper
          ["claude-3-7-sonnet".toList, "claude-3-5-haiku".toList] "gpt-4o-mini".toList
          .anthropic := by
  have hone : alternatives anthropicMapper
      ["claude-3-7-sonnet".toList, "claude-3-5-haiku".toList] "gpt-4o-mini".toList =
        ["claude-3-5-haiku".toList] := by decide
  refine ⟨hone, ((follows_iff compactDates anthropicMapper openAIMini .anthropic
    ["claude-3-7-sonnet".toList, "claude-3-5-haiku".toList] (by rfl) (by decide)).2 ?_).1⟩
  rw [fromModel_openAIMini, hone]
  intro m hm m' hm'
  rw [List.mem_singleton.1 hm, List.mem_singleton.1 hm']

/-- Ollama with two of its models, and some of what the embedded mapping lists for the model. -/
def ollamaMapper : ModelMapper where
  providersConfig provider :=
    if provider = .ollama then some ["llama3.2".toList, "llama3".toList] else none
  routerMapping := none
  defaultMapping name :=
    if name = "gpt-4o-mini".toList then
      some ["claude-3-5-haiku".toList, "gemini-2.0-flash".toList, "llama3.2".toList,
        "llama3".toList]
    else none

/-- **The list is not followed.** A process whose set happens to start with the last alternative
takes that one. -/
theorem follows_fails :
    ¬ ∀ (listed : ModelMapper) (source : ModelId (List Char)) (target : InferenceProvider)
        (offered : List ModelName), listed.providersConfig target = some offered →
        ModelName.fromModel source ∉ offered →
        (∀ process, mapModel compactDates (listed.started process) source target =
          preferred compactDates listed offered (ModelName.fromModel source) target) := by
  intro h
  have hpreferred := h ollamaMapper openAIMini .ollama ["llama3.2".toList, "llama3".toList]
    (by rfl) (by decide) ⟨.listed, .leading "llama3".toList⟩
  have hfound : found ollamaMapper ["llama3.2".toList, "llama3".toList] "gpt-4o-mini".toList
      ⟨.listed, .leading "llama3".toList⟩ = some "llama3".toList := by decide +kernel
  have hfirst : alternatives ollamaMapper ["llama3.2".toList, "llama3".toList]
      "gpt-4o-mini".toList = ["llama3.2".toList, "llama3".toList] := by decide +kernel
  rw [mapModel_started compactDates (by rfl) (by decide), preferred, fromModel_openAIMini, hfound,
    hfirst] at hpreferred
  have hmodel := congrArg OllamaModelId.model (ModelId.ollama.inj (Except.ok.inj hpreferred))
  exact absurd hmodel (by decide)

end AiGateway
