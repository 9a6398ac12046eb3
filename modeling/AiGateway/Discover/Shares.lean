import AiGateway.Discover.Key
import AiGateway.Framework.Shares

/-!
# Configured weights

The weights of a router sum to one, which is all that is checked of them. Discovery turns each
into a number of ten thousandths, and keeps its services under keys that these numbers are part of.
Is what the balancer gives each provider what the router is configured to give it?

* `Honoured`: there is a key for each target, with a weight where one is configured, and every
  provider has its share, up to a ten thousandth for each target;
* `tenThousandths`: the arithmetic of a weight, `raw_ofDecimal`;
* `honoured_iff`: no two targets of a provider may come to the same weight, as they share a key
  then, no weight may be too small, and negative weights must stay within `NegativesKept`, which
  they do if there are none, or if they come to no more than `Shares.slack`.
-/

namespace AiGateway

/-! ### The property -/

/-- The key of a target. -/
def WeightedKey.ofTarget (endpointType : EndpointType) (target : BalanceTarget) : WeightedKey :=
  ⟨target.provider, endpointType, Weight.ofDecimal id target.weight⟩

/-- What a provider is configured to have. -/
def configuredShare (targets : List BalanceTarget) (provider : InferenceProvider) : ℚ :=
  ((targets.filter fun target => target.provider = provider).map BalanceTarget.weight).sum

/-- What a provider has of the weights of the keys. -/
def keyShare (keys : List WeightedKey) (provider : InferenceProvider) : ℚ :=
  ((keys.filter fun key => key.provider = provider).map fun key => (key.weight.raw : ℚ)).sum /
    (keys.map fun key => (key.weight.raw : ℚ)).sum

/-- **Configured weights are honoured.** -/
structure Honoured (endpointType : EndpointType) (targets : List BalanceTarget)
    (keys : List WeightedKey) : Prop where
  one_each : keys.length = targets.length
  keyed : ∀ target ∈ targets, WeightedKey.ofTarget endpointType target ∈ keys
  positive : ∀ target ∈ targets,
    0 < (WeightedKey.ofTarget endpointType target).weight.raw ↔ 0 < target.weight
  shares : ∀ provider, |keyShare keys provider - configuredShare targets provider| ≤
    targets.length / 10000

/-! ### The arithmetic of a weight -/

/-- A weight in ten thousandths: nothing for a negative one, and no more than a `u32`. -/
def tenThousandths (w : ℚ) : ℕ := min ⌊max w 0 * 10000 + 1 / 2⌋.toNat u32Max

theorem raw_ofDecimal (w : ℚ) : (Weight.ofDecimal id w).raw = tenThousandths w := by
  unfold Weight.ofDecimal Weight.ofF64 tenThousandths
  rw [id]
  by_cases hneg : w < 0
  · rw [if_pos hneg, max_eq_right hneg.le]
    decide +kernel
  · rw [if_neg hneg, max_eq_left (not_lt.mp hneg)]
    have hnonneg : 0 ≤ w * (Weight.unit.raw : ℚ) := by
      have hw := not_lt.mp hneg
      positivity
    show min (Weight.roundHalfAway (id (w * (Weight.unit.raw : ℚ)))).toNat u32Max = _
    rw [id, Weight.roundHalfAway, if_pos hnonneg]
    norm_num [Weight.unit]

/-- Half a ten thousandth is rounded up. -/
theorem tenThousandths_pos_iff {w : ℚ} : 0 < tenThousandths w ↔ 1 / 20000 ≤ w := by
  have hfloor : 0 < tenThousandths w ↔ 1 ≤ ⌊max w 0 * 10000 + 1 / 2⌋ := by
    have hmax : 0 < u32Max := by decide
    unfold tenThousandths
    omega
  rw [hfloor, Int.le_floor, Int.cast_one]
  constructor
  · intro h
    rcases le_total w 0 with hneg | hpos
    · rw [max_eq_right hneg] at h
      norm_num at h
    · rw [max_eq_left hpos] at h
      linarith
  · intro h
    rw [max_eq_left (by linarith)]
    linarith

/-- **Rounding** a weight that is not much more than the whole. -/
theorem abs_tenThousandths_sub_le {w : ℚ} (hle : w ≤ 2) :
    |(tenThousandths w : ℚ) - 10000 * max w 0| ≤ 1 / 2 := by
  have hnonneg : 0 ≤ max w 0 := le_max_right _ _
  have hmax : max w 0 ≤ 2 := max_le hle (by norm_num)
  have hfloor : (0 : ℤ) ≤ ⌊max w 0 * 10000 + 1 / 2⌋ := Int.floor_nonneg.mpr (by positivity)
  have hlt : ⌊max w 0 * 10000 + 1 / 2⌋ < 20001 := Int.floor_lt.mpr (by push_cast; linarith)
  have heq : (tenThousandths w : ℤ) = ⌊max w 0 * 10000 + 1 / 2⌋ := by
    unfold tenThousandths u32Max
    rw [Nat.min_eq_left (by omega)]
    omega
  have hcast : (tenThousandths w : ℚ) = ⌊max w 0 * 10000 + 1 / 2⌋ := by
    rw [← heq, Int.cast_natCast]
  have hlower := Int.lt_floor_add_one (max w 0 * 10000 + 1 / 2)
  have hupper := Int.floor_le (max w 0 * 10000 + 1 / 2)
  rw [hcast, abs_le]
  constructor <;> linarith

/-! ### What is needed of the weights -/

/-- The targets of a provider come to different weights. -/
def Distinguished (targets : List BalanceTarget) : Prop :=
  ∀ a ∈ targets, ∀ b ∈ targets, a.provider = b.provider →
    tenThousandths a.weight = tenThousandths b.weight → a = b

/-- A weight is at least half a ten thousandth, if there is one. -/
def NoneLost (targets : List BalanceTarget) : Prop :=
  ∀ target ∈ targets, 0 < target.weight → 1 / 20000 ≤ target.weight

/-- What the negative weights of some targets come to. -/
def negativeWeight (targets : List BalanceTarget) : ℚ :=
  Shares.negativePart BalanceTarget.weight targets

/-- What rounding adds to the other weights of some targets, in ten thousandths. -/
def roundingError (targets : List BalanceTarget) : ℚ :=
  (targets.map fun target => (tenThousandths target.weight : ℚ) - 10000 * max target.weight 0).sum

/-- **A bound on the negative weights**, which come to nothing in the keys. Those of the provider
are about its share of them all: the difference is small next to the weights that are left, and so
is it with what rounding adds to either. -/
def NegativesKept (targets : List BalanceTarget) (provider : InferenceProvider) : Prop :=
  let own := targets.filter fun target => target.provider = provider
  let share := configuredShare targets provider
  |10000 * (negativeWeight own - share * negativeWeight targets) +
      (roundingError own - share * roundingError targets)| ≤
    targets.length / 10000 * (10000 * (1 + negativeWeight targets) + roundingError targets)

/-- The rounded weights are the configured ones, without the negative ones, and the errors. -/
theorem sum_tenThousandths (targets : List BalanceTarget) :
    (targets.map fun target => (tenThousandths target.weight : ℚ)).sum =
      10000 * ((targets.map BalanceTarget.weight).sum + negativeWeight targets) +
        roundingError targets := by
  unfold negativeWeight roundingError
  rw [← Shares.sum_max_eq, ← List.sum_map_mul_left, ← List.sum_map_add]
  exact congrArg List.sum (List.map_congr_left fun target _ => (add_sub_cancel _ _).symm)

/-- **The share of the rounded weights** is close enough to what is configured exactly within the
bound, if there are such weights at all. -/
theorem share_kept_iff {targets : List BalanceTarget}
    (hsum : (targets.map BalanceTarget.weight).sum = 1)
    (hpos : 0 < (targets.map fun target => (tenThousandths target.weight : ℚ)).sum)
    (provider : InferenceProvider) :
    |((targets.filter fun target => target.provider = provider).map fun target =>
        (tenThousandths target.weight : ℚ)).sum /
          (targets.map fun target => (tenThousandths target.weight : ℚ)).sum -
        configuredShare targets provider| ≤ targets.length / 10000 ↔
      NegativesKept targets provider := by
  have hscaled : ∀ r R s : ℚ, 0 < R → r / R - s = (r - s * R) / R := by
    intro r R s hR
    rw [sub_div, mul_div_cancel_right₀ _ hR.ne']
  rw [hscaled _ _ _ hpos, abs_div, abs_of_pos hpos, div_le_iff₀ hpos, sum_tenThousandths,
    sum_tenThousandths, hsum]
  unfold NegativesKept configuredShare
  ring_nf

/-- **Few negative weights** are within the bound. -/
theorem negativesKept_of_le_slack {targets : List BalanceTarget}
    (hsum : (targets.map BalanceTarget.weight).sum = 1)
    (hpos : 0 < (targets.map fun target => (tenThousandths target.weight : ℚ)).sum)
    (hslack : negativeWeight targets ≤ Shares.slack targets.length 10000)
    (provider : InferenceProvider) : NegativesKept targets provider := by
  have hroom : Shares.slack targets.length 10000 ≤ 1 := by
    refine max_le (by norm_num) ?_
    nlinarith [sq_nonneg ((targets.length : ℚ) / 10000 - 1 / 2)]
  -- the positive parts are at most one more than the negative ones, so no weight is above two
  have hle : ∀ target ∈ targets, target.weight ≤ 2 := by
    intro target htarget
    have hother : max target.weight 0 ≤
        (targets.map fun target => max target.weight 0).sum := by
      refine List.single_le_sum (fun w hw => ?_) _ (List.mem_map_of_mem htarget)
      obtain ⟨t, -, rfl⟩ := List.mem_map.mp hw
      exact le_max_right _ _
    have htotal := Shares.sum_max_eq BalanceTarget.weight targets
    unfold negativeWeight at hslack
    linarith [le_max_left target.weight 0]
  have hkept := Shares.abs_share_filter_sub_le (fun target => decide (target.provider = provider))
    BalanceTarget.weight (fun target => (tenThousandths target.weight : ℚ)) (by norm_num)
    (fun target _ => Nat.cast_nonneg _)
    (fun target htarget => abs_tenThousandths_sub_le (hle target htarget)) hsum hslack
  exact (share_kept_iff hsum hpos provider).mp hkept

/-- Half of the whole is not few. -/
example : ¬ NegativesKept [⟨.openAI, 3 / 2⟩, ⟨.anthropic, -1 / 2⟩] .anthropic := by
  unfold NegativesKept
  decide +kernel

/-- A weight that is not lost is among the rounded ones. -/
theorem sum_tenThousandths_pos {targets : List BalanceTarget}
    (hsum : (targets.map BalanceTarget.weight).sum = 1) (hlost : NoneLost targets) :
    0 < (targets.map fun target => (tenThousandths target.weight : ℚ)).sum := by
  obtain ⟨target, htarget, hweight⟩ : ∃ target ∈ targets, 0 < target.weight := by
    refine List.exists_lt_of_sum_lt (fun _ => 0) BalanceTarget.weight ?_
    rw [hsum, List.map_const', List.sum_replicate, nsmul_zero]
    exact zero_lt_one
  have hrounded := tenThousandths_pos_iff.mpr (hlost target htarget hweight)
  refine lt_of_lt_of_le (Nat.cast_pos.mpr hrounded) (List.single_le_sum (fun w hw => ?_) _
    (List.mem_map_of_mem htarget))
  obtain ⟨t, -, rfl⟩ := List.mem_map.mp hw
  exact Nat.cast_nonneg _

/-! ### The keys of the targets -/

section Targets

variable {endpointType : EndpointType} {targets : List BalanceTarget}

theorem ofTarget_inj {a b : BalanceTarget} :
    WeightedKey.ofTarget endpointType a = WeightedKey.ofTarget endpointType b ↔
      a.provider = b.provider ∧ tenThousandths a.weight = tenThousandths b.weight := by
  rw [← raw_ofDecimal, ← raw_ofDecimal]
  unfold WeightedKey.ofTarget
  rw [WeightedKey.mk.injEq, and_iff_right rfl]
  refine and_congr_right fun _ => ⟨fun h => congrArg Weight.raw h, fun h => ?_⟩
  generalize Weight.ofDecimal id a.weight = wa at h
  generalize Weight.ofDecimal id b.weight = wb at h
  cases wa
  cases wb
  exact congrArg (fun raw => raw) (by cases h; rfl)

/-- There is a key for each target where they are told apart. -/
theorem length_dedup_eq_iff (hnodup : targets.Nodup) :
    (targets.map (WeightedKey.ofTarget endpointType)).dedup.length = targets.length ↔
      Distinguished targets := by
  have hself : (targets.map (WeightedKey.ofTarget endpointType)).dedup.length = targets.length ↔
      (targets.map (WeightedKey.ofTarget endpointType)).Nodup := by
    rw [← List.dedup_eq_self, ← List.length_map (WeightedKey.ofTarget endpointType)]
    exact ⟨(List.dedup_sublist _).eq_of_length, fun h => congrArg List.length h⟩
  rw [hself, List.nodup_map_iff_inj_on hnodup]
  unfold Distinguished
  simp only [ofTarget_inj, and_imp]

/-- The shares of the keys are those of the rounded weights. -/
theorem keyShare_map (provider : InferenceProvider) :
    keyShare (targets.map (WeightedKey.ofTarget endpointType)) provider =
      ((targets.filter fun target => target.provider = provider).map fun target =>
        (tenThousandths target.weight : ℚ)).sum /
          (targets.map fun target => (tenThousandths target.weight : ℚ)).sum := by
  unfold keyShare
  rw [List.filter_map, List.map_map, List.map_map]
  have hraw : (fun key : WeightedKey => (key.weight.raw : ℚ)) ∘ WeightedKey.ofTarget endpointType =
      fun target => (tenThousandths target.weight : ℚ) := by
    funext target
    exact congrArg Nat.cast (raw_ofDecimal target.weight)
  rw [hraw]
  rfl

theorem honoured_dedup_iff (hnodup : targets.Nodup)
    (hsum : (targets.map BalanceTarget.weight).sum = 1) :
    Honoured endpointType targets (targets.map (WeightedKey.ofTarget endpointType)).dedup ↔
      Distinguished targets ∧ NoneLost targets ∧
        (negativeWeight targets ≤ Shares.slack targets.length 10000 ∨
          ∀ provider, NegativesKept targets provider) := by
  -- distinguished targets have distinct keys, so none is merged
  have hdedup : Distinguished targets →
      (targets.map (WeightedKey.ofTarget endpointType)).dedup =
        targets.map (WeightedKey.ofTarget endpointType) := fun h =>
    (List.dedup_sublist _).eq_of_length
      (((length_dedup_eq_iff hnodup).mpr h).trans (List.length_map _).symm)
  -- a key has a weight when its target has, unless rounding loses it
  have hpositive : (∀ target ∈ targets,
      0 < (WeightedKey.ofTarget endpointType target).weight.raw ↔ 0 < target.weight) ↔
        NoneLost targets := by
    refine forall₂_congr fun target _ => ?_
    have hraw : (WeightedKey.ofTarget endpointType target).weight.raw =
        tenThousandths target.weight := raw_ofDecimal target.weight
    rw [hraw, tenThousandths_pos_iff]
    exact ⟨fun h => h.mpr, fun h => ⟨fun hle => by linarith, h⟩⟩
  constructor
  · intro h
    have hdistinct := (length_dedup_eq_iff hnodup).mp h.one_each
    have hlost := hpositive.mp h.positive
    refine ⟨hdistinct, hlost, Or.inr fun provider => ?_⟩
    have hshares := h.shares provider
    rw [hdedup hdistinct, keyShare_map] at hshares
    exact (share_kept_iff hsum (sum_tenThousandths_pos hsum hlost) provider).mp hshares
  · rintro ⟨hdistinct, hlost, hkept⟩
    have hpos := sum_tenThousandths_pos hsum hlost
    rw [hdedup hdistinct]
    refine ⟨List.length_map _, fun target htarget => List.mem_map_of_mem htarget,
      hpositive.mpr hlost, fun provider => ?_⟩
    rw [keyShare_map]
    refine (share_kept_iff hsum hpos provider).mpr ?_
    exact hkept.elim (fun hslack => negativesKept_of_le_slack hsum hpos hslack provider)
      fun h => h provider

end Targets

/-- **When configured weights are honoured.** -/
theorem honoured_iff (config : RouterConfig) (endpointType : EndpointType)
    (providers : NESet BalanceTarget)
    (hone : config.loadBalance.entries = [(endpointType, .weighted providers)])
    (hvalid : config.validate = .ok ()) :
    ∃ keys, WeightedKey.configured id config = some keys ∧
      (Honoured endpointType providers.elems keys ↔
        Distinguished providers.elems ∧ NoneLost providers.elems ∧
          (negativeWeight providers.elems ≤ Shares.slack providers.elems.length 10000 ∨
            ∀ provider, NegativesKept providers.elems provider)) := by
  have hkeys : WeightedKey.configured id config =
      some (providers.elems.map (WeightedKey.ofTarget endpointType)).dedup := by
    unfold WeightedKey.configured
    rw [hone]
    show some ((_ ++ []).dedup) = _
    rw [List.append_nil]
    rfl
  -- what validation asks of the weights
  have hsum : (providers.elems.map BalanceTarget.weight).sum = 1 := by
    unfold RouterConfig.validate at hvalid
    rw [hone] at hvalid
    obtain ⟨_, hchecked, -⟩ := Except.bind_eq_ok_iff.mp hvalid
    change (if (providers.elems.map BalanceTarget.weight).sum ≠ 1 then _ else _) = _ at hchecked
    by_contra hne
    rw [if_pos hne] at hchecked
    cases hchecked
  exact ⟨_, hkeys, honoured_dedup_iff providers.nodup hsum⟩

/-- A router with two targets for chat. -/
def twoTargets (first second : BalanceTarget) (hne : first ≠ second) : RouterConfig where
  loadBalance :=
    { entries := [(.chat, .weighted ⟨[first, second],
        List.nodup_cons.mpr ⟨fun h => hne (List.mem_singleton.mp h), List.nodup_singleton _⟩,
        List.cons_ne_nil _ _⟩)]
      nodup := List.nodup_singleton _ }

/-- It is valid if the two weights sum to one. -/
theorem validate_twoTargets {first second : BalanceTarget} {hne : first ≠ second}
    (hsum : first.weight + second.weight = 1) :
    (twoTargets first second hne).validate = .ok () := by
  have htotal : ([first, second].map BalanceTarget.weight).sum = 1 := by
    rw [List.map_cons, List.map_cons, List.map_nil, List.sum_cons, List.sum_cons, List.sum_nil,
      add_zero, hsum]
  exact Except.bind_eq_ok_iff.mpr ⟨⟨⟩, if_neg (not_not.mpr htotal), rfl⟩

/-- A quarter and three quarters of two providers are honoured. -/
theorem honoured_iff_quarter :
    ∃ keys, WeightedKey.configured id
        (twoTargets ⟨.openAI, 1 / 4⟩ ⟨.anthropic, 3 / 4⟩ (by decide +kernel)) = some keys ∧
      Honoured .chat [⟨.openAI, 1 / 4⟩, ⟨.anthropic, 3 / 4⟩] keys := by
  obtain ⟨keys, hkeys, hiff⟩ := honoured_iff
    (twoTargets ⟨.openAI, 1 / 4⟩ ⟨.anthropic, 3 / 4⟩ (by decide +kernel)) .chat _ rfl
    (validate_twoTargets (by norm_num))
  refine ⟨keys, hkeys, hiff.mpr ⟨?_, ?_, Or.inl ?_⟩⟩
  · unfold Distinguished
    decide +kernel
  · unfold NoneLost
    decide +kernel
  · exact (Shares.negativePart_eq_zero (by decide +kernel)).trans_le (le_max_left _ _)

/-- **Nearly equal weights are not.** A provider that is listed with two of them has one key. -/
theorem honoured_fails : ¬ ∀ (config : RouterConfig) (endpointType : EndpointType)
    (providers : NESet BalanceTarget),
      config.loadBalance.entries = [(endpointType, .weighted providers)] →
      config.validate = .ok () →
      ∀ keys, WeightedKey.configured id config = some keys →
        Honoured endpointType providers.elems keys := by
  intro h
  have hkeys : WeightedKey.configured id (twoTargets ⟨.openAI, 50001 / 100000⟩
      ⟨.openAI, 49999 / 100000⟩ (by decide +kernel)) =
        some [⟨.openAI, .chat, ⟨5000, by decide⟩⟩] := by decide +kernel
  have hone := (h _ .chat _ rfl (validate_twoTargets (by norm_num)) _ hkeys).one_each
  exact absurd hone (by decide)

end AiGateway
