import AiGateway.Discover.Key
import AiGateway.Framework.Loops
import AiGateway.Framework.ReadyCache
import AiGateway.Framework.Runs
import Mathlib.Data.List.FinRange

/-!
# The weighted balancer

`WeightedBalance` of the `weighted-balance` crate: `poll_ready` applies the changes
discovery has, promotes the pending services that became ready, and then picks a
ready service at random, in proportion to its weight, until one passes its check.

The random selection is the structure `Sampler`, whose fields are what is known
of it. It fails when no candidate has a weight, and `poll_ready` then returns an
error, which the buffer in front of the balancer keeps for good.

The loop has no counter. What the checks and the selection come to may differ
from one of its rounds to the next: a round that goes on has taken a service out
of the ready ones, or has used up an index past the end, left from an earlier
poll.

* `poll_ready_loop_ends`: the number of rounds, whatever each of them meets;
* `pollLoop_eq_of_ends`: the loop of a poll, whose checks do not change, takes
  these rounds, and has fuel enough (`pollReady_ne_outOfFuel`);
* `usable_of_weights`: with at most one weightless key, no poll fails, and each
  finds a ready service if there is one;
* `usable_iff`: two weightless keys are enough for a poll to fail.
-/

namespace AiGateway

open Transition Tower Loop

variable {K : Type} [DecidableEq K]

/-! ### The code -/

/-- `rand::seq::index::sample_weighted` for one index: what it returns for the
weights of the candidates. `none` is its error. -/
structure Sampler where
  sample : List ℕ → Option ℕ
  /-- It fails when no candidate has a positive weight. -/
  sample_eq_none : ∀ ws, sample ws = none ↔ ∀ w ∈ ws, w = 0
  /-- It picks a candidate of positive weight. -/
  sample_pos : ∀ ws i, sample ws = some i → ∃ w, ws[i]? = some w ∧ 0 < w

/-- The state of the balancer. -/
structure WeightedBalance (K : Type) where
  services : ReadyCache K
  readyIndex : Option ℕ

/-- The result of `poll_ready`. The error is the failure of the selection. -/
inductive PollResult
  | ready
  | pending
  | sampleFailed
  | outOfFuel
  deriving DecidableEq, Repr

/-- What a poll meets: the changes discovery has, the pending services that complete,
how each ready service answers its check, and the selection. -/
structure PollInput (K : Type) where
  changes : List (Change K)
  completions : List (K × Bool)
  check : K → Readiness
  sampler : Sampler

/-- `ready_index`: with a single ready service there is nothing to select. The
outer `none` is the error of the selection. -/
def readyIndex (weight : K → ℕ) (sample : List ℕ → Option ℕ) (c : ReadyCache K) :
    Option (Option ℕ) :=
  match c.ready.length with
  | 0 => some none
  | 1 => some (some 0)
  | _ => (sample (c.ready.map weight)).map some

/-- The check at the top of the loop, on the service selected before. -/
def checkSelected (check : K → Readiness) (b : WeightedBalance K) : Bool × ReadyCache K :=
  match b.readyIndex with
  | some i => b.services.checkReadyIndex check i
  | none => (false, b.services)

/-- The loop of `poll_ready`. -/
def pollLoop (weight : K → ℕ) (check : K → Readiness) (sampler : Sampler) :
    ℕ → WeightedBalance K → PollResult × WeightedBalance K
  | 0, b => (.outOfFuel, b)
  | fuel + 1, b =>
    -- the service selected before is checked first, and it stays selected if it is ready
    let checked := checkSelected check b
    if checked.1 then (.ready, ⟨checked.2, b.readyIndex⟩)
    else
      match readyIndex weight sampler.sample checked.2 with
      | none => (.sampleFailed, ⟨checked.2, none⟩)
      | some none => (.pending, ⟨checked.2, none⟩)
      | some (some i) => pollLoop weight check sampler fuel ⟨checked.2, some i⟩

/-- The services once discovery and the pending services have been polled. -/
def WeightedBalance.updated (b : WeightedBalance K) (input : PollInput K) : ReadyCache K :=
  (input.changes.foldl ReadyCache.apply b.services).pollPending input.completions

/-- `poll_ready`. -/
def pollReady (weight : K → ℕ) (b : WeightedBalance K) (input : PollInput K) :
    PollResult × WeightedBalance K :=
  let services := b.updated input
  pollLoop weight input.check input.sampler (services.ready.length + 2) ⟨services, b.readyIndex⟩

/-- `call`, on the service selected by the poll before it. -/
def WeightedBalance.call (b : WeightedBalance K) : WeightedBalance K :=
  match b.readyIndex with
  | some i => ⟨b.services.callReadyIndex i, none⟩
  | none => b

/-- What happens to the balancer. -/
inductive BalancerAction (K : Type)
  | poll (input : PollInput K)
  | call

/-- The balancer over discovery of the given keys. A call follows a poll that
selected a service. -/
def weightedBalancer (weight : K → ℕ) (keys : List K) :
    System (WeightedBalance K) (BalancerAction K) where
  init := ⟨ReadyCache.empty, none⟩
  step b a b' :=
    match a with
    | .poll input =>
      (∀ key, Change.insert key ∈ input.changes → key ∈ keys) ∧ b' = (pollReady weight b input).2
    | .call => b.readyIndex.isSome ∧ b' = b.call

/-! ### Rounds of the loop -/

/-- What a round meets: how the services answer their check, and the selection. -/
structure RoundOutcome (K : Type) where
  check : K → Readiness
  /-- `sample_weighted`, for the weights of the candidates. `none` is its error. -/
  sample : List ℕ → Option ℕ
  /-- It returns an index below its length. -/
  sample_lt : ∀ ws i, sample ws = some i → i < ws.length

/-- One round of the loop of `poll_ready`. -/
def pollRound (weight : K → ℕ) (outcome : RoundOutcome K) (b : WeightedBalance K) :
    Round (WeightedBalance K) (PollResult × WeightedBalance K) :=
  let checked := checkSelected outcome.check b
  if checked.1 then .exit (.ready, ⟨checked.2, b.readyIndex⟩)
  else
    match readyIndex weight outcome.sample checked.2 with
    | none => .exit (.sampleFailed, ⟨checked.2, none⟩)
    | some none => .exit (.pending, ⟨checked.2, none⟩)
    | some (some i) => .again ⟨checked.2, some i⟩

theorem pollRound_of_ready {weight : K → ℕ} {outcome : RoundOutcome K} {b : WeightedBalance K}
    (h : (checkSelected outcome.check b).1 = true) :
    pollRound weight outcome b =
      .exit (.ready, ⟨(checkSelected outcome.check b).2, b.readyIndex⟩) :=
  if_pos h

theorem pollRound_of_failed {weight : K → ℕ} {outcome : RoundOutcome K} {b : WeightedBalance K}
    (h : ¬ (checkSelected outcome.check b).1 = true) :
    pollRound weight outcome b =
      match readyIndex weight outcome.sample (checkSelected outcome.check b).2 with
      | none => .exit (.sampleFailed, ⟨(checkSelected outcome.check b).2, none⟩)
      | some none => .exit (.pending, ⟨(checkSelected outcome.check b).2, none⟩)
      | some (some i) => .again ⟨(checkSelected outcome.check b).2, some i⟩ :=
  if_neg h

omit [DecidableEq K] in
/-- What is selected lies within the range. -/
theorem lt_of_readyIndex {weight : K → ℕ} {outcome : RoundOutcome K} {c : ReadyCache K} {i : ℕ}
    (h : readyIndex weight outcome.sample c = some (some i)) : i < c.ready.length := by
  unfold readyIndex at h
  split at h
  · cases h
  · next hlength =>
    obtain rfl := Option.some.inj (Option.some.inj h)
    rw [hlength]
    exact Nat.zero_lt_one
  · obtain ⟨j, hsample, hj⟩ := Option.map_eq_some_iff.mp h
    obtain rfl := Option.some.inj hj
    have hlt := outcome.sample_lt _ _ hsample
    rwa [List.length_map] at hlt

/-- A selection within the range. -/
def InRange (b : WeightedBalance K) : Prop := ∃ i < b.services.ready.length, b.readyIndex = some i

instance (b : WeightedBalance K) : Decidable (InRange b) :=
  decidable_of_iff (∃ i ∈ b.readyIndex, i < b.services.ready.length)
    ⟨fun ⟨i, hi, hlt⟩ => ⟨i, hlt, hi⟩, fun ⟨i, hlt, hi⟩ => ⟨i, hi, hlt⟩⟩

/-- **A round that goes on** has taken a service out, or had no selection within the range. The
next round has one. -/
theorem spec_of_again {weight : K → ℕ} {outcome : RoundOutcome K} {b b' : WeightedBalance K}
    (h : pollRound weight outcome b = .again b') :
    InRange b' ∧ b'.services.ready.length ≤ b.services.ready.length ∧
      (InRange b → b'.services.ready.length < b.services.ready.length) := by
  by_cases hready : (checkSelected outcome.check b).1 = true
  · rw [pollRound_of_ready hready] at h
    cases h
  · rw [pollRound_of_failed hready] at h
    split at h
    · cases h
    · cases h
    · next i hi =>
      obtain rfl := Round.again.inj h
      -- the new selection is one of the services that are ready by now
      refine ⟨⟨i, lt_of_readyIndex hi, rfl⟩, ?_, ?_⟩
      · show (checkSelected outcome.check b).2.ready.length ≤ _
        unfold checkSelected
        split
        · exact ReadyCache.length_checkReadyIndex_le _ _ _
        · exact le_refl _
      -- a selected service that is not ready is taken out
      · rintro ⟨j, hj, hindex⟩
        have hchecked : checkSelected outcome.check b =
            b.services.checkReadyIndex outcome.check j := by
          unfold checkSelected
          rw [hindex]
        rw [hchecked] at hready
        show (checkSelected outcome.check b).2.ready.length < _
        rw [hchecked]
        exact ReadyCache.length_checkReadyIndex_lt hj (Bool.eq_false_iff.mpr hready)

/-- The ready services, and one more if a round may be spent without checking one of them. -/
def roundsLeft (b : WeightedBalance K) : ℕ :=
  b.services.ready.length + if InRange b then 0 else 1

/-- **Every round that goes on** uses up a ready service, or an index that is not within the
range. -/
theorem measure_lt_of_again (weight : K → ℕ) (outcome : RoundOutcome K) (b b' : WeightedBalance K)
    (h : pollRound weight outcome b = .again b') : roundsLeft b' < roundsLeft b := by
  obtain ⟨hnext, hle, hlt⟩ := spec_of_again h
  unfold roundsLeft
  rw [if_pos hnext]
  split
  · next hrange => exact hlt hrange
  · exact Nat.lt_succ_of_le hle

omit [DecidableEq K] in
theorem roundsLeft_le (b : WeightedBalance K) :
    roundsLeft b + 1 ≤ b.services.ready.length + 2 := by
  unfold roundsLeft
  split
  · exact Nat.le_succ _
  · exact le_refl _

/-- **The loop of `poll_ready` ends**, whatever the checks and the selection come to in each of its
rounds. -/
theorem poll_ready_loop_ends (weight : K → ℕ) (outcomes : ℕ → RoundOutcome K)
    (b : WeightedBalance K) : ∃ rounds result,
      rounds ≤ b.services.ready.length + 2 ∧
        Ends (pollRound weight) outcomes b rounds result := by
  obtain ⟨rounds, result, hrounds, hends⟩ :=
    exists_ends_le roundsLeft (measure_lt_of_again weight) outcomes b
  exact ⟨rounds, result, hrounds.trans (roundsLeft_le b), hends⟩

/-- What all rounds of a poll meet. -/
def PollInput.outcome (input : PollInput K) : RoundOutcome K where
  check := input.check
  sample := input.sampler.sample
  sample_lt ws i h := by
    obtain ⟨w, hw, -⟩ := input.sampler.sample_pos ws i h
    exact (List.getElem?_eq_some_iff.mp hw).1

/-- The loop of a poll, one round at a time. -/
theorem pollLoop_succ (weight : K → ℕ) (input : PollInput K) (fuel : ℕ) (b : WeightedBalance K) :
    pollLoop weight input.check input.sampler (fuel + 1) b =
      match pollRound weight input.outcome b with
      | .exit result => result
      | .again b' => pollLoop weight input.check input.sampler fuel b' := by
  have hselect : readyIndex weight input.sampler.sample (checkSelected input.check b).2 =
      readyIndex weight input.outcome.sample (checkSelected input.outcome.check b).2 := rfl
  rw [pollLoop]
  by_cases hready : (checkSelected input.check b).1 = true
  · rw [@pollRound_of_ready _ _ weight input.outcome b hready, if_pos hready]
    rfl
  · rw [@pollRound_of_failed _ _ weight input.outcome b hready, if_neg hready, hselect]
    cases readyIndex weight input.outcome.sample (checkSelected input.outcome.check b).2 with
    | none => rfl
    | some selected =>
      cases selected with
      | none => rfl
      | some i => rfl

/-- **The loop of a poll takes these rounds**, and its fuel is enough for them. -/
theorem pollLoop_eq_of_ends {weight : K → ℕ} {input : PollInput K} {b : WeightedBalance K}
    {rounds fuel : ℕ} {result : PollResult × WeightedBalance K}
    (h : Ends (pollRound weight) (fun _ => input.outcome) b rounds result) (hle : rounds ≤ fuel) :
    pollLoop weight input.check input.sampler fuel b = result := by
  generalize hinputs : (fun _ : ℕ => input.outcome) = inputs at h
  induction h generalizing fuel with
  | exit hexit =>
    obtain ⟨fuel, rfl⟩ := Nat.exists_eq_add_of_le' hle
    subst hinputs
    rw [pollLoop_succ, hexit]
  | again hagain _ ih =>
    obtain ⟨fuel, rfl⟩ := Nat.exists_eq_add_of_le' (Nat.le_of_add_left_le hle)
    subst hinputs
    rw [pollLoop_succ, hagain]
    exact ih (Nat.le_of_succ_le_succ hle) rfl

/-- A poll returns what its loop ends with. -/
theorem pollReady_ends (weight : K → ℕ) (b : WeightedBalance K) (input : PollInput K) :
    ∃ rounds, Ends (pollRound weight) (fun _ => input.outcome) ⟨b.updated input, b.readyIndex⟩
      rounds (pollReady weight b input) := by
  obtain ⟨rounds, result, hrounds, hends⟩ := exists_ends_le roundsLeft
    (measure_lt_of_again weight) (fun _ => input.outcome) ⟨b.updated input, b.readyIndex⟩
  have hresult : pollReady weight b input = result :=
    pollLoop_eq_of_ends hends (hrounds.trans (roundsLeft_le _))
  rw [hresult]
  exact ⟨rounds, hends⟩

/-- No round gives up for want of fuel. -/
theorem ne_outOfFuel_of_ends {weight : K → ℕ} {outcomes : ℕ → RoundOutcome K}
    {b : WeightedBalance K} {rounds : ℕ} {result : PollResult × WeightedBalance K}
    (h : Ends (pollRound weight) outcomes b rounds result) : result.1 ≠ .outOfFuel := by
  induction h with
  | @exit outcomes b result hexit =>
    by_cases hready : (checkSelected (outcomes 0).check b).1 = true
    · rw [pollRound_of_ready hready] at hexit
      cases hexit
      exact PollResult.noConfusion
    · rw [pollRound_of_failed hready] at hexit
      split at hexit
      · cases hexit
        exact PollResult.noConfusion
      · cases hexit
        exact PollResult.noConfusion
      · cases hexit
  | again _ _ ih => exact ih

/-- **The loop of `poll_ready` has fuel enough.** -/
theorem pollReady_ne_outOfFuel (weight : K → ℕ) (b : WeightedBalance K) (input : PollInput K) :
    (pollReady weight b input).1 ≠ .outOfFuel := by
  obtain ⟨rounds, hends⟩ := pollReady_ends weight b input
  exact ne_outOfFuel_of_ends hends

/-! ### Polls that find a service -/

/-- The selection can be made: with several ready services, one of them has a weight. -/
def Selectable (weight : K → ℕ) (ready : List K) : Prop :=
  2 ≤ ready.length → ∃ k ∈ ready, 0 < weight k

omit [DecidableEq K] in
theorem readyIndex_ne_none {weight : K → ℕ} {sampler : Sampler} {c : ReadyCache K}
    (h : Selectable weight c.ready) : readyIndex weight sampler.sample c ≠ none := by
  unfold readyIndex
  split
  · exact Option.some_ne_none _
  · exact Option.some_ne_none _
  · next h0 h1 =>
    intro hnone
    rw [Option.map_eq_none_iff, sampler.sample_eq_none] at hnone
    have hzero : c.ready.length ≠ 0 := h0
    have hone : c.ready.length ≠ 1 := h1
    -- one of the candidates has a weight, so the selection does not fail
    obtain ⟨k, hk, hpos⟩ := h (by omega)
    exact absurd (hnone _ (List.mem_map_of_mem hk)) (by omega)

omit [DecidableEq K] in
/-- A ready service rules out that there is nothing to select. -/
theorem readyIndex_ne_some_none {weight : K → ℕ} {sampler : Sampler} {c : ReadyCache K}
    (h : c.ready ≠ []) : readyIndex weight sampler.sample c ≠ some none := by
  unfold readyIndex
  split
  · next hlen => exact absurd (List.length_eq_zero_iff.mp hlen) h
  · intro heq
    cases heq
  · intro heq
    rw [Option.map_eq_some_iff] at heq
    obtain ⟨i, -, hi⟩ := heq
    cases hi

/-- At most one of the keys is weightless. -/
def WeightsSuffice (weight : K → ℕ) (keys : List K) : Prop :=
  ∀ k ∈ keys, ∀ k' ∈ keys, weight k = 0 → weight k' = 0 → k = k'

instance (weight : K → ℕ) (keys : List K) : Decidable (WeightsSuffice weight keys) :=
  inferInstanceAs (Decidable (∀ k ∈ keys, ∀ k' ∈ keys, weight k = 0 → weight k' = 0 → k = k'))

omit [DecidableEq K] in
/-- With at most one weightless key, the selection can be made. -/
theorem WeightsSuffice.selectable {weight : K → ℕ} {keys ready : List K}
    (h : WeightsSuffice weight keys) (hnodup : ready.Nodup) (hsub : ∀ k ∈ ready, k ∈ keys) :
    Selectable weight ready := by
  intro hlen
  match ready, hlen with
  | a :: b :: rest, _ =>
    -- two ready services are two keys, and one of them has a weight
    have hne : a ≠ b := by
      rintro rfl
      exact (List.nodup_cons.mp hnodup).1 List.mem_cons_self
    have ha : a ∈ a :: b :: rest := List.mem_cons_self
    have hb : b ∈ a :: b :: rest := List.mem_cons_of_mem a List.mem_cons_self
    by_cases hza : weight a = 0
    · refine ⟨b, hb, Nat.pos_of_ne_zero fun hzb => ?_⟩
      exact hne (h a (hsub a ha) b (hsub b hb) hza hzb)
    · exact ⟨a, ha, Nat.pos_of_ne_zero hza⟩

/-- The services of a balancer are among the given keys. -/
def MembersIn (keys : List K) (c : ReadyCache K) : Prop := ∀ k ∈ c.members, k ∈ keys

theorem MembersIn.checkSelected {keys : List K} {check : K → Readiness} {b : WeightedBalance K}
    (h : MembersIn keys b.services) : MembersIn keys (checkSelected check b).2 := by
  intro k hk
  unfold AiGateway.checkSelected at hk
  split at hk
  · exact h k (ReadyCache.mem_members_checkReadyIndex hk)
  · exact h k hk

/-- A service that passes its check stays ready while others are tried. -/
theorem mem_ready_checkSelected {check : K → Readiness} {b : WeightedBalance K} {k : K}
    (hk : k ∈ b.services.ready) (hready : check k = .ready) :
    k ∈ (checkSelected check b).2.ready := by
  unfold checkSelected
  split
  · exact ReadyCache.mem_ready_checkReadyIndex hk hready
  · exact hk

/-- The loop over services among keys of which at most one is weightless: it never
fails, finds a ready service if there is one, and brings in no service. -/
theorem pollLoop_of_weights {weight : K → ℕ} {keys : List K} (hw : WeightsSuffice weight keys)
    (check : K → Readiness) (sampler : Sampler) (fuel : ℕ) (b : WeightedBalance K)
    (hb : MembersIn keys b.services) :
    (pollLoop weight check sampler fuel b).1 ≠ .sampleFailed ∧
      ((∃ k ∈ b.services.ready, check k = .ready) →
        (pollLoop weight check sampler fuel b).1 ≠ .pending) ∧
      MembersIn keys (pollLoop weight check sampler fuel b).2.services := by
  induction fuel generalizing b with
  | zero => exact ⟨PollResult.noConfusion, fun _ => PollResult.noConfusion, hb⟩
  | succ fuel ih =>
    have hchecked : MembersIn keys (checkSelected check b).2 := hb.checkSelected
    have hselect : Selectable weight (checkSelected check b).2.ready :=
      hw.selectable (checkSelected check b).2.ready_nodup fun k hk =>
        hchecked k (ReadyCache.mem_members.mpr (Or.inl hk))
    -- the checked service is ready, or another one is selected
    rw [pollLoop]
    split
    · exact ⟨PollResult.noConfusion, fun _ => PollResult.noConfusion, hchecked⟩
    · split
      · next hnone => exact absurd hnone (readyIndex_ne_none hselect)
      · next hempty =>
        refine ⟨PollResult.noConfusion, ?_, hchecked⟩
        rintro ⟨k, hk, hready⟩
        have hmem := mem_ready_checkSelected hk hready
        exact absurd hempty (readyIndex_ne_some_none (List.ne_nil_of_mem hmem))
      · next i hi =>
        obtain ⟨hfail, hfind, hin⟩ := ih ⟨(checkSelected check b).2, some i⟩ hchecked
        refine ⟨hfail, ?_, hin⟩
        rintro ⟨k, hk, hready⟩
        exact hfind ⟨k, mem_ready_checkSelected hk hready, hready⟩

/-- **A usable poll.** The selection does not fail, and if a ready service passes
its check the poll succeeds. -/
def Usable (weight : K → ℕ) (b : WeightedBalance K) (input : PollInput K) : Prop :=
  (pollReady weight b input).1 ≠ .sampleFailed ∧
    ((∃ k ∈ (b.updated input).ready, input.check k = .ready) →
      (pollReady weight b input).1 = .ready)

/-- A change brings in the key that it inserts. -/
theorem MembersIn.apply {keys : List K} {c : ReadyCache K} {change : Change K}
    (h : MembersIn keys c) (hchange : ∀ key, change = .insert key → key ∈ keys) :
    MembersIn keys (c.apply change) := by
  intro k hk
  cases change with
  | insert key =>
    rcases ReadyCache.mem_members_push.mp hk with rfl | hk
    · exact hchange k rfl
    · exact h k hk
  | remove key => exact h k (ReadyCache.mem_members_evict.mp hk).2

theorem MembersIn.foldl_apply {keys : List K} {c : ReadyCache K} {changes : List (Change K)}
    (h : MembersIn keys c) (hchanges : ∀ key, Change.insert key ∈ changes → key ∈ keys) :
    MembersIn keys (changes.foldl ReadyCache.apply c) := by
  induction changes generalizing c with
  | nil => exact h
  | cons change changes ih =>
    have hfirst : MembersIn keys (c.apply change) := h.apply fun key hkey =>
      hchanges key (hkey ▸ List.mem_cons_self)
    exact ih hfirst fun key hkey => hchanges key (List.mem_cons_of_mem change hkey)

/-- Applying changes and completions brings in only inserted keys. -/
theorem MembersIn.updated {keys : List K} {b : WeightedBalance K} {input : PollInput K}
    (h : MembersIn keys b.services)
    (hchanges : ∀ key, Change.insert key ∈ input.changes → key ∈ keys) :
    MembersIn keys (b.updated input) := by
  intro k hk
  exact h.foldl_apply hchanges k (ReadyCache.mem_members_pollPending hk)

/-- **Polls with enough weights.** If at most one key is weightless, every poll is
usable. -/
theorem usable_of_weights {weight : K → ℕ} {keys : List K} (hw : WeightsSuffice weight keys)
    {b : WeightedBalance K} (hb : MembersIn keys b.services) {input : PollInput K}
    (hchanges : ∀ key, Change.insert key ∈ input.changes → key ∈ keys) :
    Usable weight b input := by
  obtain ⟨hfail, hfind, -⟩ := pollLoop_of_weights hw input.check input.sampler
    ((b.updated input).ready.length + 2) ⟨b.updated input, b.readyIndex⟩ (hb.updated hchanges)
  refine ⟨hfail, fun hready => ?_⟩
  have hpending := hfind hready
  have hfuel := pollReady_ne_outOfFuel weight b input
  unfold pollReady at hfuel ⊢
  -- of the four results, three are excluded
  cases hr : (pollLoop weight input.check input.sampler ((b.updated input).ready.length + 2)
      ⟨b.updated input, b.readyIndex⟩).1 with
  | ready => rfl
  | pending => exact absurd hr hpending
  | sampleFailed => exact absurd hr hfail
  | outOfFuel => exact absurd hr hfuel

/-- The services stay among the keys that discovery inserts. -/
theorem MembersIn.step {weight : K → ℕ} {keys : List K} (hw : WeightsSuffice weight keys)
    {b b' : WeightedBalance K} {a : BalancerAction K} (hb : MembersIn keys b.services)
    (hstep : (weightedBalancer weight keys).step b a b') : MembersIn keys b'.services := by
  cases a with
  | poll input =>
    obtain ⟨hchanges, rfl⟩ := hstep
    exact (pollLoop_of_weights hw _ _ _ _ (hb.updated hchanges)).2.2
  | call =>
    obtain ⟨hsome, rfl⟩ := hstep
    intro k hk
    unfold WeightedBalance.call at hk
    split at hk
    · exact hb k (ReadyCache.mem_members_demote hk)
    · exact hb k hk

/-! ### Two weightless services -/

/-- The selection that takes the first candidate with a weight. -/
def firstPositive : Sampler where
  sample ws := ws.findIdx? fun w => 0 < w
  sample_eq_none ws := by simp [List.findIdx?_eq_none_iff]
  sample_pos ws i h := by
    obtain ⟨hlt, hpos, -⟩ := List.findIdx?_eq_some_iff_getElem.mp h
    exact ⟨ws[i], List.getElem?_eq_getElem hlt, of_decide_eq_true hpos⟩

/-- The poll in which two services arrive, become ready, and pass their checks. -/
def arrival (k k' : K) : PollInput K where
  changes := [.insert k, .insert k']
  completions := [(k, true), (k', true)]
  check _ := .ready
  sampler := firstPositive

/-- Both services are ready after the arrival. -/
theorem ready_updated_arrival {k k' : K} (hne : k ≠ k') :
    (WeightedBalance.updated ⟨ReadyCache.empty, none⟩ (arrival k k')).ready = [k, k'] := by
  have hne' : k' ≠ k := Ne.symm hne
  simp [WeightedBalance.updated, arrival, ReadyCache.apply, ReadyCache.push, ReadyCache.empty,
    ReadyCache.pollPending, ReadyCache.complete, List.insert, hne, hne']

/-- **Two ready services without a weight.** Both pass their checks, and the poll fails. -/
theorem sampleFailed_arrival {weight : K → ℕ} {k k' : K} (hne : k ≠ k') (hk : weight k = 0)
    (hk' : weight k' = 0) :
    (pollReady weight ⟨ReadyCache.empty, none⟩ (arrival k k')).1 = .sampleFailed := by
  have hready := ready_updated_arrival hne
  have hindex : readyIndex weight firstPositive.sample
      (WeightedBalance.updated ⟨ReadyCache.empty, none⟩ (arrival k k')) = none := by
    unfold readyIndex
    rw [hready]
    simp [firstPositive, hk, hk']
  unfold pollReady
  -- nothing was selected before, so the first round goes straight to the selection
  rw [pollLoop]
  simp only [checkSelected, Bool.false_eq_true, if_false]
  rw [show (arrival k k').sampler = firstPositive from rfl, hindex]

/-! ### Exactly when every poll is usable -/

/-- The weight the balancer reads off a key. -/
def WeightedKey.rawWeight (key : WeightedKey) : ℕ := key.weight.raw

/-- Every poll of a run is usable. -/
def PollsUsable (weight : K → ℕ) (b : WeightedBalance K)
    (tr : List (BalancerAction K × WeightedBalance K)) : Prop :=
  System.AllSteps (fun b a _ => ∀ input, a = .poll input → Usable weight b input) b tr

/-- Every poll is usable while at most one key is weightless. -/
theorem pollsUsable_of_weights {weight : K → ℕ} {keys : List K}
    (hw : WeightsSuffice weight keys) {b : WeightedBalance K} (hb : MembersIn keys b.services)
    {tr : List (BalancerAction K × WeightedBalance K)}
    (h : (weightedBalancer weight keys).Run b tr) : PollsUsable weight b tr := by
  have hpoll : ∀ b a b', MembersIn keys b.services → (weightedBalancer weight keys).step b a b' →
      ∀ input, a = .poll input → Usable weight b input := by
    rintro b _ b' hb hstep input rfl
    obtain ⟨hchanges, -⟩ := hstep
    exact usable_of_weights hw hb hchanges
  exact h.allSteps (fun _ _ _ hb hstep => hb.step hw hstep) hpoll hb

/-- The balancer over the given keys stays usable: every poll of every run is. -/
def StaysUsable (weight : K → ℕ) (keys : List K) : Prop :=
  ∀ tr, (weightedBalancer weight keys).Run (weightedBalancer weight keys).init tr →
    PollsUsable weight (weightedBalancer weight keys).init tr

/-- Two weightless keys are enough for a poll that is not usable. -/
theorem weights_of_staysUsable {weight : K → ℕ} {keys : List K} (h : StaysUsable weight keys) :
    WeightsSuffice weight keys := by
  intro k hk k' hk' hzero hzero'
  by_contra hne
  -- the run in which just these two arrive
  have hstep : (weightedBalancer weight keys).step ⟨ReadyCache.empty, none⟩
      (.poll (arrival k k')) (pollReady weight ⟨ReadyCache.empty, none⟩ (arrival k k')).2 := by
    refine ⟨?_, rfl⟩
    intro key hkey
    rcases List.mem_cons.mp hkey with hkey | hkey
    · obtain rfl := Change.insert.inj hkey
      exact hk
    · obtain rfl := Change.insert.inj (List.mem_singleton.mp hkey)
      exact hk'
  have husable := h _ (System.Run.cons hstep (System.Run.nil _))
  exact (husable.1 _ rfl).1 (sampleFailed_arrival hne hzero hzero')

/-- **When the weighted balancer stays usable.** Whatever discovery inserts and
removes, and whatever the services answer, every poll is usable exactly when at
most one of the configured keys has the weight zero. -/
theorem usable_iff (rnd : ℚ → ℚ) (config : RouterConfig) :
    ∀ keys ∈ WeightedKey.configured rnd config,
      (StaysUsable WeightedKey.rawWeight keys ↔ WeightsSuffice WeightedKey.rawWeight keys) := by
  intro keys _
  constructor
  · exact weights_of_staysUsable
  · intro hw tr htr
    refine pollsUsable_of_weights hw ?_ htr
    -- the balancer starts empty
    intro k hk
    exact absurd hk List.not_mem_nil

/-- One provider has all of the weight, and others stand by. -/
def standbyConfig (standby : List BalanceTarget) (hnodup : (⟨.openAI, 1⟩ :: standby).Nodup) :
    RouterConfig where
  loadBalance :=
    { entries := [(.chat, .weighted ⟨⟨.openAI, 1⟩ :: standby, hnodup, List.cons_ne_nil _ _⟩)]
      nodup := List.nodup_singleton _ }

/-- With one provider standing by, no poll ever fails. -/
theorem usable_iff_standby :
    StaysUsable WeightedKey.rawWeight [⟨.openAI, .chat, .unit⟩, ⟨.anthropic, .chat, .min⟩] :=
  (usable_iff id (standbyConfig [⟨.anthropic, 0⟩] (by decide)) _ (by decide +kernel)).mpr
    (by decide)

/-- **With two providers standing by, a poll can fail.** The configuration is valid,
and the two become ready before the one that has the weight. -/
theorem usable_fails :
    ¬ ∀ config : RouterConfig, config.validate = .ok () →
      ∀ keys ∈ WeightedKey.configured id config, StaysUsable WeightedKey.rawWeight keys := by
  intro h
  have husable := h (standbyConfig [⟨.anthropic, 0⟩, ⟨.googleGemini, 0⟩] (by decide))
    (by simp [RouterConfig.validate, standbyConfig, BalanceConfigInner.validate])
    [⟨.openAI, .chat, .unit⟩, ⟨.anthropic, .chat, .min⟩, ⟨.googleGemini, .chat, .min⟩]
    (by decide +kernel)
  exact absurd (weights_of_staysUsable husable) (by decide)

end AiGateway
