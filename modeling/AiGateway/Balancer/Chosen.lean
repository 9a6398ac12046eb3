import AiGateway.Balancer.Live

/-!
# Services without a weight

A service whose weight is zero stands by: it is to be chosen only if no ready service has a weight.
The random selection never picks it among several. But the index that was picked stays selected
until a call, however often `poll_ready` is called before it, and by then it may stand for another
service, since a removal moves the last one into the gap, or may have been picked
when there was nothing else to pick.

* `fresh_of_readyIndex`: the selection of a poll keeps to services with a weight;
* `hasChosen_of_fresh`: so does a poll that makes its own;
* `chosen_iff`: what is left is the index of an earlier poll, in the first round of the loop.
-/

namespace AiGateway

open Transition Tower

variable {K : Type} [DecidableEq K]

/-! ### The property -/

/-- **A service with a weight is chosen** by a poll that returns `Ready(Ok(()))`, where one is
ready. -/
def ChoosesWeight (weight : K → ℕ) (s : InUse K) (a : UseAction K) (s' : InUse K) : Prop :=
  ∀ input, a = .poll input → (pollReady weight s.balancer input).1 = .ready →
    (∃ k ∈ s'.balancer.services.ready, 0 < weight k) →
      ∃ k, s'.balancer.dispatched = some k ∧ 0 < weight k

/-- The index of an earlier poll, once discovery and the pending services have been polled, does
not stand for a service that passes its check without a weight, while another has one. -/
def KeepsWeight (weight : K → ℕ) (s : InUse K) (a : UseAction K) (_s' : InUse K) : Prop :=
  ∀ input i k, a = .poll input → s.balancer.readyIndex = some i →
    (s.balancer.updated input).ready[i]? = some k → input.check k = .ready → weight k = 0 →
      ∀ k' ∈ (s.balancer.updated input).ready, weight k' = 0

/-! ### Selections -/

/-- The selected index, if it stands for a service without a weight, stands for one of many. -/
def Fresh (weight : K → ℕ) (b : WeightedBalance K) : Prop :=
  ∀ i k, b.readyIndex = some i → b.services.ready[i]? = some k → weight k = 0 →
    ∀ k' ∈ b.services.ready, weight k' = 0

omit [DecidableEq K] in
/-- **A selection** falls on a service with a weight, or on the only one. -/
theorem fresh_of_readyIndex {weight : K → ℕ} {sampler : Sampler} {c : ReadyCache K} {i : ℕ}
    (h : readyIndex weight sampler.sample c = some (some i)) : Fresh weight ⟨c, some i⟩ := by
  intro j k hj hk hzero
  obtain rfl : i = j := Option.some.inj hj
  change c.ready[i]? = some k at hk
  show ∀ k' ∈ c.ready, weight k' = 0
  unfold readyIndex at h
  split at h
  · cases h
  · next hone =>
    -- what is ready is this service alone
    obtain ⟨only, honly⟩ := List.length_eq_one_iff.mp hone
    rw [honly] at hk ⊢
    intro k' hk'
    rw [List.mem_singleton.mp hk', ← List.mem_singleton.mp (List.mem_of_getElem? hk)]
    exact hzero
  · -- the sampler has picked a candidate with a weight
    obtain ⟨j, hsample, hj⟩ := Option.map_eq_some_iff.mp h
    obtain rfl : j = i := Option.some.inj hj
    obtain ⟨w, hw, hpos⟩ := sampler.sample_pos _ _ hsample
    rw [List.getElem?_map, hk] at hw
    obtain rfl : weight k = w := Option.some.inj hw
    omega

/-- A check that succeeds changes nothing. -/
theorem services_of_checkSelected {check : K → Readiness} {b : WeightedBalance K}
    (h : (checkSelected check b).1 = true) : (checkSelected check b).2 = b.services := by
  unfold checkSelected at h ⊢
  cases hindex : b.readyIndex with
  | none => rfl
  | some i =>
    rw [hindex] at h
    dsimp only at h ⊢
    unfold ReadyCache.checkReadyIndex at h ⊢
    cases hkey : b.services.ready[i]? with
    | none => rfl
    | some k =>
      rw [hkey] at h
      dsimp only at h ⊢
      cases hcheck : check k with
      | ready => rfl
      | pending => rw [hcheck] at h; cases h
      | failed => rw [hcheck] at h; cases h

/-- It succeeds where the index stands for a service that is ready. -/
theorem checkSelected_of_ready {check : K → Readiness} {b : WeightedBalance K} {i : ℕ} {k : K}
    (hindex : b.readyIndex = some i) (hkey : b.services.ready[i]? = some k)
    (hready : check k = .ready) : (checkSelected check b).1 = true := by
  unfold checkSelected
  rw [hindex]
  dsimp only
  unfold ReadyCache.checkReadyIndex
  rw [hkey]
  dsimp only
  rw [hready]

/-- The balancer has chosen a service with a weight, if one is ready. -/
def HasChosen (weight : K → ℕ) (b : WeightedBalance K) : Prop :=
  (∃ k ∈ b.services.ready, 0 < weight k) → ∃ k, b.dispatched = some k ∧ 0 < weight k

omit [DecidableEq K] in
/-- What its index stands for decides. -/
theorem hasChosen_iff {weight : K → ℕ} {check : K → Readiness} {b : WeightedBalance K}
    (h : Selected check b) : HasChosen weight b ↔ Fresh weight b := by
  obtain ⟨key, hkey, -⟩ := h
  have hindex : ∀ i, b.readyIndex = some i → b.services.ready[i]? = some key := by
    intro i hi
    unfold WeightedBalance.dispatched at hkey
    rw [hi] at hkey
    exact hkey
  constructor
  -- if `k'` has a weight, so has what was chosen, and that is `key`
  · intro hchosen i k hi hk hzero k' hk'
    obtain rfl : key = k := Option.some.inj ((hindex i hi).symm.trans hk)
    by_contra hpos
    obtain ⟨k, hk, hweight⟩ := hchosen ⟨k', hk', Nat.pos_of_ne_zero hpos⟩
    obtain rfl : key = k := Option.some.inj (hkey.symm.trans hk)
    omega
  -- if `key` had no weight, no other ready service would have one
  · rintro hfresh ⟨k', hk', hpos⟩
    refine ⟨key, hkey, Nat.pos_of_ne_zero fun hzero => ?_⟩
    cases hi : b.readyIndex with
    | none =>
      unfold WeightedBalance.dispatched at hkey
      rw [hi] at hkey
      cases hkey
    | some i =>
      have hall := hfresh i key hi (hindex i hi) hzero k' hk'
      omega

/-- **A poll that makes its own selection** chooses a service with a weight. -/
theorem hasChosen_of_fresh {weight : K → ℕ} {check : K → Readiness} {sampler : Sampler} {fuel : ℕ}
    {b : WeightedBalance K} (hfresh : Fresh weight b)
    (h : (pollLoop weight check sampler fuel b).1 = .ready) :
    HasChosen weight (pollLoop weight check sampler fuel b).2 := by
  induction fuel generalizing b with
  | zero => cases h
  | succ fuel ih =>
    rw [pollLoop] at h ⊢
    by_cases hchecked : (checkSelected check b).1 = true
    · rw [if_pos hchecked]
      have hselected := selected_of_checkSelected hchecked
      rw [services_of_checkSelected hchecked] at hselected ⊢
      exact (hasChosen_iff hselected).mpr hfresh
    · rw [if_neg hchecked] at h ⊢
      split at h
      · cases h
      · cases h
      · next i hi => exact ih (fresh_of_readyIndex hi) h

/-! ### Runs -/

/-- What a poll chooses is what it leaves the balancer with. -/
theorem choosesWeight_poll_iff {weight : K → ℕ} {s s' : InUse K} {input : PollInput K}
    (hs' : s'.balancer = (pollReady weight s.balancer input).2) :
    ChoosesWeight weight s (.poll input) s' ↔
      ((pollReady weight s.balancer input).1 = .ready →
        HasChosen weight (pollReady weight s.balancer input).2) := by
  rw [← hs']
  constructor
  · exact fun h => h input rfl
  · intro h input' heq
    cases heq
    exact h

/-- **One step.** A poll fails to choose a service with a weight only in the first round of its
loop. -/
theorem choosesWeight_iff (weight : K → ℕ) {s s' : InUse K} {a : UseAction K}
    (hstep : (balancerInUse weight).step s a s') :
    ChoosesWeight weight s a s' ↔ KeepsWeight weight s a s' := by
  cases a with
  | discover change => exact iff_of_true (by rintro input ⟨⟩) (by rintro input i k ⟨⟩)
  | call => exact iff_of_true (by rintro input ⟨⟩) (by rintro input i k ⟨⟩)
  | poll input =>
    obtain ⟨-, rfl⟩ := hstep
    -- the balancer at the top of the loop
    let b : WeightedBalance K := ⟨s.balancer.updated input, s.balancer.readyIndex⟩
    rw [choosesWeight_poll_iff rfl]
    have hpoll : pollReady weight s.balancer input =
        pollLoop weight input.check input.sampler ((s.balancer.updated input).ready.length + 2) b :=
      rfl
    by_cases hchecked : (checkSelected input.check b).1 = true
    · have hready : pollReady weight s.balancer input = (.ready, b) := by
        rw [hpoll, pollLoop, if_pos hchecked, services_of_checkSelected hchecked]
      have hselected := selected_of_checkSelected hchecked
      rw [services_of_checkSelected hchecked] at hselected
      rw [hready]
      constructor
      · intro h input' i k heq hi hk _ hzero
        cases heq
        exact (hasChosen_iff hselected).mp (h rfl) i k hi hk hzero
      · intro h _
        refine (hasChosen_iff hselected).mpr fun i k hi hk hzero => ?_
        obtain ⟨key, hkey, hpassed⟩ := hselected
        have hdispatched : b.dispatched = some k := by
          unfold WeightedBalance.dispatched
          rw [hi]
          exact hk
        obtain rfl : key = k := Option.some.inj (hkey.symm.trans hdispatched)
        exact h input i key rfl hi hk hpassed hzero
    · refine iff_of_true ?_ ?_
      · rw [hpoll, pollLoop, if_neg hchecked]
        intro h
        split at h
        · cases h
        · cases h
        · next i hi => exact hasChosen_of_fresh (fresh_of_readyIndex hi) h
      · intro input' i k heq hi hk hpassed
        cases heq
        exact absurd (checkSelected_of_ready (b := b) hi hk hpassed) hchecked

/-- **When services without a weight stand by.** In a run, every poll chooses a service with a
weight where one is ready exactly when no poll finds the index of an earlier one standing for a
ready service without a weight, while another has one. -/
theorem chosen_iff (weight : K → ℕ) {tr : List (UseAction K × InUse K)}
    (h : (balancerInUse weight).Run (balancerInUse weight).init tr) :
    System.AllSteps (ChoosesWeight weight) (balancerInUse weight).init tr ↔
      System.AllSteps (KeepsWeight weight) (balancerInUse weight).init tr :=
  h.allSteps_iff (fun _ _ _ (_ : True) hstep => choosesWeight_iff weight hstep)
    (fun _ _ _ _ _ _ => trivial) trivial

/-! ### An index that has come to stand for another service -/

/-- Two providers share the traffic, and a third one stands by. -/
def openAIHalf : WeightedKey := ⟨.openAI, .chat, ⟨5000, Nat.le_of_ble_eq_true rfl⟩⟩

def geminiHalf : WeightedKey := ⟨.googleGemini, .chat, ⟨5000, Nat.le_of_ble_eq_true rfl⟩⟩

def anthropicStandby : WeightedKey := ⟨.anthropic, .chat, .min⟩

/-- The poll in which the given services become ready, and all pass their checks. -/
def promotion (changes : List (Change WeightedKey)) (ready : List WeightedKey) :
    PollInput WeightedKey where
  changes := changes
  completions := ready.map fun key => (key, true)
  check _ := .ready
  sampler := firstPositive

/-- OpenAI stays selected when the service that stands by becomes ready. -/
theorem chosen_iff_standby :
    ∃ tr, tr.length = 4 ∧ System.AllSteps (ChoosesWeight WeightedKey.rawWeight)
      (balancerInUse WeightedKey.rawWeight).init tr := by
  have hrun : (balancerInUse WeightedKey.rawWeight).Run
      (balancerInUse WeightedKey.rawWeight).init
      ((.discover (.insert openAIHalf), _) :: (.discover (.insert anthropicStandby), _) ::
        (.poll (promotion [.insert openAIHalf, .insert anthropicStandby] [openAIHalf]), _) ::
        (.poll (promotion [] [anthropicStandby]), _) :: []) :=
    .cons rfl <| .cons rfl <| .cons ⟨rfl, rfl⟩ <| .cons ⟨rfl, rfl⟩ <| .nil _
  refine ⟨_, rfl, (chosen_iff _ hrun).mpr ⟨?_, ?_, ?_, ?_, trivial⟩⟩
  · rintro input i k ⟨⟩
  · rintro input i k ⟨⟩
  · rintro input i k _ ⟨⟩
  · rintro input i k ⟨⟩ hi hk _ hzero
    obtain rfl : 0 = i := Option.some.inj hi
    obtain rfl : openAIHalf = k := Option.some.inj hk
    cases hzero

/-- **A removal lets a service without a weight through.** OpenAI is selected and removed, and the
service that stands by moves into its place, ahead of Gemini. -/
theorem chosen_fails : ¬ ∀ tr, (balancerInUse WeightedKey.rawWeight).Run
      (balancerInUse WeightedKey.rawWeight).init tr →
    System.AllSteps (ChoosesWeight WeightedKey.rawWeight)
      (balancerInUse WeightedKey.rawWeight).init tr := by
  intro h
  have hrun : (balancerInUse WeightedKey.rawWeight).Run
      (balancerInUse WeightedKey.rawWeight).init
      ((.discover (.insert openAIHalf), _) :: (.discover (.insert geminiHalf), _) ::
        (.discover (.insert anthropicStandby), _) ::
        (.poll (promotion [.insert openAIHalf, .insert geminiHalf, .insert anthropicStandby]
          [openAIHalf, geminiHalf, anthropicStandby]), _) ::
        (.discover (.remove openAIHalf), _) ::
        (.poll (promotion [.remove openAIHalf] []), _) :: []) :=
    .cons rfl <| .cons rfl <| .cons rfl <| .cons ⟨rfl, rfl⟩ <| .cons rfl <| .cons ⟨rfl, rfl⟩ <|
      .nil _
  obtain ⟨k, hk, hpos⟩ := (h _ hrun).2.2.2.2.2.1 _ rfl (by decide)
    ⟨geminiHalf, by decide, by decide⟩
  obtain rfl : anthropicStandby = k := Option.some.inj hk
  exact absurd hpos (by decide)

end AiGateway
