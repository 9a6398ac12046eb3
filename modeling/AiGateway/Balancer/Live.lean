import AiGateway.Balancer.Weighted

/-!
# What the weighted balancer calls

A run of the weighted balancer as its user sees it: discovery yields changes, `poll_ready` is
called any number of times, and `call` follows a `poll_ready` that returned `Ready(Ok(()))`. The
index chosen by a poll is kept until the next one, while removals and failed checks move the
services behind it, so it may have come to name another service, or none.

* `mem_members_pollLoop`: the loop of `poll_ready` brings in no service;
* `selected_of_pollLoop`: a poll that succeeds leaves an index whose service passed its check in
  that poll, whatever the index stood for before;
* `calls_live_ready`: every call of every run finds a service, which discovery has inserted and not
  removed since, and which passed its check in the poll before the call.
-/

namespace AiGateway

open Transition Tower

variable {K : Type} [DecidableEq K]

/-! ### The code -/

/-- The key of the service that `call` sends the request to. `none` is one of its two panics:
`expect("called before ready")`, or that of `call_ready_index` on an index past the end. -/
def WeightedBalance.dispatched (b : WeightedBalance K) : Option K :=
  match b.readyIndex with
  | some i => b.services.ready[i]?
  | none => none

/-! ### Runs as the user of the balancer sees them -/

/-- A balancer in use. -/
structure InUse (K : Type) where
  balancer : WeightedBalance K
  /-- All changes of discovery so far, in their order. -/
  changes : List (Change K)
  /-- Those that `poll_discover` has still to yield. -/
  queued : List (Change K)
  /-- How the services answered their checks in the `poll_ready` just before, if that returned
  `Ready(Ok(()))`. -/
  granted : Option (K → Readiness)

/-- What happens to a balancer in use. -/
inductive UseAction (K : Type)
  | discover (change : Change K)
  | poll (input : PollInput K)
  | call

/-- The balancer in use. A poll drains discovery; a call comes right after a poll that returned
`Ready(Ok(()))`. -/
def balancerInUse (weight : K → ℕ) : System (InUse K) (UseAction K) where
  init := ⟨⟨ReadyCache.empty, none⟩, [], [], none⟩
  step s a s' :=
    match a with
    | .discover change => s' = ⟨s.balancer, s.changes ++ [change], s.queued ++ [change], none⟩
    | .poll input =>
      input.changes = s.queued ∧
        s' = ⟨(pollReady weight s.balancer input).2, s.changes, [],
          if (pollReady weight s.balancer input).1 = .ready then some input.check else none⟩
    | .call => s.granted.isSome ∧ s' = ⟨s.balancer.call, s.changes, s.queued, none⟩

/-- **Live.** The key has been inserted, and not removed since. -/
def Live (changes : List (Change K)) (key : K) : Prop :=
  ∃ before after, changes = before ++ .insert key :: after ∧ Change.remove key ∉ after

omit [DecidableEq K] in
/-- A key that is inserted is live. -/
theorem Live.insert (changes : List (Change K)) (key : K) :
    Live (changes ++ [.insert key]) key :=
  ⟨changes, [], rfl, List.not_mem_nil⟩

omit [DecidableEq K] in
/-- A key stays live until it is removed. -/
theorem Live.append {changes : List (Change K)} {key : K} (h : Live changes key)
    {change : Change K} (hne : change ≠ .remove key) : Live (changes ++ [change]) key := by
  obtain ⟨before, after, rfl, hafter⟩ := h
  refine ⟨before, after ++ [change], ?_, ?_⟩
  · rw [List.append_assoc, List.cons_append]
  · intro hmem
    rcases List.mem_append.mp hmem with hmem | hmem
    · exact hafter hmem
    · exact hne (List.mem_singleton.mp hmem).symm

/-! ### The services are live -/

/-- Every service of the cache has a live key. -/
def MembersLive (changes : List (Change K)) (c : ReadyCache K) : Prop :=
  ∀ k ∈ c.members, Live changes k

/-- A change keeps the services live: what it inserts is live, and what it removes is gone. -/
theorem MembersLive.apply {changes : List (Change K)} {c : ReadyCache K}
    (h : MembersLive changes c) (change : Change K) :
    MembersLive (changes ++ [change]) (c.apply change) := by
  intro k hk
  cases change with
  | insert key =>
    rcases ReadyCache.mem_members_push.mp hk with rfl | hk
    · exact Live.insert changes k
    · exact (h k hk).append fun heq => by cases heq
  | remove key =>
    obtain ⟨hne, hk⟩ := ReadyCache.mem_members_evict.mp hk
    refine (h k hk).append ?_
    intro heq
    exact hne (Change.remove.inj heq).symm

theorem MembersLive.foldl_apply {c : ReadyCache K} {changes : List (Change K)}
    (h : MembersLive changes c) (more : List (Change K)) :
    MembersLive (changes ++ more) (more.foldl ReadyCache.apply c) := by
  induction more generalizing c changes with
  | nil => rwa [List.append_nil]
  | cons change more ih =>
    rw [List.foldl_cons, List.append_cons]
    exact ih (h.apply change)

/-- Once discovery has been drained, the services are live for all changes so far. -/
theorem MembersLive.updated {changes : List (Change K)} {b : WeightedBalance K}
    (h : MembersLive changes b.services) (input : PollInput K) :
    MembersLive (changes ++ input.changes) (b.updated input) := by
  intro k hk
  exact h.foldl_apply input.changes k (ReadyCache.mem_members_pollPending hk)

theorem mem_members_checkSelected {check : K → Readiness} {b : WeightedBalance K} {k : K}
    (h : k ∈ (checkSelected check b).2.members) : k ∈ b.services.members := by
  unfold checkSelected at h
  split at h
  · exact ReadyCache.mem_members_checkReadyIndex h
  · exact h

/-- The loop of `poll_ready` brings in no service. -/
theorem mem_members_pollLoop {weight : K → ℕ} {check : K → Readiness} {sampler : Sampler}
    {fuel : ℕ} {b : WeightedBalance K} {k : K}
    (h : k ∈ (pollLoop weight check sampler fuel b).2.services.members) :
    k ∈ b.services.members := by
  induction fuel generalizing b with
  | zero => exact h
  | succ fuel ih =>
    rw [pollLoop] at h
    split at h
    · exact mem_members_checkSelected h
    · split at h
      · exact mem_members_checkSelected h
      · exact mem_members_checkSelected h
      · exact mem_members_checkSelected (ih h)

/-- A call takes no service out of the cache and brings none in. -/
theorem mem_members_call {b : WeightedBalance K} {k : K} (h : k ∈ b.call.services.members) :
    k ∈ b.services.members := by
  unfold WeightedBalance.call at h
  split at h
  · exact ReadyCache.mem_members_demote h
  · exact h

/-! ### The selected service is ready -/

/-- The balancer has selected a service that answers its check with `ready`. -/
def Selected (check : K → Readiness) (b : WeightedBalance K) : Prop :=
  ∃ key, b.dispatched = some key ∧ check key = .ready

/-- A check that succeeds changes nothing, and there is a service at the index. -/
theorem selected_of_checkSelected {check : K → Readiness} {b : WeightedBalance K}
    (h : (checkSelected check b).1 = true) :
    Selected check ⟨(checkSelected check b).2, b.readyIndex⟩ := by
  cases hindex : b.readyIndex with
  | none =>
    simp only [checkSelected, hindex] at h
    cases h
  | some i =>
    have hchecked : checkSelected check b = b.services.checkReadyIndex check i := by
      unfold checkSelected
      rw [hindex]
    rw [hchecked] at h ⊢
    unfold ReadyCache.checkReadyIndex at h ⊢
    cases hkey : b.services.ready[i]? with
    -- an index past the end is not ready
    | none => rw [hkey] at h; cases h
    | some key =>
      rw [hkey] at h
      dsimp only at h ⊢
      cases hcheck : check key with
      | ready => exact ⟨key, hkey, hcheck⟩
      | pending => rw [hcheck] at h; cases h
      | failed => rw [hcheck] at h; cases h

/-- **A poll that succeeds selects.** Whatever index the loop starts from, it returns
`Ready(Ok(()))` only with an index whose service has passed its check. -/
theorem selected_of_pollLoop {weight : K → ℕ} {check : K → Readiness} {sampler : Sampler}
    {fuel : ℕ} {b : WeightedBalance K} (h : (pollLoop weight check sampler fuel b).1 = .ready) :
    Selected check (pollLoop weight check sampler fuel b).2 := by
  induction fuel generalizing b with
  | zero => cases h
  | succ fuel ih =>
    rw [pollLoop] at h ⊢
    by_cases hchecked : (checkSelected check b).1 = true
    · rw [if_pos hchecked]
      exact selected_of_checkSelected hchecked
    · rw [if_neg hchecked] at h ⊢
      -- another service is selected and checked in its turn, or the poll does not succeed
      split at h
      · cases h
      · cases h
      · next i hi => exact ih h

/-! ### Runs -/

/-- **The invariant of a balancer in use.** -/
structure InUse.Sound (s : InUse K) : Prop where
  /-- The services are live for the changes that discovery has yielded. -/
  live : ∃ yielded, s.changes = yielded ++ s.queued ∧ MembersLive yielded s.balancer.services
  /-- Before a call, discovery is drained and a service that passed its check is selected. -/
  granted : ∀ check, s.granted = some check → s.queued = [] ∧ Selected check s.balancer

theorem InUse.Sound.init (weight : K → ℕ) : (balancerInUse weight).init.Sound where
  live := ⟨[], rfl, fun _ hk => absurd hk List.not_mem_nil⟩
  granted := by
    intro check h
    cases h

/-- Every step keeps the invariant. -/
theorem InUse.Sound.step {weight : K → ℕ} {s s' : InUse K} {a : UseAction K} (h : s.Sound)
    (hstep : (balancerInUse weight).step s a s') : s'.Sound := by
  obtain ⟨yielded, hchanges, hlive⟩ := h.live
  cases a with
  | discover change =>
    obtain rfl := hstep
    refine ⟨⟨yielded, ?_, hlive⟩, fun check hnone => by cases hnone⟩
    -- the new change is queued behind the others
    change s.changes ++ [change] = yielded ++ (s.queued ++ [change])
    rw [hchanges, List.append_assoc]
  | poll input =>
    obtain ⟨hqueued, rfl⟩ := hstep
    refine ⟨⟨yielded ++ input.changes, ?_, ?_⟩, ?_⟩
    · rw [hqueued, hchanges, List.append_nil]
    · intro k hk
      exact hlive.updated input k (mem_members_pollLoop hk)
    · intro check hgranted
      dsimp only at hgranted
      split at hgranted
      · next hready =>
        obtain rfl := Option.some.inj hgranted
        exact ⟨rfl, selected_of_pollLoop hready⟩
      · cases hgranted
  | call =>
    obtain ⟨-, rfl⟩ := hstep
    refine ⟨⟨yielded, hchanges, ?_⟩, fun check hnone => by cases hnone⟩
    intro k hk
    exact hlive k (mem_members_call hk)

/-- What a call has to find: a service, with a live key, that passed its check in the poll before
the call. -/
def InUse.CallsLiveReady (s : InUse K) : Prop :=
  ∃ key check, s.balancer.dispatched = some key ∧ Live s.changes key ∧
    s.granted = some check ∧ check key = .ready

omit [DecidableEq K] in
/-- The service at the selected index is one of the services. -/
theorem mem_members_of_dispatched {b : WeightedBalance K} {key : K}
    (h : b.dispatched = some key) : key ∈ b.services.members := by
  unfold WeightedBalance.dispatched at h
  split at h
  · exact ReadyCache.mem_members.mpr (Or.inl (List.mem_of_getElem? h))
  · cases h

omit [DecidableEq K] in
theorem InUse.Sound.callsLiveReady {s : InUse K} (h : s.Sound) (hgranted : s.granted.isSome) :
    s.CallsLiveReady := by
  obtain ⟨check, hcheck⟩ := Option.isSome_iff_exists.mp hgranted
  obtain ⟨hqueued, key, hkey, hready⟩ := h.granted check hcheck
  obtain ⟨yielded, hchanges, hlive⟩ := h.live
  refine ⟨key, check, hkey, ?_, hcheck, hready⟩
  -- nothing is queued, so the services are live for all changes
  rw [hchanges, hqueued, List.append_nil]
  exact hlive key (mem_members_of_dispatched hkey)

/-- **The weighted balancer calls live and ready services.** In every run, whatever discovery
inserts and removes, whatever the services answer and however the selection falls, each call finds
a service at the selected index, its key is inserted and not removed since, and it passed its check
in the poll right before. -/
theorem calls_live_ready {weight : K → ℕ} {tr : List (UseAction K × InUse K)}
    (h : (balancerInUse weight).Run (balancerInUse weight).init tr) :
    System.AllSteps (fun s a _ => a = .call → s.CallsLiveReady) (balancerInUse weight).init tr := by
  refine h.allSteps (fun _ _ _ hsound hstep => hsound.step hstep) ?_ (InUse.Sound.init weight)
  intro s a s' hsound hstep hcall
  subst hcall
  obtain ⟨hgranted, -⟩ := hstep
  exact hsound.callsLiveReady hgranted

/-- The poll in which three services arrive. -/
def threeArrive : PollInput ℕ where
  changes := [.insert 0, .insert 1, .insert 2]
  completions := [(0, true), (1, true), (2, true)]
  check _ := .ready
  sampler := firstPositive

/-- The poll in which the first of them, which is selected, leaves. -/
def firstLeaves : PollInput ℕ where
  changes := [.remove 0]
  completions := []
  check _ := .ready
  sampler := firstPositive

/-- The balancer once it has left. -/
def beforeCall : InUse ℕ where
  balancer := (pollReady (fun _ => 1)
    (pollReady (fun _ => 1) ⟨ReadyCache.empty, none⟩ threeArrive).2 firstLeaves).2
  changes := [.insert 0, .insert 1, .insert 2, .remove 0]
  queued := []
  granted := some fun _ => .ready

/-- The selected service is removed, and its index is that of the last one. -/
theorem calls_live_ready_removal : beforeCall.balancer.dispatched = some 2 ∧ ∃ tr,
    (balancerInUse fun _ : ℕ => 1).Run (balancerInUse fun _ => 1).init tr ∧
      System.finalState (balancerInUse fun _ => 1).init tr = beforeCall ∧
      beforeCall.CallsLiveReady := by
  have harrived : (balancerInUse fun _ : ℕ => 1).Run (balancerInUse fun _ => 1).init
      [(.discover (.insert 0), _), (.discover (.insert 1), _), (.discover (.insert 2), _),
        (.poll threeArrive, _), (.discover (.remove 0), _), (.poll firstLeaves, beforeCall)] :=
    .cons rfl <| .cons rfl <| .cons rfl <| .cons ⟨rfl, rfl⟩ <| .cons rfl <| .cons ⟨rfl, rfl⟩ <|
    .nil _
  have hcall : (balancerInUse fun _ : ℕ => 1).step beforeCall .call
      ⟨beforeCall.balancer.call, beforeCall.changes, [], none⟩ := ⟨rfl, rfl⟩
  have hall := (calls_live_ready (harrived.append (.cons hcall (.nil _)))).2.2.2.2.2.2.1 rfl
  exact ⟨by decide, _, harrived, rfl, hall⟩

end AiGateway
