import AiGateway.Monitor.System

/-!
# Removed providers and the balancer

Is a provider that a monitor has removed really out of the balancer? `Excluded`
says so of a state: once every change already sent has been applied, no key of
either monitor's set is left among the services.

Each monitor keeps this for its own set, since it sends the removal before it
records a key and forgets the key before, or as, it sends the insertion. Neither
looks at the set of the other, so the one that recovers first puts the provider
back. `excluded_iff` shows that this is the only way to lose the property.
-/

namespace AiGateway

open Transition Tower

variable {K : Type} [DecidableEq K] {parseHttpDate : List Char → Option DateTime}
  {kind : MonitorKind K}

/-- No key that a monitor has removed is in the balancer, once every change
already sent has been applied. -/
def Excluded (s : MonitorState K) : Prop :=
  ∀ key, key ∈ s.unhealthyKeys ∨ key ∈ s.rateLimitedProviders → key ∉ s.drained

/-- A monitor puts a key back only while the other one does not hold it. -/
def AloneInsert (s : MonitorState K) (a : MonitorAction K) (_s' : MonitorState K) : Prop :=
  match a with
  | .healthInsertSent => ∀ key, s.health = .inserting key → key ∉ s.rateLimitedProviders
  | .restoreSent => ∀ restore, s.rate = .restoring restore → restore.key ∉ s.unhealthyKeys
  | _ => True

/-- What carries the comparison: besides the exclusion, the health monitor has
forgotten the key it is about to insert. -/
structure ExclusionInv (s : MonitorState K) : Prop where
  excluded : Excluded s
  forgotten : ∀ key, s.health = .inserting key → key ∉ s.unhealthyKeys

theorem exclusionInv_init (keys : List K) :
    ExclusionInv (monitors parseHttpDate kind keys).init where
  excluded := by
    rintro key (h | h)
    · exact absurd h (Finset.notMem_empty key)
    · exact absurd h (Finset.notMem_empty key)
  forgotten := by intro key h; cases h

/-! ### Changes of the sets -/

/-- Fewer removed keys and the same services keep the exclusion. -/
theorem Excluded.of_subset {s s' : MonitorState K} (h : Excluded s)
    (hu : s'.unhealthyKeys ⊆ s.unhealthyKeys)
    (hr : s'.rateLimitedProviders ⊆ s.rateLimitedProviders) (hd : s'.drained = s.drained) :
    Excluded s' := by
  intro key hkey
  rw [hd]
  exact h key (hkey.imp (fun hk => hu hk) (fun hk => hr hk))

/-- Sending a removal keeps the exclusion, with the key removed on either side. -/
theorem Excluded.of_remove {s s' : MonitorState K} (h : Excluded s) {key : K}
    (hu : s'.unhealthyKeys ⊆ insert key s.unhealthyKeys)
    (hr : s'.rateLimitedProviders ⊆ insert key s.rateLimitedProviders)
    (hd : s'.drained = s.drained.erase key) : Excluded s' := by
  intro k hk hmem
  rw [hd] at hmem
  obtain ⟨hne, hmem⟩ := Finset.mem_erase.mp hmem
  refine h k (hk.imp (fun hk => ?_) (fun hk => ?_)) hmem
  · exact (Finset.mem_insert.mp (hu hk)).resolve_left hne
  · exact (Finset.mem_insert.mp (hr hk)).resolve_left hne

/-- Sending an insertion keeps the exclusion exactly when nobody holds the key. -/
theorem excluded_insert_iff {s s' : MonitorState K} (h : Excluded s) (key : K)
    (hu : s'.unhealthyKeys ⊆ s.unhealthyKeys)
    (hr : s'.rateLimitedProviders ⊆ s.rateLimitedProviders)
    (hd : s'.drained = insert key s.drained) :
    Excluded s' ↔ key ∉ s'.unhealthyKeys ∧ key ∉ s'.rateLimitedProviders := by
  constructor
  · intro hex
    have hin : key ∈ s'.drained := by rw [hd]; exact Finset.mem_insert_self key _
    exact ⟨fun hk => hex key (Or.inl hk) hin, fun hk => hex key (Or.inr hk) hin⟩
  · rintro ⟨hnu, hnr⟩ k hk hmem
    rw [hd] at hmem
    rcases Finset.mem_insert.mp hmem with rfl | hmem
    · exact hk.elim hnu hnr
    · exact h k (hk.imp (fun hk => hu hk) (fun hk => hr hk)) hmem

/-! ### Steps -/

/-- **One step.** From a state that excludes what was removed, a step leads to
another one exactly when it is no insertion behind the other monitor's back. -/
theorem ExclusionInv.step_iff {s s' : MonitorState K} {a : MonitorAction K} {keys : List K}
    (hs : ExclusionInv s) (hstep : (monitors parseHttpDate kind keys).step s a s') :
    Excluded s' ↔ AloneInsert s a s' := by
  have hex := hs.excluded
  cases hstep with
  | healthCheck key isHealthy hidle =>
    obtain ⟨unhealthy, health, hsub, -, hframe⟩ := checkHealth_frame s key isHealthy
    rw [hframe]
    exact iff_of_true (hex.of_subset hsub subset_rfl rfl) trivial
  | healthRemoveSent key hstage hroom =>
    refine iff_of_true ?_ trivial
    exact hex.of_remove subset_rfl (Finset.subset_insert _ _) (drained_send s (.remove key))
  | healthInsertSent key hstage hroom =>
    -- the health monitor has forgotten the key, so only the other one can hold it
    refine Iff.trans (excluded_insert_iff hex key ?_ ?_ ?_) ⟨fun h => ?_, fun h => ?_⟩
    · exact subset_rfl
    · exact subset_rfl
    · exact drained_send s (.insert key)
    · intro k hk
      rw [hstage] at hk
      cases hk
      exact h.2
    · exact ⟨hs.forgotten key hstage, h key hstage⟩
  | healthFailed key hstage => exact iff_of_true (hex.of_subset subset_rfl subset_rfl rfl) trivial
  | rateLimited response hidle =>
    obtain ⟨rate, hframe⟩ := receiveEvent_frame s response
    rw [hframe]
    exact iff_of_true (hex.of_subset subset_rfl subset_rfl rfl) trivial
  | rateRemoveSent key response hstage hroom =>
    obtain ⟨limited, pending, rate, hlimited, hframe⟩ :=
      scheduleRestore_frame (s.send (.remove key)) key response
    rw [hframe]
    exact iff_of_true
      (hex.of_remove (Finset.subset_insert _ _) hlimited (drained_send s (.remove key))) trivial
  | timerFired before after restore hidle hpending =>
    exact iff_of_true (hex.of_subset subset_rfl subset_rfl rfl) trivial
  | restoreSent restore hstage hroom =>
    -- the rate limit monitor forgets the key in this very step
    refine Iff.trans (excluded_insert_iff hex restore.key ?_ ?_ ?_) ⟨fun h => ?_, fun h => ?_⟩
    · exact subset_rfl
    · exact Finset.erase_subset _ _
    · exact drained_send s (.insert restore.key)
    · intro r hr
      rw [hstage] at hr
      cases hr
      exact h.1
    · exact ⟨h restore hstage, Finset.notMem_erase _ _⟩
  | restoreFailed restore hstage =>
    exact iff_of_true (hex.of_subset subset_rfl subset_rfl rfl) trivial
  | delivered =>
    obtain ⟨hu, -, hr, -, -⟩ := deliver_frame s
    exact iff_of_true (hex.of_subset hu.subset hr.subset (drained_deliver s)) trivial

/-- The key being inserted stays forgotten. -/
theorem ExclusionInv.step {s s' : MonitorState K} {a : MonitorAction K} {keys : List K}
    (hs : ExclusionInv s) (hstep : (monitors parseHttpDate kind keys).step s a s')
    (halone : AloneInsert s a s') : ExclusionInv s' := by
  refine ⟨(hs.step_iff hstep).mpr halone, ?_⟩
  have hforgot := hs.forgotten
  cases hstep with
  | healthCheck key isHealthy hidle =>
    obtain ⟨unhealthy, health, -, hforgets, hframe⟩ := checkHealth_frame s key isHealthy
    rw [hframe]
    -- the monitor was idle, so the key it inserts now is one that this check forgot
    intro k hk
    refine (hforgets k hk).resolve_left fun hstage => ?_
    rw [hidle] at hstage
    cases hstage
  | healthRemoveSent key hstage hroom => intro k hk; cases hk
  | healthInsertSent key hstage hroom => intro k hk; cases hk
  | healthFailed key hstage => intro k hk; cases hk
  -- the rate limit monitor leaves both alone
  | rateLimited response hidle =>
    obtain ⟨rate, hframe⟩ := receiveEvent_frame s response
    rw [hframe]
    exact hforgot
  | rateRemoveSent key response hstage hroom =>
    obtain ⟨limited, pending, rate, -, hframe⟩ :=
      scheduleRestore_frame (s.send (.remove key)) key response
    rw [hframe]
    exact hforgot
  | timerFired before after restore hidle hpending => exact hforgot
  | restoreSent restore hstage hroom => exact hforgot
  | restoreFailed restore hstage => exact hforgot
  | delivered =>
    obtain ⟨hu, hh, -, -, -⟩ := deliver_frame s
    rw [hu, hh]
    exact hforgot

/-- **When removed providers stay out.** In a run, every state keeps the removed
keys out of the balancer exactly when neither monitor ever puts a key back
that the other one holds. -/
theorem excluded_iff (keys : List K) {tr : List (MonitorAction K × MonitorState K)}
    (hrun : (monitors parseHttpDate kind keys).Run (monitors parseHttpDate kind keys).init tr) :
    System.AllStates Excluded (monitors parseHttpDate kind keys).init tr ↔
      System.AllSteps AloneInsert (monitors parseHttpDate kind keys).init tr := by
  have hinit : ExclusionInv (monitors parseHttpDate kind keys).init := exclusionInv_init keys
  have hiff : ∀ s a s', ExclusionInv s → (monitors parseHttpDate kind keys).step s a s' →
      (Excluded s' ↔ AloneInsert s a s') := fun _ _ _ hs hstep => hs.step_iff hstep
  have hkeep : ∀ s a s', ExclusionInv s → (monitors parseHttpDate kind keys).step s a s' →
      AloneInsert s a s' → ExclusionInv s' := fun _ _ _ hs hstep halone => hs.step hstep halone
  rw [System.allStates_iff, and_iff_right hinit.excluded]
  exact hrun.allSteps_iff hiff hkeep hinit

/-! ### The monitors race -/

/-- The chat key of OpenAI. -/
def openAIChat : Key := ⟨.openAI, .chat⟩

/-- A 429 of OpenAI without a Retry-After header. -/
def openAITooManyRequests : TooManyRequests := ⟨.openAI, none, 0⟩

/-- One that asks for 30 seconds. -/
def openAIHalfMinute : TooManyRequests := ⟨.openAI, some [51, 48], 0⟩

/-- The restore it schedules, after 30 seconds and the buffer of another 30. -/
def openAIRestore : ProviderRestore Key :=
  ⟨openAIChat, .openAI, Duration.fromSecs 60 (by decide)⟩

/-- OpenAI is rate limited, then found unhealthy, and then its timer fires: it is
back in the balancer while the health monitor still holds it. -/
theorem excluded_fails :
    ¬ ∀ (parseHttpDate : List Char → Option DateTime) (keys : List Key)
        (tr : List (MonitorAction Key × MonitorState Key)),
      (monitors parseHttpDate latencyMonitor keys).Run
        (monitors parseHttpDate latencyMonitor keys).init tr →
      System.AllStates Excluded (monitors parseHttpDate latencyMonitor keys).init tr := by
  intro h
  have hrun : (monitors (fun _ => none) latencyMonitor [openAIChat]).Run
      (monitors (fun _ => none) latencyMonitor [openAIChat]).init _ :=
    .cons (.delivered _) <|
    .cons (.rateLimited _ openAITooManyRequests rfl) <|
    .cons (.rateRemoveSent _ openAIChat openAITooManyRequests rfl (by decide)) <|
    .cons (.healthCheck _ openAIChat false rfl) <|
    .cons (.healthRemoveSent _ openAIChat rfl (by decide)) <|
    .cons (.timerFired _ [] [] openAIRestore rfl rfl) <|
    .cons (.restoreSent _ openAIRestore rfl (by decide)) <|
    .nil _
  have hlast := (h _ _ _ hrun).finalState
  exact hlast openAIChat (Or.inl (by decide)) (by decide)

/-- Rate limited and restored while the health monitor is quiet, OpenAI is never in
the balancer and removed at once. -/
theorem excluded_iff_restored :
    ∃ tr : List (MonitorAction Key × MonitorState Key), tr.length = 5 ∧
      System.AllStates Excluded (monitors (fun _ => none) latencyMonitor [openAIChat]).init tr := by
  have hrun : (monitors (fun _ => none) latencyMonitor [openAIChat]).Run
      (monitors (fun _ => none) latencyMonitor [openAIChat]).init _ :=
    .cons (.delivered _) <|
    .cons (.rateLimited _ openAITooManyRequests rfl) <|
    .cons (.rateRemoveSent _ openAIChat openAITooManyRequests rfl (by decide)) <|
    .cons (.timerFired _ [] [] openAIRestore rfl rfl) <|
    .cons (.restoreSent _ openAIRestore rfl (by decide)) <|
    .nil _
  refine ⟨_, ?_, (excluded_iff [openAIChat] hrun).mpr
    ⟨trivial, trivial, trivial, trivial, ?_, trivial⟩⟩
  · rfl
  · intro restore _
    exact Finset.notMem_empty _

end AiGateway
