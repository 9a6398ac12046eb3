import AiGateway.Monitor.Exclusion

/-!
# A Retry-After header and the rate limit monitor

An upstream chooses the Retry-After header of its 429s. `extractRetryAfter` never
fails, but the monitor then adds its buffer to the number of seconds, and adding
durations panics when the seconds leave `u64`. The panic ends the monitor's task,
which its supervisor reports as an error of the whole service.

`serving_iff` says which headers do that: those that spell out one of the 30
largest numbers, received while the provider is not rate limited already.
-/

namespace AiGateway

open Transition Tower

variable {K : Type} [DecidableEq K] {parseHttpDate : List Char → Option DateTime}
  {kind : MonitorKind K}

/-- The monitor has not panicked, and once it has handled an event it is ready for
the next one. -/
def Serving (_s : MonitorState K) (a : MonitorAction K) (s' : MonitorState K) : Prop :=
  s'.rate ≠ .panicked ∧ (a = .rateRemoveSent → s'.rate = .idle)

/-- The header of the event about to be handled spells out no number of seconds
that overflows with the buffer of 30. -/
def ShortWait (s : MonitorState K) (a : MonitorAction K) (_s' : MonitorState K) : Prop :=
  a = .rateRemoveSent → ∀ key response, s.rate = .removing key response →
    ¬ SpellsAbove (u64Max - 30) response.retryAfter

/-- **The overflow.** The wait cannot be computed exactly when the header spells out
one of the 30 largest numbers of seconds. -/
theorem restoreWait_eq_none_iff (parseHttpDate : List Char → Option DateTime)
    (response : TooManyRequests) :
    restoreWait (response.event parseHttpDate) = none ↔
      SpellsAbove (u64Max - 30) response.retryAfter := by
  -- in terms of the seconds that are extracted, since a date is never that far
  rw [← extractRetryAfter_gt_iff parseHttpDate (show 8210266876799 ≤ u64Max - 30 by decide)
    response.now response.retryAfter]
  unfold restoreWait rateLimitBuffer
  dsimp only
  rw [Duration.checkedAdd_fromSecs_eq_none]
  change u64Max < ((extractRetryAfter parseHttpDate response.now response.retryAfter).getD
    defaultWaitSeconds).1 + 30 ↔ _
  cases hr : extractRetryAfter parseHttpDate response.now response.retryAfter with
  | none =>
    -- the default wait does not overflow
    refine iff_of_false (by decide) ?_
    rintro ⟨r, hr', -⟩
    cases hr'
  | some seconds =>
    rw [Option.getD_some]
    constructor
    · intro hlt
      exact ⟨seconds, rfl, by unfold u64Max at *; omega⟩
    · rintro ⟨r, hr', hlt⟩
      obtain rfl := Option.some.inj hr'
      unfold u64Max at *
      omega

/-- **One step.** A running monitor keeps serving exactly through the steps with a short wait. -/
theorem serving_step_iff {s s' : MonitorState K} {a : MonitorAction K} {keys : List K}
    (hs : s.rate ≠ .panicked) (hstep : (monitors parseHttpDate kind keys).step s a s') :
    Serving s a s' ↔ ShortWait s a s' := by
  cases hstep with
  | healthCheck key isHealthy hidle =>
    obtain ⟨unhealthy, health, -, -, hframe⟩ := checkHealth_frame s key isHealthy
    rw [hframe]
    exact iff_of_true ⟨hs, fun h => by cases h⟩ (fun h => by cases h)
  | healthRemoveSent key hstage hroom =>
    exact iff_of_true ⟨hs, fun h => by cases h⟩ (fun h => by cases h)
  | healthInsertSent key hstage hroom =>
    exact iff_of_true ⟨hs, fun h => by cases h⟩ (fun h => by cases h)
  | healthFailed key hstage =>
    exact iff_of_true ⟨hs, fun h => by cases h⟩ (fun h => by cases h)
  | rateLimited response hidle =>
    refine iff_of_true ⟨?_, fun h => by cases h⟩ (fun h => by cases h)
    unfold receiveEvent
    split
    · exact fun h => by cases h
    · split
      · exact hs
      · exact fun h => by cases h
  | rateRemoveSent key response hstage hroom =>
    -- the only step that computes with the header
    have hwait := restoreWait_eq_none_iff parseHttpDate response
    unfold Serving scheduleRestore
    cases hw : restoreWait (response.event parseHttpDate) with
    | some timer =>
      rw [hw] at hwait
      refine iff_of_true ⟨(fun h => by cases h), fun _ => rfl⟩ ?_
      intro _ k r hr
      rw [hstage] at hr
      cases hr
      exact fun hspells => by cases hwait.mpr hspells
    | none =>
      refine iff_of_false (fun h => h.1 rfl) ?_
      intro hshort
      exact hshort rfl key response hstage (hwait.mp hw)
  | timerFired before after restore hidle hpending =>
    exact iff_of_true ⟨(fun h => by cases h), fun h => by cases h⟩ (fun h => by cases h)
  | restoreSent restore hstage hroom =>
    exact iff_of_true ⟨(fun h => by cases h), fun h => by cases h⟩ (fun h => by cases h)
  | restoreFailed restore hstage =>
    exact iff_of_true ⟨(fun h => by cases h), fun h => by cases h⟩ (fun h => by cases h)
  | delivered =>
    obtain ⟨-, -, -, -, hr⟩ := deliver_frame s
    refine iff_of_true ⟨?_, fun h => by cases h⟩ (fun h => by cases h)
    rw [hr]
    exact hs

/-- **When the monitor keeps serving.** In a run of the monitors, no computation on a
Retry-After header panics, and every event handled leaves the monitor ready for the
next, exactly when no event is handled whose header spells out one of the 30
largest numbers of seconds. -/
theorem serving_iff (parseHttpDate : List Char → Option DateTime) (kind : MonitorKind K)
    (keys : List K) {tr : List (MonitorAction K × MonitorState K)}
    (hrun : (monitors parseHttpDate kind keys).Run (monitors parseHttpDate kind keys).init tr) :
    System.AllSteps Serving (monitors parseHttpDate kind keys).init tr ↔
      System.AllSteps ShortWait (monitors parseHttpDate kind keys).init tr := by
  have hiff : ∀ s a s', s.rate ≠ .panicked → (monitors parseHttpDate kind keys).step s a s' →
      (Serving s a s' ↔ ShortWait s a s') := fun _ _ _ hs hstep => serving_step_iff hs hstep
  have hkeep : ∀ s a s', s.rate ≠ .panicked → (monitors parseHttpDate kind keys).step s a s' →
      ShortWait s a s' → s'.rate ≠ .panicked :=
    fun _ _ _ hs hstep hshort => ((serving_step_iff hs hstep).mpr hshort).1
  exact hrun.allSteps_iff hiff hkeep (fun h => by cases h)

/-- The bytes of `18446744073709551586`, which is 30 short of `2 ^ 64`. -/
def hugeRetryAfter : List UInt8 :=
  [49, 56, 52, 52, 54, 55, 52, 52, 48, 55, 51, 55, 48, 57, 53, 53, 49, 53, 56, 54]

/-- A 429 of OpenAI with that header. -/
def openAIHugeRetryAfter : TooManyRequests := ⟨.openAI, some hugeRetryAfter, 0⟩

theorem openAIHugeRetryAfter_spells :
    SpellsAbove (u64Max - 30) openAIHugeRetryAfter.retryAfter :=
  ⟨"18446744073709551586".toList, ⟨18446744073709551586, by decide⟩, by decide, by decide,
    by decide⟩

/-- A single 429 with that header stops the monitor. -/
theorem serving_fails :
    ¬ ∀ (parseHttpDate : List Char → Option DateTime) (keys : List Key)
        (tr : List (MonitorAction Key × MonitorState Key)),
      (monitors parseHttpDate latencyMonitor keys).Run
        (monitors parseHttpDate latencyMonitor keys).init tr →
      System.AllSteps Serving (monitors parseHttpDate latencyMonitor keys).init tr := by
  intro h
  let sys := monitors (fun _ => none) latencyMonitor [openAIChat]
  have hreceived : sys.step sys.init (.rateLimited openAIHugeRetryAfter) _ :=
    MonitorStep.rateLimited _ openAIHugeRetryAfter rfl
  have hsent : sys.step (receiveEvent latencyMonitor sys.init openAIHugeRetryAfter)
      .rateRemoveSent _ :=
    MonitorStep.rateRemoveSent _ openAIChat openAIHugeRetryAfter rfl (by decide)
  obtain ⟨-, hserving, -⟩ := h _ _ _ (.cons hreceived (.cons hsent (.nil _)))
  exact (serving_step_iff (fun h => by cases h) hsent).mp hserving rfl openAIChat
    openAIHugeRetryAfter rfl openAIHugeRetryAfter_spells

theorem not_spells_openAIHalfMinute : ¬ SpellsAbove (u64Max - 30) openAIHalfMinute.retryAfter := by
  rintro ⟨cs, r, hcs, hr, hlt⟩
  obtain rfl : "30".toList = cs := Option.some.inj ((by rfl :
    openAIHalfMinute.retryAfter.bind headerToStr = some "30".toList).symm.trans hcs)
  have hthirty : parseU64 "30".toList = some ⟨30, Nat.le_of_ble_eq_true rfl⟩ := by rfl
  obtain rfl := Option.some.inj (hthirty.symm.trans hr)
  exact absurd hlt (by decide)

/-- A 429 that asks for half a minute is handled: the monitor waits, and goes on. -/
theorem serving_iff_half_minute :
    ∃ tr : List (MonitorAction Key × MonitorState Key),
      tr.map Prod.fst = [.rateLimited openAIHalfMinute, .rateRemoveSent] ∧
      (monitors (fun _ => none) latencyMonitor [openAIChat]).Run
        (monitors (fun _ => none) latencyMonitor [openAIChat]).init tr ∧
      System.AllSteps Serving (monitors (fun _ => none) latencyMonitor [openAIChat]).init tr := by
  have hrun : (monitors (fun _ => none) latencyMonitor [openAIChat]).Run
      (monitors (fun _ => none) latencyMonitor [openAIChat]).init
      [(.rateLimited openAIHalfMinute, _), (.rateRemoveSent, _)] :=
    .cons (.rateLimited _ openAIHalfMinute rfl) <|
    .cons (.rateRemoveSent _ openAIChat openAIHalfMinute rfl (by decide)) <|
    .nil _
  refine ⟨_, rfl, hrun, (serving_iff _ _ [openAIChat] hrun).mpr ⟨?_, ?_, trivial⟩⟩
  · intro h
    cases h
  · intro _ key response hr
    obtain ⟨-, rfl⟩ := RateStage.removing.inj hr
    exact not_spells_openAIHalfMinute

end AiGateway
