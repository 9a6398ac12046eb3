import AiGateway.RateLimit.Rate

/-!
# The Redis limiter denies nothing without need

`RateLimit/Rate` bounds what the limiter admits from above. Here it is bounded from below: with a
time to live that Redis accepts, the requests that a run charges to their key, by a `SETEX`, are
exactly those the greedy limiter of the rate bound takes.

* `chargedTimes_eq_greedy`: a request is charged if and only if that keeps every window that starts
  at a charged one within its bound. The store tracks the TAT of the cell rate algorithm
  (`Tracks.step`), and that algorithm is the greedy limiter (`Gcra.admitted_eq_greedy`).
* `neverDenied_iff`: a client is never denied exactly when the windows of all its requests keep the
  bound, whatever entries have expired meanwhile.
-/

namespace AiGateway

open Transition

variable {gcra : GcraConfig}

/-- The request writes its TAT. -/
def AfterGet.isCharge : AfterGet → Bool
  | setEx _ _ => true
  | respond _ => false

/-- A request at `nowMs` is charged to its key. -/
def charges (gcra : GcraConfig) (store : Option Entry) (nowMs : ℤ) : Bool :=
  (afterGet gcra (get store nowMs) nowMs).isCharge

/-- The times of the requests of a run that are charged. -/
def chargedTimes (gcra : GcraConfig) : LimiterState → List (Timestamp × LimiterState) → List ℤ
  | _, [] => []
  | s, (now, s') :: tr =>
    if charges gcra s.store now.ms then now.ms :: chargedTimes gcra s' tr
    else chargedTimes gcra s' tr

/-- The request is answered with 429. -/
def Outcome.isDenied : Outcome → Bool
  | .tooManyRequests _ _ _ => true
  | _ => false

/-- No request of a run is answered with 429. -/
def NeverDenied (gcra : GcraConfig) : LimiterState → List (Timestamp × LimiterState) → Prop :=
  System.AllSteps fun s now _ => (makeRequest gcra s.store now.ms).2.isDenied = false

/-- The times of the requests of a run. -/
def requestTimes (tr : List (Timestamp × LimiterState)) : List ℤ := tr.map fun p => p.1.ms

@[simp] theorem requestTimes_cons (p : Timestamp × LimiterState)
    (tr : List (Timestamp × LimiterState)) :
    requestTimes (p :: tr) = p.1.ms :: requestTimes tr := rfl

/-- A time to live that is accepted at the last timestamp is accepted at every one. -/
theorem SetExAccepts.of_last (ha : SetExAccepts gcra maxTimestamp) (now : Timestamp) :
    SetExAccepts gcra now.ms := ha.mono now.le_max

/-- A request is charged when it conforms. -/
theorem charges_iff {now : Timestamp} (ha : SetExAccepts gcra now.ms) (store : Option Entry) :
    charges gcra store now.ms = true ↔
      Gcra.Conforms (cellRate gcra) (tatAt store now.ms) now.ms := by
  unfold charges
  by_cases hc : Gcra.Conforms (cellRate gcra) (tatAt store now.ms) now.ms
  · rw [afterGet_of_conforms ha store hc]
    exact iff_of_true rfl hc
  · obtain ⟨outcome, houtcome⟩ := afterGet_of_not ha.burstFits store now hc
    rw [houtcome]
    exact iff_of_false Bool.false_ne_true hc

/-- What is not charged is denied, and is not denied if it is charged. -/
theorem isDenied_eq {now : Timestamp} (ha : SetExAccepts gcra now.ms) (store : Option Entry) :
    (makeRequest gcra store now.ms).2.isDenied = !charges gcra store now.ms := by
  by_cases hc : Gcra.Conforms (cellRate gcra) (tatAt store now.ms) now.ms
  · rw [(charges_iff ha store).mpr hc, makeRequest_of_conforms ha store hc]
    dsimp only
    -- a charged request may still panic in its header
    split <;> rfl
  · obtain ⟨secs, hdenied⟩ := makeRequest_of_not ha.burstFits store now hc
    rw [Bool.eq_false_iff.mpr fun hch => hc ((charges_iff ha store).mp hch), hdenied]
    rfl

theorem chargedTimes_sublist (gcra : GcraConfig) (s : LimiterState)
    (tr : List (Timestamp × LimiterState)) :
    (chargedTimes gcra s tr).Sublist (requestTimes tr) := by
  induction tr generalizing s with
  | nil => exact List.Sublist.slnil
  | cons p tr ih =>
    obtain ⟨now, s'⟩ := p
    unfold chargedTimes
    split
    · exact (ih s').cons_cons _
    · exact (ih s').cons _

/-- The times of a run never go back. -/
theorem requestTimes_isChain {s : LimiterState} {tr : List (Timestamp × LimiterState)}
    (hrun : (limiter gcra).Run s tr) : (s.clock :: requestTimes tr).IsChain (· ≤ ·) := by
  induction hrun with
  | nil s => exact List.isChain_singleton _
  | @cons s s' now tr hstep _ ih =>
    obtain ⟨hclock, rfl⟩ := hstep
    exact List.isChain_cons_cons.mpr ⟨hclock, ih⟩

/-- **Refinement.** What a run charges is what the cell rate algorithm admits, from the TAT that the
store stands for. -/
theorem chargedTimes_eq_admitted
    (haccepts : SetExAccepts gcra maxTimestamp)
    {s : LimiterState} {tr : List (Timestamp × LimiterState)} (hrun : (limiter gcra).Run s tr) :
    ∀ tat, Tracks gcra s tat →
      chargedTimes gcra s tr = Gcra.admitted (cellRate gcra) tat (requestTimes tr) := by
  induction hrun with
  | nil s => intro tat _; rfl
  | @cons s s' now tr hstep _ ih =>
    intro tat ht
    have ha := haccepts.of_last now
    have hrest := ih _ (ht.step ha hstep)
    have hiff := (charges_iff ha s.store).trans (ht.conforms_iff hstep.1)
    unfold chargedTimes
    by_cases hc : Gcra.Conforms (cellRate gcra) tat now.ms
    · rw [Gcra.next, if_pos hc] at hrest
      rw [if_pos (hiff.mpr hc), hrest]
      exact (Gcra.admitted_cons_of_conforms hc _).symm
    · rw [Gcra.next, if_neg hc] at hrest
      rw [if_neg (fun hch => hc (hiff.mp hch)), hrest]
      exact (Gcra.admitted_cons_of_not hc _).symm

/-- **The limiter is the greedy one.** In every run, a request is charged exactly when every window
that starts at it or at a charged request before it, and ends with it, holds no more than a burst
and its length refills. -/
theorem chargedTimes_eq_greedy
    (haccepts : SetExAccepts gcra maxTimestamp)
    {tr : List (Timestamp × LimiterState)} (hrun : (limiter gcra).Run (limiter gcra).init tr) :
    chargedTimes gcra (limiter gcra).init tr =
      Gcra.greedy (cellRate gcra) [] (requestTimes tr) := by
  rw [chargedTimes_eq_admitted haccepts hrun 0 (tracks_init gcra)]
  exact Gcra.admitted_eq_greedy (emissionInterval_nonneg gcra) (requestTimes_isChain hrun)

/-- All requests of a run are charged if none is denied. -/
theorem neverDenied_iff_charged (haccepts : SetExAccepts gcra maxTimestamp) (s : LimiterState)
    (tr : List (Timestamp × LimiterState)) :
    NeverDenied gcra s tr ↔ chargedTimes gcra s tr = requestTimes tr := by
  induction tr generalizing s with
  | nil => exact iff_of_true trivial rfl
  | cons p tr ih =>
    obtain ⟨now, s'⟩ := p
    have hfirst := isDenied_eq (haccepts.of_last now) s.store
    unfold NeverDenied at ih ⊢
    rw [System.allSteps_cons, hfirst, ih, requestTimes_cons, chargedTimes]
    by_cases hch : charges gcra s.store now.ms = true
    · rw [if_pos hch, hch]
      exact (and_iff_right rfl).trans (List.cons_inj_right _).symm
    · -- a request that is left out makes the list too short
      rw [if_neg hch]
      refine iff_of_false (fun hboth => hch ?_) fun hall => ?_
      · simpa using hboth.1
      · have hlen := (chargedTimes_sublist gcra s' tr).length_le
        rw [hall, List.length_cons] at hlen
        omega

/-- **No client that keeps to its rate is denied**, and every other one is, at some request. -/
theorem neverDenied_iff
    (haccepts : SetExAccepts gcra maxTimestamp)
    {tr : List (Timestamp × LimiterState)} (hrun : (limiter gcra).Run (limiter gcra).init tr) :
    NeverDenied gcra (limiter gcra).init tr ↔
      Gcra.Bounded (cellRate gcra) (requestTimes tr) := by
  rw [neverDenied_iff_charged haccepts, chargedTimes_eq_admitted haccepts hrun 0 (tracks_init gcra)]
  exact Gcra.admitted_eq_self_iff (emissionInterval_nonneg gcra) (requestTimes_isChain hrun)

end AiGateway
