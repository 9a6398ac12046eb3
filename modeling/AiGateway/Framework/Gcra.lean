import Mathlib.Algebra.Order.Group.Defs
import Mathlib.Algebra.Order.Group.Unbundled.Basic
import Mathlib.Algebra.Order.Monoid.Unbundled.Pow
import Mathlib.Order.MinMax
import Mathlib.Data.List.Basic
import Mathlib.Tactic.Abel
import Mathlib.Tactic.Common

/-!
# The generic cell rate algorithm

The generic cell rate algorithm in its textbook form: over an ordered
commutative group of instants, a limiter remembers one *theoretical arrival
time* (TAT). An arrival at `t` moves the TAT to `max tat t + interval`, and
conforms when the moved TAT lies at most `capacity • interval` ahead of `t`. A
conforming arrival stores the moved TAT, any other leaves it alone.

* `Gcra.window_bound` is the rate guarantee: the arrivals admitted in a closed
  window `[a, b]`, however they are interleaved with denied ones, satisfy
  `n • interval ≤ (b - a) + capacity • interval`. The arrivals need not even be
  in order. The induction carries `n • interval + max tat a`, the TAT seen from
  the start of the window, which every admitted arrival of the window pays into.
* `admitted_eq_greedy` is the converse: nothing else is denied. Arrivals in order are admitted
  exactly when that keeps the bound of every window that starts at an admitted one, so that the
  algorithm is the greedy limiter of this bound. The induction carries what the TAT stands for, the
  latest of the ends of the stacks of admitted arrivals (`Stands`). So arrivals that keep the bound
  by themselves are all admitted (`admitted_eq_self_iff`).
-/

namespace Gcra

section Count

variable {α : Type*} [LinearOrder α]

/-- The number of arrivals, of a list, in the closed window `[a, b]`. -/
def countIn (a b : α) (ts : List α) : ℕ := ts.countP fun t => decide (a ≤ t ∧ t ≤ b)

@[simp] theorem countIn_nil (a b : α) : countIn a b ([] : List α) = 0 := rfl

theorem countIn_cons_of_mem {a b t : α} (h : a ≤ t ∧ t ≤ b) (ts : List α) :
    countIn a b (t :: ts) = countIn a b ts + 1 := by
  unfold countIn
  rw [List.countP_cons_of_pos (by simpa using h)]

theorem countIn_cons_of_not {a b t : α} (h : ¬ (a ≤ t ∧ t ≤ b)) (ts : List α) :
    countIn a b (t :: ts) = countIn a b ts := by
  unfold countIn
  rw [List.countP_cons_of_neg (by simpa using h)]

end Count

variable {α : Type*} [AddCommGroup α] [LinearOrder α]

/-- The parameters of a limiter: the emission interval and the burst. -/
structure Params (α : Type*) where
  interval : α
  capacity : ℕ

/-- The TAT an arrival at `t` moves the limiter to. -/
def newTat (p : Params α) (tat t : α) : α := max tat t + p.interval

/-- An arrival at `t` conforms when its new TAT is at most a full burst ahead. -/
def Conforms (p : Params α) (tat t : α) : Prop :=
  newTat p tat t - p.capacity • p.interval ≤ t

instance (p : Params α) (tat t : α) : Decidable (Conforms p tat t) :=
  inferInstanceAs (Decidable (_ ≤ _))

/-- The TAT after one arrival. -/
def next (p : Params α) (tat t : α) : α :=
  if Conforms p tat t then newTat p tat t else tat

/-- The arrivals, of a list, that are admitted. -/
def admitted (p : Params α) : α → List α → List α
  | _, [] => []
  | tat, t :: ts =>
    if Conforms p tat t then t :: admitted p (newTat p tat t) ts else admitted p tat ts

@[simp] theorem admitted_nil (p : Params α) (tat : α) : admitted p tat [] = [] := rfl

theorem admitted_cons_of_conforms {p : Params α} {tat t : α} (h : Conforms p tat t)
    (ts : List α) : admitted p tat (t :: ts) = t :: admitted p (newTat p tat t) ts :=
  if_pos h

theorem admitted_cons_of_not {p : Params α} {tat t : α} (h : ¬ Conforms p tat t)
    (ts : List α) : admitted p tat (t :: ts) = admitted p tat ts :=
  if_neg h

section Ordered

variable [IsOrderedAddMonoid α] {p : Params α}

theorem le_newTat (hi : 0 ≤ p.interval) (tat t : α) : tat ≤ newTat p tat t :=
  (le_max_left tat t).trans (le_add_of_nonneg_right hi)

/-- **The rate guarantee, as the induction carries it.** As soon as one
arrival of the window is admitted, the intervals of the admitted ones stacked on
the TAT seen from `a` stay within a burst of `b`. -/
theorem countIn_admitted_add_max_le (hi : 0 ≤ p.interval) {a b : α} (ts : List α) :
    ∀ tat, countIn a b (admitted p tat ts) ≠ 0 →
      countIn a b (admitted p tat ts) • p.interval + max tat a
        ≤ b + p.capacity • p.interval := by
  induction ts with
  | nil => intro tat h; exact absurd rfl h
  | cons t ts ih =>
    intro tat h
    by_cases hc : Conforms p tat t
    · rw [admitted_cons_of_conforms hc] at h ⊢
      have hmono : max tat a ≤ max (newTat p tat t) a := max_le_max_right a (le_newTat hi tat t)
      by_cases hw : a ≤ t ∧ t ≤ b
      · rw [countIn_cons_of_mem hw]
        -- the arrival lies in the window, so it pays one interval into the TAT
        have hpay : max tat a + p.interval ≤ newTat p tat t := by
          unfold newTat
          gcongr
          exact hw.1
        by_cases hz : countIn a b (admitted p (newTat p tat t) ts) = 0
        -- the last admitted arrival of the window: its own test bounds the TAT
        · rw [hz, zero_add, one_nsmul, add_comm]
          have hconf : newTat p tat t ≤ t + p.capacity • p.interval := sub_le_iff_le_add.mp hc
          exact hpay.trans (hconf.trans (by gcongr; exact hw.2))
        -- more are to come, and they are counted from a TAT one interval further
        · have hrest := ih (newTat p tat t) hz
          refine le_trans ?_ hrest
          rw [add_nsmul, one_nsmul, add_assoc]
          gcongr
          rw [add_comm]
          exact hpay.trans (le_max_left _ _)
      -- outside the window an arrival only moves the TAT, and it moves it up
      · rw [countIn_cons_of_not hw] at h ⊢
        exact le_trans (by gcongr) (ih _ h)
    -- a denied arrival leaves the limiter as it is
    · rw [admitted_cons_of_not hc] at h ⊢
      exact ih tat h

/-- **The rate guarantee.** In any closed window, the admitted arrivals fit
into the length of the window plus one burst. -/
theorem window_bound (hi : 0 ≤ p.interval) (tat : α) (ts : List α) {a b : α} (hab : a ≤ b) :
    countIn a b (admitted p tat ts) • p.interval ≤ (b - a) + p.capacity • p.interval := by
  by_cases hz : countIn a b (admitted p tat ts) = 0
  · rw [hz, zero_nsmul]
    exact add_nonneg (sub_nonneg.mpr hab) (nsmul_nonneg hi _)
  · have h := countIn_admitted_add_max_le hi ts tat hz
    have ha : countIn a b (admitted p tat ts) • p.interval + a ≤ b + p.capacity • p.interval :=
      le_trans (by gcongr; exact le_max_right tat a) h
    -- the window starts at `a` at the earliest, whatever the TAT was
    calc countIn a b (admitted p tat ts) • p.interval
        ≤ b + p.capacity • p.interval - a := le_sub_iff_add_le.mpr ha
      _ = (b - a) + p.capacity • p.interval := by abel

/-- An arrival no earlier than the TAT conforms, for any positive capacity. -/
theorem conforms_of_le (hi : 0 ≤ p.interval) (hc : 0 < p.capacity) {tat t : α} (h : tat ≤ t) :
    Conforms p tat t := by
  unfold Conforms newTat
  rw [max_eq_right h, sub_le_iff_le_add]
  gcongr
  calc p.interval = 1 • p.interval := (one_nsmul _).symm
    _ ≤ p.capacity • p.interval := nsmul_le_nsmul_left hi hc

/-! ### The greedy limiter -/

/-- An arrival at `t` fits after those that were admitted: with it, every window up to `t` that
starts at one of them holds no more than its length and a burst allow. -/
def Fits (p : Params α) (past : List α) (t : α) : Prop :=
  ∀ a ∈ t :: past, countIn a t (t :: past) • p.interval ≤ (t - a) + p.capacity • p.interval

omit [IsOrderedAddMonoid α] in
instance (p : Params α) (past : List α) (t : α) : Decidable (Fits p past t) :=
  inferInstanceAs (Decidable (∀ a ∈ t :: past, _ ≤ _))

/-- The limiter that admits whatever fits; `past` is what it has admitted, the latest first. -/
def greedy (p : Params α) : List α → List α → List α
  | _, [] => []
  | past, t :: ts =>
    if Fits p past t then t :: greedy p (t :: past) ts else greedy p past ts

/-- What a TAT stands for at and after `clock`: the latest end of the intervals of the admitted
arrivals, stacked from any of them on. The next arrival is stacked on top of them. -/
structure Stands (p : Params α) (clock : α) (past : List α) (tat : α) : Prop where
  past_le : ∀ a ∈ past, a ≤ clock
  newTat_le_iff : ∀ t, clock ≤ t → ∀ x, newTat p tat t ≤ x ↔
    ∀ a ∈ t :: past, a + countIn a t (t :: past) • p.interval ≤ x

omit [IsOrderedAddMonoid α] in
/-- Nothing is stacked on a TAT that has passed. -/
theorem stands_nil {clock tat : α} (htat : tat ≤ clock) : Stands p clock [] tat where
  past_le := fun a ha => absurd ha List.not_mem_nil
  newTat_le_iff := by
    intro t ht x
    have hcount : countIn t t [t] = 1 := countIn_cons_of_mem ⟨le_rfl, le_rfl⟩ []
    rw [List.forall_mem_singleton, hcount, one_nsmul, newTat, max_eq_right (htat.trans ht)]

omit [IsOrderedAddMonoid α] in
theorem Stands.mono {clock clock' tat : α} {past : List α} (h : Stands p clock past tat)
    (hclock : clock ≤ clock') : Stands p clock' past tat where
  past_le a ha := (h.past_le a ha).trans hclock
  newTat_le_iff t ht := h.newTat_le_iff t (hclock.trans ht)

/-- The test of the algorithm is that of the greedy limiter. -/
theorem Stands.conforms_iff {clock tat t : α} {past : List α} (h : Stands p clock past tat)
    (ht : clock ≤ t) : Conforms p tat t ↔ Fits p past t := by
  unfold Conforms Fits
  rw [sub_le_iff_le_add, h.newTat_le_iff t ht]
  refine forall₂_congr fun a _ => ?_
  rw [add_comm a, ← le_sub_iff_add_le, add_sub_right_comm]

omit [AddCommGroup α] [IsOrderedAddMonoid α] in
/-- Where no arrival is later, a window may end later as well. -/
theorem countIn_congr_right {ts : List α} {b b' : α} (hb : ∀ t ∈ ts, t ≤ b) (hbb : b ≤ b') (a : α) :
    countIn a b' ts = countIn a b ts := by
  unfold countIn
  refine List.countP_congr fun t ht => ?_
  rw [decide_eq_true_eq, decide_eq_true_eq, and_iff_left (hb t ht),
    and_iff_left ((hb t ht).trans hbb)]

/-- **An admitted arrival** goes on top of the stacks. -/
theorem Stands.push (hi : 0 ≤ p.interval) {clock tat t : α} {past : List α}
    (h : Stands p clock past tat) (ht : clock ≤ t) : Stands p t (t :: past) (newTat p tat t) := by
  have hpast : ∀ a ∈ t :: past, a ≤ t :=
    List.forall_mem_cons.mpr ⟨le_rfl, fun a ha => (h.past_le a ha).trans ht⟩
  refine ⟨hpast, fun t' ht' x => ?_⟩
  -- an arrival at `t'` adds one interval to each of the stacks
  have hstack : ∀ a ∈ t :: past, a + countIn a t' (t' :: t :: past) • p.interval =
      a + countIn a t (t :: past) • p.interval + p.interval := by
    intro a ha
    rw [countIn_cons_of_mem ⟨(hpast a ha).trans ht', le_rfl⟩, countIn_congr_right hpast ht',
      succ_nsmul, add_assoc]
  have hlater : newTat p (newTat p tat t) t' ≤ x ↔
      (∀ a ∈ t :: past, a + countIn a t' (t' :: t :: past) • p.interval ≤ x) ∧
        t' + p.interval ≤ x := by
    rw [newTat, ← le_sub_iff_add_le, max_le_iff, le_sub_iff_add_le (a := t'),
      h.newTat_le_iff t ht]
    refine and_congr_left fun _ => forall₂_congr fun a ha => ?_
    rw [hstack a ha, le_sub_iff_add_le]
  rw [hlater, and_comm]
  refine Iff.trans (and_congr_left fun hstacks => ?_) List.forall_mem_cons.symm
  have hself : countIn t' t' (t' :: t :: past) = countIn t' t' (t :: past) + 1 :=
    countIn_cons_of_mem ⟨le_rfl, le_rfl⟩ _
  rcases ht'.eq_or_lt with rfl | hlt
  · -- it comes together with the one before, whose stack it tops
    refine iff_of_true ?_ (hstacks t List.mem_cons_self)
    refine le_trans ?_ (hstacks t List.mem_cons_self)
    rw [hself, succ_nsmul]
    gcongr
    exact le_add_of_nonneg_left (nsmul_nonneg hi _)
  · -- it starts a stack of its own
    have hzero : countIn t' t' (t :: past) = 0 := by
      refine List.countP_eq_zero.mpr fun a ha hin => ?_
      exact absurd (of_decide_eq_true hin).1 (not_le.mpr ((hpast a ha).trans_lt hlt))
    rw [hself, hzero, zero_add, one_nsmul]

/-- What is admitted in order, from a TAT and from what it stands for. -/
theorem admitted_eq_greedy_of_stands (hi : 0 ≤ p.interval) (ts : List α) :
    ∀ {clock tat : α} {past : List α}, Stands p clock past tat → (clock :: ts).IsChain (· ≤ ·) →
      admitted p tat ts = greedy p past ts := by
  induction ts with
  | nil => intro clock tat past _ _; rfl
  | cons t ts ih =>
    intro clock tat past h hsorted
    obtain ⟨ht, hrest⟩ := List.isChain_cons_cons.mp hsorted
    unfold greedy
    by_cases hc : Conforms p tat t
    · rw [admitted_cons_of_conforms hc, if_pos ((h.conforms_iff ht).mp hc),
        ih (h.push hi ht) hrest]
    · rw [admitted_cons_of_not hc, if_neg fun hfits => hc ((h.conforms_iff ht).mpr hfits),
        ih (h.mono ht) hrest]

/-- **The algorithm is the greedy limiter.** Of arrivals in order, the first of which finds the TAT
passed, it admits each that keeps the bound of every window. -/
theorem admitted_eq_greedy (hi : 0 ≤ p.interval) {tat : α} {ts : List α}
    (hsorted : (tat :: ts).IsChain (· ≤ ·)) : admitted p tat ts = greedy p [] ts :=
  admitted_eq_greedy_of_stands hi ts (stands_nil le_rfl) hsorted

/-- Every window of the arrivals holds no more than its length and a burst allow. -/
def Bounded (p : Params α) (ts : List α) : Prop :=
  ∀ a b, a ≤ b → countIn a b ts • p.interval ≤ (b - a) + p.capacity • p.interval

/-- An arrival of a bounded list fits after those before it. -/
theorem Bounded.fits (hi : 0 ≤ p.interval) {past ts : List α} {t : α}
    (hbound : Bounded p (past.reverse ++ t :: ts)) (hlast : ∀ a ∈ past, a ≤ t) :
    Fits p past t := by
  intro a ha
  have hat : a ≤ t := by
    rcases List.mem_cons.mp ha with rfl | ha
    · exact le_rfl
    · exact hlast a ha
  have hsub : ((t :: past).reverse).Sublist (past.reverse ++ t :: ts) := by
    rw [List.reverse_cons]
    exact (List.Sublist.refl _).append (List.singleton_sublist.mpr List.mem_cons_self)
  have hcount : countIn a t (t :: past) ≤ countIn a t (past.reverse ++ t :: ts) := by
    unfold countIn
    rw [← List.countP_reverse]
    exact hsub.countP_le
  calc countIn a t (t :: past) • p.interval
      ≤ countIn a t (past.reverse ++ t :: ts) • p.interval := nsmul_le_nsmul_left hi hcount
    _ ≤ (t - a) + p.capacity • p.interval := hbound a t hat

theorem greedy_eq_self_of_bounded (hi : 0 ≤ p.interval) (ts : List α) :
    ∀ past : List α, Bounded p (past.reverse ++ ts) → (past.reverse ++ ts).Pairwise (· ≤ ·) →
      greedy p past ts = ts := by
  induction ts with
  | nil => intro past _ _; rfl
  | cons t ts ih =>
    intro past hbound hsorted
    have hlast : ∀ a ∈ past, a ≤ t := fun a ha =>
      (List.pairwise_append.mp hsorted).2.2 a (List.mem_reverse.mpr ha) t List.mem_cons_self
    have hshift : (t :: past).reverse ++ ts = past.reverse ++ t :: ts := by simp
    unfold greedy
    rw [if_pos (hbound.fits hi hlast), ih (t :: past) (hshift ▸ hbound) (hshift ▸ hsorted)]

/-- **Nothing is denied without need.** Arrivals in order are all admitted exactly when the bound
holds of every window of them. -/
theorem admitted_eq_self_iff (hi : 0 ≤ p.interval) {tat : α} {ts : List α}
    (hsorted : (tat :: ts).IsChain (· ≤ ·)) : admitted p tat ts = ts ↔ Bounded p ts := by
  refine ⟨fun hall a b hab => ?_, fun hbound => ?_⟩
  · have h := window_bound hi tat ts hab
    rwa [hall] at h
  · rw [admitted_eq_greedy hi hsorted]
    exact greedy_eq_self_of_bounded hi ts [] hbound hsorted.pairwise.of_cons

end Ordered

end Gcra
