import Mathlib.Algebra.BigOperators.Group.Finset.Basic
import Mathlib.Algebra.BigOperators.Ring.Finset
import Mathlib.Algebra.BigOperators.Fin
import Mathlib.Tactic.Common

/-!
# Counters that are reset when their turn comes

A ring of counters over a bounded arithmetic, each stamped with the lap it counts. A
mark at a lap other than the stamp empties the counter first, so a counter is cleared
only when it is used again. Marks that come with laps in order are counted exactly,
up to the bound of the arithmetic: `count_marks`.
-/

/-- Counters, and the lap each one counts. -/
structure Stamped (ι : Type*) where
  counters : ι → ℕ
  laps : ι → ℕ

namespace Stamped

variable {ι : Type*} [DecidableEq ι]

/-- No mark yet. -/
def zero : Stamped ι := ⟨fun _ => 0, fun _ => 0⟩

/-- A mark in counter `i` at a lap, in arithmetic modulo `m`. -/
def mark (m : ℕ) (c : Stamped ι) (p : ι × ℕ) : Stamped ι where
  counters := Function.update c.counters p.1
    (((if c.laps p.1 = p.2 then c.counters p.1 else 0) + 1) % m)
  laps := Function.update c.laps p.1 p.2

/-- The marks of one lap. -/
def count [Fintype ι] (m : ℕ) (c : Stamped ι) (lap : ℕ) : ℕ :=
  (∑ i, if c.laps i = lap then c.counters i else 0) % m

/-- What the counters know of the marks so far: no mark is newer than its counter's
stamp, a stamp is a mark's or the first one, and a counter has the marks of its lap. -/
structure Counts (m : ℕ) (c : Stamped ι) (marks : List (ι × ℕ)) : Prop where
  le : ∀ p ∈ marks, p.2 ≤ c.laps p.1
  known : ∀ i, c.laps i = 0 ∨ ∃ p ∈ marks, p.2 = c.laps i
  counters : ∀ i, c.counters i = marks.countP (fun p => p.1 = i ∧ p.2 = c.laps i) % m

theorem counts_zero (m : ℕ) : Counts m (zero : Stamped ι) [] where
  le := by simp
  known _ := Or.inl rfl
  counters _ := (Nat.zero_mod m).symm

variable {m : ℕ} {c : Stamped ι} {marks : List (ι × ℕ)}

/-- A stamp is at most a lap that no mark is past. -/
theorem Counts.laps_le (h : c.Counts m marks) {lap : ℕ} (hlap : ∀ p ∈ marks, p.2 ≤ lap) (i : ι) :
    c.laps i ≤ lap := by
  obtain h0 | ⟨p, hp, hpi⟩ := h.known i
  · rw [h0]
    exact Nat.zero_le lap
  · rw [← hpi]
    exact hlap p hp

/-- A counter whose stamp is not the latest lap has no mark of that lap. -/
theorem Counts.countP_eq_zero (h : c.Counts m marks) {lap : ℕ} (hlap : ∀ p ∈ marks, p.2 ≤ lap)
    {i : ι} (hi : c.laps i ≠ lap) : marks.countP (fun p => p.1 = i ∧ p.2 = lap) = 0 := by
  rw [List.countP_eq_zero]
  intro p hp hpi
  have hpi : p.1 = i ∧ p.2 = lap := of_decide_eq_true hpi
  apply hi (Nat.le_antisymm (h.laps_le hlap i) _)
  have hle : p.2 ≤ c.laps p.1 := h.le p hp
  rwa [hpi.1, hpi.2] at hle

/-- A mark that is not behind the others keeps what the counters know. -/
theorem Counts.mark (h : c.Counts m marks) {q : ι × ℕ} (hq : ∀ p ∈ marks, p.2 ≤ q.2) :
    (c.mark m q).Counts m (marks ++ [q]) where
  le p hp := by
    obtain hp | hp := List.mem_append.1 hp
    -- an old mark may be of the counter that moved
    · change p.2 ≤ Function.update c.laps q.1 q.2 p.1
      by_cases hpq : p.1 = q.1
      · rw [hpq, Function.update_self]
        exact hq p hp
      · rw [Function.update_of_ne hpq]
        exact h.le p hp
    · rw [List.mem_singleton.1 hp]
      exact Nat.le_of_eq (Function.update_self q.1 q.2 c.laps).symm
  known i := by
    change Function.update c.laps q.1 q.2 i = 0 ∨ ∃ p ∈ marks ++ [q],
      p.2 = Function.update c.laps q.1 q.2 i
    by_cases hi : i = q.1
    -- the counter that moved knows the new mark
    · refine Or.inr ⟨q, List.mem_append.2 (Or.inr List.mem_cons_self), ?_⟩
      rw [hi, Function.update_self]
    · rw [Function.update_of_ne hi]
      refine (h.known i).imp_right fun ⟨p, hp, hpi⟩ => ?_
      exact ⟨p, List.mem_append.2 (Or.inl hp), hpi⟩
  counters i := by
    change Function.update c.counters q.1 _ i =
      (marks ++ [q]).countP (fun p => p.1 = i ∧ p.2 = Function.update c.laps q.1 q.2 i) % m
    rw [List.countP_append, List.countP_singleton]
    by_cases hi : i = q.1
    -- its count goes on in the same lap, and starts again in a new one
    · subst hi
      rw [Function.update_self, Function.update_self, decide_eq_true ⟨rfl, rfl⟩, if_pos rfl]
      by_cases hlap : c.laps q.1 = q.2
      · rw [if_pos hlap, h.counters q.1, hlap, Nat.mod_add_mod]
      · rw [if_neg hlap, h.countP_eq_zero hq hlap]
    · rw [Function.update_of_ne hi, Function.update_of_ne hi, if_neg (by simp [Ne.symm hi]),
        Nat.add_zero, h.counters i]

/-- What the counters know after a run of marks in order. -/
theorem counts_marks (m : ℕ) (marks : List (ι × ℕ)) (hm : marks.Pairwise (·.2 ≤ ·.2)) :
    Counts m (marks.foldl (mark m) zero) marks := by
  induction marks using List.reverseRecOn with
  | nil => exact counts_zero m
  | append_singleton marks q ih =>
    rw [List.foldl_append]
    have hq := List.pairwise_append.1 hm
    exact (ih hq.1).mark fun p hp => hq.2.2 p hp q List.mem_cons_self

/-- The marks, counted counter by counter. -/
theorem sum_countP [Fintype ι] (marks : List (ι × ℕ)) (lap : ℕ) :
    ∑ i, marks.countP (fun p => p.1 = i ∧ p.2 = lap) = marks.countP fun p => p.2 = lap := by
  induction marks with
  | nil => simp
  | cons q marks ih =>
    simp only [List.countP_cons, Finset.sum_add_distrib, ih]
    congr 1
    by_cases hq : q.2 = lap
    · simp [hq]
    · simp [hq]

/-- **Marks in order are counted.** What is counted of the latest lap is its marks, up
to the bound of the arithmetic. -/
theorem count_marks [Fintype ι] (m : ℕ) {marks : List (ι × ℕ)} (hm : marks.Pairwise (·.2 ≤ ·.2))
    {lap : ℕ} (hlap : ∀ p ∈ marks, p.2 ≤ lap) :
    (marks.foldl (mark m) zero).count m lap = (marks.countP fun p => p.2 = lap) % m := by
  have h := counts_marks m marks hm
  set c := marks.foldl (mark m) zero
  have hi : ∀ i, (if c.laps i = lap then c.counters i else 0) =
      marks.countP (fun p => p.1 = i ∧ p.2 = lap) % m := by
    intro i
    by_cases hi : c.laps i = lap
    · rw [if_pos hi, h.counters i, hi]
    · rw [if_neg hi, h.countP_eq_zero hlap hi, Nat.zero_mod]
  calc c.count m lap
      = (∑ i, marks.countP (fun p => p.1 = i ∧ p.2 = lap) % m) % m := by
        rw [count, Finset.sum_congr rfl fun i _ => hi i]
    _ = (∑ i, marks.countP fun p => p.1 = i ∧ p.2 = lap) % m :=
        (Finset.sum_nat_mod Finset.univ m _).symm
    _ = (marks.countP fun p => p.2 = lap) % m := by rw [sum_countP]

end Stamped
