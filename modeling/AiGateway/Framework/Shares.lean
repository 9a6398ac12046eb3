import Mathlib.Algebra.BigOperators.Ring.List
import Mathlib.Algebra.Order.AbsoluteValue.Basic
import Mathlib.Algebra.Order.BigOperators.Group.List
import Mathlib.Algebra.Order.Field.Rat
import Mathlib.Tactic.FieldSimp
import Mathlib.Tactic.Linarith
import Mathlib.Tactic.Positivity
import Mathlib.Tactic.Ring

/-!
# Shares of rounded parts

A whole is split into parts, and each part is rounded to a multiple of one `N`th, the negative ones
to nothing. What share of the rounded parts do some of them have, next to the share they should
have?

`abs_share_filter_sub_le`: it differs by at most one `N`th for each part there is, if the negative
parts come to no more than half an `N`th for each (`slack`). Each part is off by half an `N`th, and
so is the sum that the parts are divided by, which is still more than half of what it should be,
unless there are so many parts that nothing is claimed.
-/

namespace Shares

/-- The errors of the parts add up. -/
theorem abs_sum_sub_le {α : Type*} {l : List α} {f g : α → ℚ} {c : ℚ}
    (h : ∀ a ∈ l, |f a - g a| ≤ c) : |(l.map f).sum - (l.map g).sum| ≤ l.length * c := by
  induction l with
  | nil => simp
  | cons a l ih =>
    obtain ⟨ha, hl⟩ := List.forall_mem_cons.mp h
    have hsplit : ((a :: l).map f).sum - ((a :: l).map g).sum =
        (f a - g a) + ((l.map f).sum - (l.map g).sum) := by
      rw [List.map_cons, List.map_cons, List.sum_cons, List.sum_cons]
      ring
    rw [hsplit, List.length_cons, Nat.cast_add, Nat.cast_one, add_mul, one_mul, add_comm (_ * c)]
    exact (abs_add_le _ _).trans (add_le_add ha (ih hl))

/-- A share lies between nothing and everything. -/
theorem share_mem_unit {A B : ℚ} (hA : 0 ≤ A) (hB : 0 ≤ B) : 0 ≤ A / (A + B) ∧ A / (A + B) ≤ 1 :=
  ⟨div_nonneg hA (add_nonneg hA hB), div_le_one_of_le₀ (le_add_of_nonneg_right hB)
    (add_nonneg hA hB)⟩

/-- What negative parts may come to where `n` parts are rounded to units, `N` to the whole: half a
unit for each, and less as there are more of them. -/
def slack (n N : ℚ) : ℚ := max 0 (n / (2 * N) * (1 - n / N))

/-- So many parts leave no room for a negative one. -/
theorem slack_of_le {n N : ℚ} (hN : 0 < N) (hmany : N ≤ n) : slack n N = 0 := by
  have hone : 1 ≤ n / N := (one_le_div hN).mpr hmany
  refine max_eq_left (mul_nonpos_of_nonneg_of_nonpos ?_ (by linarith))
  exact div_nonneg (hN.le.trans hmany) (by positivity)

theorem mul_le_of_le_slack {L n N : ℚ} (hn : 0 ≤ n) (hN : 0 < N) (hfew : n < N)
    (h : L ≤ slack n N) : N * L ≤ n / 2 - n / N * (n / 2) := by
  have hone : n / N < 1 := (div_lt_one hN).mpr hfew
  have hslack : slack n N = n / (2 * N) * (1 - n / N) :=
    max_eq_right (mul_nonneg (by positivity) (by linarith))
  calc N * L ≤ N * (n / (2 * N) * (1 - n / N)) := by
        rw [← hslack]
        exact mul_le_mul_of_nonneg_left h hN.le
    _ = n / 2 - n / N * (n / 2) := by
        field_simp

/-- **Two parts.** Both are given in units, `N` to the whole, with errors of half a unit for each of
the `m` and `k` numbers they are the sums of, of which the negative ones, `x` and `y` together, are
left out. -/
theorem abs_share_sub_le {A B a b x y m k N : ℚ} (hN : 0 < N) (hA : 0 ≤ A) (hB : 0 ≤ B)
    (hx : 0 ≤ x) (hy : 0 ≤ y) (ha : 0 ≤ a + x) (hb : 0 ≤ b + y) (hab : a + b = 1) (hm : 0 ≤ m)
    (hk : 0 ≤ k) (hE : |A - N * (a + x)| ≤ m / 2) (hF : |B - N * (b + y)| ≤ k / 2)
    (hslack : x + y ≤ slack (m + k) N) : |A / (A + B) - a| ≤ (m + k) / N := by
  rcases le_or_gt N (m + k) with hmany | hfew
  · -- so many numbers that none is negative, and the bound is trivial
    rw [slack_of_le hN hmany] at hslack
    obtain ⟨hnonneg, hone⟩ := share_mem_unit hA hB
    have hbound : 1 ≤ (m + k) / N := (one_le_div hN).mpr hmany
    refine le_trans ?_ hbound
    rw [abs_le]
    constructor <;> linarith
  · have hroom := mul_le_of_le_slack (add_nonneg hm hk) hN hfew hslack
    obtain ⟨hE₁, hE₂⟩ := abs_le.mp hE
    obtain ⟨hF₁, hF₂⟩ := abs_le.mp hF
    have hwhole : N * (a + x) + N * (b + y) = N * (1 + (x + y)) := by
      rw [← mul_add, ← hab]
      ring
    have hleft : 0 ≤ N * (x + y) := by positivity
    have htotal : N * (1 + (x + y)) - (m + k) / 2 ≤ A + B := by linarith
    have hpos : 0 < A + B := by linarith
    -- what was left out of both parts and their errors, each in proportion to the other part
    have hdiff : A / (A + B) - a = (N * ((b + y) * x - (a + x) * y) +
        (b * (A - N * (a + x)) - a * (B - N * (b + y)))) / (A + B) := by
      have hb' : b = 1 - a := by linarith
      rw [eq_div_iff hpos.ne', sub_mul, div_mul_cancel₀ _ hpos.ne', hb']
      ring
    have hout : |(b + y) * x - (a + x) * y| ≤ (1 + (x + y)) * (x + y) := by
      have hbx : (b + y) * x ≤ (1 + (x + y)) * (x + y) :=
        mul_le_mul (by linarith) (by linarith) hx (by linarith)
      have hay : (a + x) * y ≤ (1 + (x + y)) * (x + y) :=
        mul_le_mul (by linarith) (by linarith) hy (by linarith)
      have hbx₀ := mul_nonneg hb hx
      have hay₀ := mul_nonneg ha hy
      rw [abs_le]
      constructor <;> linarith
    have herrors : |b * (A - N * (a + x)) - a * (B - N * (b + y))| ≤
        (1 + (x + y)) * ((m + k) / 2) := by
      have habs : |b| ≤ 1 + (x + y) ∧ |a| ≤ 1 + (x + y) := by
        rw [abs_le, abs_le]
        exact ⟨⟨by linarith, by linarith⟩, ⟨by linarith, by linarith⟩⟩
      have hbE : |b * (A - N * (a + x))| ≤ (1 + (x + y)) * (m / 2) := by
        rw [abs_mul]
        exact mul_le_mul habs.1 hE (abs_nonneg _) (by linarith)
      have haF : |a * (B - N * (b + y))| ≤ (1 + (x + y)) * (k / 2) := by
        rw [abs_mul]
        exact mul_le_mul habs.2 hF (abs_nonneg _) (by linarith)
      calc |b * (A - N * (a + x)) - a * (B - N * (b + y))|
          ≤ |b * (A - N * (a + x))| + |a * (B - N * (b + y))| := abs_sub _ _
        _ ≤ (1 + (x + y)) * (m / 2) + (1 + (x + y)) * (k / 2) := add_le_add hbE haF
        _ = (1 + (x + y)) * ((m + k) / 2) := by ring
    have hshare : 0 ≤ (m + k) / N := by positivity
    rw [hdiff, abs_div, abs_of_pos hpos, div_le_iff₀ hpos]
    calc |N * ((b + y) * x - (a + x) * y) + (b * (A - N * (a + x)) - a * (B - N * (b + y)))|
        ≤ |N * ((b + y) * x - (a + x) * y)| +
            |b * (A - N * (a + x)) - a * (B - N * (b + y))| := abs_add_le _ _
      _ ≤ N * ((1 + (x + y)) * (x + y)) + (1 + (x + y)) * ((m + k) / 2) := by
          rw [abs_mul, abs_of_pos hN]
          exact add_le_add (mul_le_mul_of_nonneg_left hout hN.le) herrors
      _ = (1 + (x + y)) * (N * (x + y) + (m + k) / 2) := by ring
      _ ≤ (1 + (x + y)) * ((m + k) - (m + k) / N * ((m + k) / 2)) :=
          mul_le_mul_of_nonneg_left (by linarith) (by linarith)
      _ ≤ (1 + (x + y)) * (m + k) - (m + k) / N * ((m + k) / 2) := by
          have hloss : 0 ≤ (x + y) * ((m + k) / N * ((m + k) / 2)) := by positivity
          linarith
      _ = (m + k) / N * (N * (1 + (x + y)) - (m + k) / 2) := by
          field_simp
      _ ≤ (m + k) / N * (A + B) := mul_le_mul_of_nonneg_left htotal hshare

/-- The sum of a list in two parts. -/
theorem sum_filter_add {α : Type*} (l : List α) (p : α → Bool) (f : α → ℚ) :
    ((l.filter p).map f).sum + ((l.filter fun a => !p a).map f).sum = (l.map f).sum := by
  rw [← List.sum_append, ← List.map_append]
  exact ((List.filter_append_perm p l).map f).sum_eq

/-- What the negative parts come to. -/
def negativePart {α : Type*} (part : α → ℚ) (l : List α) : ℚ :=
  (l.map fun a => max (-part a) 0).sum

theorem negativePart_nonneg {α : Type*} (part : α → ℚ) (l : List α) : 0 ≤ negativePart part l := by
  refine List.sum_nonneg fun x hx => ?_
  obtain ⟨a, -, rfl⟩ := List.mem_map.mp hx
  exact le_max_right _ _

theorem negativePart_eq_zero {α : Type*} {part : α → ℚ} {l : List α} (h : ∀ a ∈ l, 0 ≤ part a) :
    negativePart part l = 0 := by
  refine List.sum_eq_zero fun x hx => ?_
  obtain ⟨a, ha, rfl⟩ := List.mem_map.mp hx
  exact max_eq_right (neg_nonpos.mpr (h a ha))

/-- The other parts are the parts without the negative ones. -/
theorem sum_max_eq {α : Type*} (part : α → ℚ) (l : List α) :
    (l.map fun a => max (part a) 0).sum = (l.map part).sum + negativePart part l := by
  unfold negativePart
  rw [← List.sum_map_add]
  refine congrArg List.sum (List.map_congr_left fun a _ => ?_)
  rcases le_total (part a) 0 with h | h
  · rw [max_eq_right h, max_eq_left (neg_nonneg.mpr h), add_neg_cancel]
  · rw [max_eq_left h, max_eq_right (neg_nonpos.mpr h), add_zero]

/-- **The share of some parts.** Parts of a whole that are rounded to units, `N` to the whole, have
a share that is off by at most one unit for each part there is, if little of the whole is in
negative parts. -/
theorem abs_share_filter_sub_le {α : Type*} {l : List α} (p : α → Bool) (part rounded : α → ℚ)
    {N : ℚ} (hN : 0 < N) (hrounded : ∀ a ∈ l, 0 ≤ rounded a)
    (herror : ∀ a ∈ l, |rounded a - N * max (part a) 0| ≤ 1 / 2) (hsum : (l.map part).sum = 1)
    (hslack : negativePart part l ≤ slack l.length N) :
    |((l.filter p).map rounded).sum / (l.map rounded).sum - ((l.filter p).map part).sum| ≤
      l.length / N := by
  have hsub : ∀ (q : α → Bool), ∀ a ∈ l.filter q, a ∈ l := fun q a ha => List.mem_of_mem_filter ha
  have hnonneg : ∀ q : α → Bool, 0 ≤ ((l.filter q).map rounded).sum := by
    intro q
    refine List.sum_nonneg fun x hx => ?_
    obtain ⟨a, ha, rfl⟩ := List.mem_map.mp hx
    exact hrounded a (hsub q a ha)
  -- each side of the split is a sum of positive parts, and what is negative in it is small
  have hother : ∀ q : α → Bool,
      0 ≤ ((l.filter q).map part).sum + negativePart part (l.filter q) := by
    intro q
    rw [← sum_max_eq]
    refine List.sum_nonneg fun x hx => ?_
    obtain ⟨a, -, rfl⟩ := List.mem_map.mp hx
    exact le_max_right _ _
  have herrors : ∀ q : α → Bool, |((l.filter q).map rounded).sum -
      N * (((l.filter q).map part).sum + negativePart part (l.filter q))| ≤
        ((l.filter q).length : ℚ) / 2 := by
    intro q
    rw [← sum_max_eq, ← List.sum_map_mul_left, div_eq_mul_one_div]
    exact abs_sum_sub_le fun a ha => herror a (hsub q a ha)
  have hlength : ((l.filter p).length : ℚ) + (l.filter fun a => !p a).length = l.length := by
    rw [← Nat.cast_add, ← List.length_append]
    exact congrArg Nat.cast (List.filter_append_perm p l).length_eq
  have hnegative : negativePart part (l.filter p) + negativePart part (l.filter fun a => !p a) =
      negativePart part l := sum_filter_add l p fun a => max (-part a) 0
  -- the split adds up, in parts and in errors, so it is a matter of two sums
  rw [← hnegative, ← hlength] at hslack
  rw [← sum_filter_add l p rounded, ← hlength]
  exact abs_share_sub_le hN (hnonneg p) (hnonneg _) (negativePart_nonneg _ _)
    (negativePart_nonneg _ _) (hother p) (hother _) ((sum_filter_add l p part).trans hsum)
    (Nat.cast_nonneg _) (Nat.cast_nonneg _) (herrors p) (herrors _) hslack

end Shares
