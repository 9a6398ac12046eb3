import AiGateway.Framework.RustStd
import AiGateway.Framework.Stamped
import Mathlib.Algebra.Order.Field.Rat
import Mathlib.Algebra.Order.Floor.Semiring
import Mathlib.Data.Rat.Floor
import Mathlib.Tactic.Linarith

/-!
# The rolling counter

`metrics/rolling_counter.rs`: the counter the health monitor counts requests and errors with. The
window is cut into buckets, which are used in turn; a bucket of an earlier lap is emptied when
its turn comes again, and the total adds up the buckets of the lap that the clock is in.

`slides_iff` says when that is what a window that slides with the clock would count: when no
increment of the window, less a bucket, was made in an earlier lap. Time is exact, and
the increments come one after the other.
-/

namespace AiGateway

/-- What `RollingCounter::new` fixes: the window and its buckets, of which there has to
be one, and the instant the counter is made at. -/
structure Timing where
  window : ℚ
  window_nonneg : 0 ≤ window
  buckets : ℕ
  buckets_pos : 0 < buckets
  start : ℚ

/-- `(x / y) as u64`, of `f64`s that are not negative; `usize` is as wide. -/
def quotientAsU64 (x y : ℚ) : ℕ :=
  if y = 0 then
    -- not a number, or an infinity
    if x = 0 then 0 else u64Max
  else min ⌊x / y⌋₊ u64Max

theorem quotientAsU64_mono {x x' y : ℚ} (hx : 0 ≤ x) (hy : 0 ≤ y) (h : x ≤ x') :
    quotientAsU64 x y ≤ quotientAsU64 x' y := by
  unfold quotientAsU64
  split
  · split
    · exact Nat.zero_le _
    · rename_i hne
      have hx' : x' ≠ 0 := (lt_of_lt_of_le (lt_of_le_of_ne hx (Ne.symm hne)) h).ne'
      rw [if_neg hx']
  · have hfloor : ⌊x / y⌋₊ ≤ ⌊x' / y⌋₊ := Nat.floor_mono (div_le_div_of_nonneg_right h hy)
    exact min_le_min_right u64Max hfloor

namespace Timing

variable (τ : Timing)

def bucketDuration : ℚ := τ.window / τ.buckets

/-- `now.duration_since(self.start)`, which is zero before the start. -/
def elapsed (now : ℚ) : ℚ := max (now - τ.start) 0

/-- The lap of `get_index_and_lap`. -/
def lap (now : ℚ) : ℕ := quotientAsU64 (τ.elapsed now) (τ.bucketDuration * τ.buckets)

/-- The bucket of `get_index_and_lap`. -/
def index (now : ℚ) : Fin τ.buckets :=
  ⟨quotientAsU64 (τ.elapsed now) τ.bucketDuration % τ.buckets, Nat.mod_lt _ τ.buckets_pos⟩

def getIndexAndLap (now : ℚ) : Fin τ.buckets × ℕ := (τ.index now, τ.lap now)

/-- The laps go up with the clock. -/
theorem lap_mono {s t : ℚ} (h : s ≤ t) : τ.lap s ≤ τ.lap t := by
  have hbuckets : (0 : ℚ) ≤ τ.buckets := Nat.cast_nonneg τ.buckets
  have hduration : 0 ≤ τ.bucketDuration := div_nonneg τ.window_nonneg hbuckets
  have helapsed : τ.elapsed s ≤ τ.elapsed t := max_le_max_right 0 (sub_le_sub_right h τ.start)
  exact quotientAsU64_mono (le_max_right _ 0) (mul_nonneg hduration hbuckets) helapsed

end Timing

/-- `RollingCounter`: a counter and a lap for every bucket. -/
structure RollingCounter (τ : Timing) where
  counters : Fin τ.buckets → ℕ
  laps : Fin τ.buckets → ℕ

namespace RollingCounter

variable {τ : Timing}

def new (τ : Timing) : RollingCounter τ := ⟨fun _ => 0, fun _ => 0⟩

/-- `incr`, of one thread: nothing comes between the load of the lap and its exchange. -/
def incr (c : RollingCounter τ) (now : ℚ) : RollingCounter τ :=
  let (idx, lap) := τ.getIndexAndLap now
  let reset : RollingCounter τ :=
    if c.laps idx ≠ lap then
      ⟨Function.update c.counters idx 0, Function.update c.laps idx lap⟩
    else c
  -- `fetch_add` wraps around
  { reset with counters := Function.update reset.counters idx ((reset.counters idx + 1) % 2 ^ 32) }

/-- `total`, whose sum wraps around as well. -/
def total (c : RollingCounter τ) (now : ℚ) : ℕ :=
  (∑ i, if c.laps i = (τ.getIndexAndLap now).2 then c.counters i else 0) % 2 ^ 32

/-- The counter after increments. -/
def after (τ : Timing) (times : List ℚ) : RollingCounter τ := times.foldl incr (new τ)

/-- The buckets, as counters stamped with their laps. -/
def stamped (c : RollingCounter τ) : Stamped (Fin τ.buckets) := ⟨c.counters, c.laps⟩

theorem total_eq_count (c : RollingCounter τ) (now : ℚ) :
    c.total now = c.stamped.count (2 ^ 32) (τ.lap now) := rfl

/-- An increment is a mark at its bucket and its lap. -/
theorem stamped_incr (c : RollingCounter τ) (now : ℚ) :
    (c.incr now).stamped = c.stamped.mark (2 ^ 32) (τ.getIndexAndLap now) := by
  unfold incr stamped Stamped.mark
  by_cases h : c.laps (τ.index now) = τ.lap now
  · simp only [Timing.getIndexAndLap, h, ne_eq, not_true_eq_false, if_false, if_true]
    rw [← h, Function.update_eq_self]
  · simp only [Timing.getIndexAndLap, h, ne_eq, not_false_eq_true, if_true, if_false,
      Function.update_self, Function.update_idem]

theorem stamped_after (times : List ℚ) : (after τ times).stamped =
    (times.map τ.getIndexAndLap).foldl (Stamped.mark (2 ^ 32)) Stamped.zero := by
  induction times using List.reverseRecOn with
  | nil => rfl
  | append_singleton times now ih =>
    rw [after, List.foldl_append, List.map_append, List.foldl_append, ← ih]
    exact stamped_incr _ now

/-- The increments made in the lap that the clock is in. -/
def sameLap (τ : Timing) (times : List ℚ) (t : ℚ) : ℕ :=
  times.countP fun s => τ.lap s = τ.lap t

/-- **What the counter counts.** The increments of the lap that the clock is in. -/
theorem total_after {times : List ℚ} {t : ℚ} (h : (times ++ [t]).Pairwise (· ≤ ·)) :
    (after τ times).total t = sameLap τ times t % 2 ^ 32 := by
  obtain ⟨hsorted, -, hlast⟩ := List.pairwise_append.1 h
  have hmarks : (times.map τ.getIndexAndLap).Pairwise (·.2 ≤ ·.2) :=
    List.pairwise_map.2 (hsorted.imp fun h => τ.lap_mono h)
  have hlap : ∀ p ∈ times.map τ.getIndexAndLap, p.2 ≤ τ.lap t := by
    rw [List.forall_mem_map]
    intro s hs
    exact τ.lap_mono (hlast s hs t List.mem_cons_self)
  rw [total_eq_count, stamped_after, Stamped.count_marks (2 ^ 32) hmarks hlap, List.countP_map]
  rfl

end RollingCounter

/-! ### The window that slides -/

section Counts

variable {α : Type*} {l : List α}

/-- Of two sets, one of which is in the other along a list, the one with no more members is the
smaller one. -/
theorem countP_le_countP_iff {p q : α → Bool}
    (h : (∀ a ∈ l, p a → q a) ∨ ∀ a ∈ l, q a → p a) :
    l.countP p ≤ l.countP q ↔ ∀ a ∈ l, p a → q a := by
  constructor
  · intro hle
    obtain hpq | hqp := h
    · exact hpq
    · have hfilter : l.countP q = (l.filter p).countP q := by
        rw [List.countP_filter]
        refine List.countP_congr fun a ha => ?_
        rw [Bool.and_eq_true]
        exact ⟨fun hq => ⟨hq, hqp a ha hq⟩, And.left⟩
      rw [hfilter, List.countP_eq_length_filter] at hle
      have hall := List.countP_eq_length.1 (Nat.le_antisymm List.countP_le_length hle)
      intro a ha hpa
      exact hall a (List.mem_filter.2 ⟨ha, hpa⟩)
  · exact List.countP_mono_left

/-- What holds from some member of an order on is in whatever holds from another on, or
the other way around. -/
theorem forall_imp_or_forall_imp [LinearOrder α] {p q : α → Prop}
    (hp : ∀ a, ∀ b ∈ l, a ≤ b → p a → p b) (hq : ∀ a, ∀ b ∈ l, a ≤ b → q a → q b) :
    (∀ a ∈ l, p a → q a) ∨ ∀ a ∈ l, q a → p a := by
  by_cases h : ∀ a ∈ l, p a → q a
  · exact Or.inl h
  · refine Or.inr fun b hb hqb => ?_
    push Not at h
    obtain ⟨a, ha, hpa, hqa⟩ := h
    obtain hab | hba := le_total a b
    · exact hp a b hb hab hpa
    · exact absurd (hq b a ha hba hqb) hqa

end Counts

namespace RollingCounter

/-- The increments that a sliding window has to count: those of the window, less a bucket. -/
def recent (τ : Timing) (times : List ℚ) (t : ℚ) : ℕ :=
  times.countP fun s => t - (τ.window - τ.bucketDuration) < s ∧ s ≤ t

/-- The increments that it may count: those of the window. -/
def within (τ : Timing) (times : List ℚ) (t : ℚ) : ℕ :=
  times.countP fun s => t - τ.window ≤ s

/-- The total counts every recent increment, and none from before the window. -/
def Slides (τ : Timing) (times : List ℚ) (t : ℚ) : Prop :=
  recent τ times t ≤ (after τ times).total t ∧ (after τ times).total t ≤ within τ times t

instance (τ : Timing) (times : List ℚ) (t : ℚ) : Decidable (Slides τ times t) :=
  inferInstanceAs (Decidable (_ ∧ _))

variable {τ : Timing} {times : List ℚ} {t : ℚ}

/-- The recent increments are counted if they are of the lap of the clock. -/
theorem recent_le_iff (hlast : ∀ s ∈ times, s ≤ t) :
    recent τ times t ≤ sameLap τ times t ↔
      ∀ s ∈ times, t - (τ.window - τ.bucketDuration) < s → τ.lap s = τ.lap t := by
  rw [recent, sameLap, countP_le_countP_iff]
  · simp only [decide_eq_true_eq]
    refine forall₂_congr fun s hs => ?_
    rw [and_iff_left (hlast s hs)]
  · simp only [decide_eq_true_eq]
    refine forall_imp_or_forall_imp ?_ ?_
    · rintro a b hb hab ⟨ha, -⟩
      exact ⟨lt_of_lt_of_le ha hab, hlast b hb⟩
    · intro a b hb hab ha
      exact le_antisymm (τ.lap_mono (hlast b hb)) (ha ▸ τ.lap_mono hab)

/-- What is counted is within the window if the lap of the clock is. -/
theorem le_within_iff (hlast : ∀ s ∈ times, s ≤ t) :
    sameLap τ times t ≤ within τ times t ↔
      ∀ s ∈ times, τ.lap s = τ.lap t → t - τ.window ≤ s := by
  rw [within, sameLap, countP_le_countP_iff]
  · simp only [decide_eq_true_eq]
  · simp only [decide_eq_true_eq]
    refine forall_imp_or_forall_imp ?_ ?_
    · intro a b hb hab ha
      exact le_antisymm (τ.lap_mono (hlast b hb)) (ha ▸ τ.lap_mono hab)
    · intro a b _ hab ha
      exact le_trans ha hab

/-- **When the window slides.** The counter counts as a sliding window does exactly if every
recent increment was made in the lap that the clock is in, and the increments of that lap are
within the window; if they are more than the counter can hold, what is left of their number
has to be right by chance. -/
theorem slides_iff (τ : Timing) {times : List ℚ} {t : ℚ}
    (h : (times ++ [t]).Pairwise (· ≤ ·)) :
    Slides τ times t ↔
      (sameLap τ times t < 2 ^ 32 ∧
        (∀ s ∈ times, t - (τ.window - τ.bucketDuration) < s → τ.lap s = τ.lap t) ∧
        ∀ s ∈ times, τ.lap s = τ.lap t → t - τ.window ≤ s) ∨
      (2 ^ 32 ≤ sameLap τ times t ∧ recent τ times t ≤ sameLap τ times t % 2 ^ 32 ∧
        sameLap τ times t % 2 ^ 32 ≤ within τ times t) := by
  have hlast : ∀ s ∈ times, s ≤ t := by
    intro s hs
    exact (List.pairwise_append.1 h).2.2 s hs t List.mem_cons_self
  rw [Slides, total_after h]
  obtain hfew | hmany := Nat.lt_or_ge (sameLap τ times t) (2 ^ 32)
  · rw [Nat.mod_eq_of_lt hfew, recent_le_iff hlast, le_within_iff hlast]
    exact ⟨fun hs => Or.inl ⟨hfew, hs⟩,
      fun hs => hs.elim And.right fun hm => absurd hm.1 (Nat.not_le.2 hfew)⟩
  · exact ⟨fun hs => Or.inr ⟨hmany, hs⟩,
      fun hs => hs.elim (fun hf => absurd hf.1 (Nat.not_lt.2 hmany)) And.right⟩

/-- A minute in ten buckets, the default. -/
def minute (start : ℚ) : Timing where
  window := 60
  window_nonneg := by norm_num
  buckets := 10
  buckets_pos := Nat.le_of_ble_eq_true rfl
  start := start

theorem slides_iff_minute : Slides (minute 0) [70, 80] 119 :=
  (slides_iff (minute 0) (by decide +kernel)).2
    (Or.inl ⟨by decide +kernel, by decide +kernel, by decide +kernel⟩)

/-- **The window does not slide.** A second after an increment, a lap is over and the total is
zero. -/
theorem slides_fails : ¬ ∀ (τ : Timing) (times : List ℚ) (t : ℚ),
    (times ++ [t]).Pairwise (· ≤ ·) → Slides τ times t := by
  intro h
  have hsorted : ([59] ++ [60] : List ℚ).Pairwise (· ≤ ·) := by decide +kernel
  have hslides : Slides (minute 0) [59] 60 := h (minute 0) [59] 60 hsorted
  exact absurd hslides (by decide +kernel)

end RollingCounter

end AiGateway
