import Mathlib.Data.Int.Basic
import Mathlib.Data.List.Forall2
import Mathlib.Data.List.Nodup
import Mathlib.Data.Nat.Basic
import Mathlib.Tactic.Common
import Mathlib.Tactic.Ring

/-!
# Machine integers and durations

The part of a systems language's standard library that arithmetic in a service
rests on: results, signed 64-bit integers with the wrapping arithmetic of an optimised
build and the saturating operations, ranges and remainders of bytes, and the duration
type (seconds and nanoseconds, here as one count of nanoseconds).

An `i64` is an integer that satisfies `I64.Fits`. `I64.wrap` is reduction into
that range, and `I64.wrap_of_fits` says that it does nothing to what fits.
-/

/-- `Option::ok_or`. -/
def Option.okOr {ε α : Type} (value : Option α) (error : ε) : Except ε α :=
  match value with
  | some a => .ok a
  | none => .error error

theorem Option.okOr_eq_ok_iff {ε α : Type} {value : Option α} {error : ε} {a : α} :
    value.okOr error = .ok a ↔ value = some a := by
  cases value with
  | none => exact iff_of_false (fun h => by cases h) (fun h => by cases h)
  | some b => exact ⟨fun h => congrArg some (Except.ok.inj h), fun h => by cases h; rfl⟩

namespace Except

variable {ε α β : Type}

/-- A computation that goes on succeeds if both of its parts do. -/
theorem bind_eq_ok_iff {x : Except ε α} {f : α → Except ε β} {b : β} :
    x >>= f = .ok b ↔ ∃ a, x = .ok a ∧ f a = .ok b := by
  constructor
  · intro h
    cases x with
    | error e => cases h
    | ok a => exact ⟨a, rfl, h⟩
  · rintro ⟨a, rfl, h⟩
    exact h

theorem map_eq_ok_iff {x : Except ε α} {f : α → β} {b : β} :
    x.map f = .ok b ↔ ∃ a, x = .ok a ∧ f a = b := by
  constructor
  · intro h
    cases x with
    | error e => cases h
    | ok a => exact ⟨a, rfl, Except.ok.inj h⟩
  · rintro ⟨a, rfl, rfl⟩
    rfl

theorem mapError_eq_ok_iff {ε' : Type} {x : Except ε α} {f : ε → ε'} {a : α} :
    x.mapError f = .ok a ↔ x = .ok a := by
  cases x with
  | error e => exact iff_of_false (fun h => by cases h) (fun h => by cases h)
  | ok b => exact ⟨fun h => by cases h; rfl, fun h => by cases h; rfl⟩

/-- A loop that keeps some results: what they are made of, one element at a time. -/
theorem flatMap_eq_of_filterMapM {γ : Type} {f : α → Except ε (Option β)} {g : β → List γ}
    {h : α → List γ} (hf : ∀ a o, f a = .ok o → o.toList.flatMap g = h a) {l : List α}
    {out : List β} (hout : l.filterMapM f = .ok out) : out.flatMap g = l.flatMap h := by
  induction l generalizing out with
  | nil =>
    cases hout
    rfl
  | cons a l ih =>
    rw [List.filterMapM_cons] at hout
    obtain ⟨o, ho, hout⟩ := bind_eq_ok_iff.mp hout
    rw [List.flatMap_cons, ← hf a o ho]
    cases o with
    | none => exact ih hout
    | some b =>
      obtain ⟨out', hout', hout⟩ := bind_eq_ok_iff.mp hout
      cases hout
      rw [List.flatMap_cons, ih hout', Option.toList_some, List.flatMap_singleton]

/-- What is made of a result fails if the result does. -/
theorem bind_ok_eq_error_iff {x : Except ε α} {f : α → β} {e : ε} :
    (x >>= fun a => .ok (f a)) = .error e ↔ x = .error e := by
  cases x with
  | error e' => exact ⟨fun h => by cases h; rfl, fun h => by cases h; rfl⟩
  | ok a => exact iff_of_false (fun h => by cases h) fun h => by cases h

/-- Nothing is left out, and nothing is changed. -/
theorem filterMap_eq_self_iff {f : α → Option α} {l : List α} :
    l.filterMap f = l ↔ ∀ a ∈ l, f a = some a := by
  constructor
  · intro h
    -- as nothing is left out, the list is one of images
    have hsome : ∀ a ∈ l, (f a).isSome = true := List.filterMap_length_eq_length.mp (by rw [h])
    induction l with
    | nil => exact fun a ha => absurd ha List.not_mem_nil
    | cons a l ih =>
      obtain ⟨ha, hl⟩ := List.forall_mem_cons.mp hsome
      obtain ⟨b, hb⟩ := Option.isSome_iff_exists.mp ha
      rw [List.filterMap_cons_some hb] at h
      obtain ⟨rfl, hrest⟩ := List.cons.inj h
      exact List.forall_mem_cons.mpr ⟨hb, ih hrest hl⟩
  · intro h
    exact (List.filterMap_congr h).trans List.filterMap_some

/-- A loop that ends without an error has no step with one. -/
theorem exists_ok_of_filterMapM {f : α → Except ε (Option β)} {l : List α} {out : List β}
    (h : l.filterMapM f = .ok out) : ∀ a ∈ l, ∃ o, f a = .ok o := by
  induction l generalizing out with
  | nil => exact fun a ha => absurd ha List.not_mem_nil
  | cons a l ih =>
    rw [List.filterMapM_cons] at h
    obtain ⟨o, ho, h⟩ := bind_eq_ok_iff.mp h
    rw [List.forall_mem_cons]
    refine ⟨⟨o, ho⟩, ?_⟩
    cases o with
    | none => exact ih h
    | some b =>
      obtain ⟨rest, hrest, -⟩ := bind_eq_ok_iff.mp h
      exact ih hrest

/-- A loop that ends without an error is one over what its steps return. -/
theorem eq_filterMap_of_filterMapM {f : α → Except ε (Option β)} {l : List α} {out : List β}
    (h : l.filterMapM f = .ok out) : out = l.filterMap fun a => (f a).toOption.join := by
  have hsteps : ∀ a o, f a = .ok o →
      o.toList.flatMap (fun b => [b]) = ((f a).toOption.join).toList := by
    intro a o ha
    rw [ha, List.flatMap_singleton']
    rfl
  have hflat := flatMap_eq_of_filterMapM hsteps h
  rw [List.flatMap_singleton'] at hflat
  rw [hflat, List.filterMap_eq_flatMap_toList]

/-- A step of a loop that goes on fails if the rest of the loop does. -/
theorem filterMapM_cons_ok {f : α → Except ε (Option β)} {a : α} {o : Option β} (ha : f a = .ok o)
    {l : List α} {e : ε} : (a :: l).filterMapM f = .error e ↔ l.filterMapM f = .error e := by
  rw [List.filterMapM_cons, ha]
  cases o with
  | none => exact Iff.rfl
  | some b => exact bind_ok_eq_error_iff

/-- A loop that fails has a step that does. -/
theorem exists_of_filterMapM_eq_error {f : α → Except ε (Option β)} {e : ε} {l : List α}
    (h : l.filterMapM f = .error e) : ∃ a ∈ l, f a = .error e := by
  induction l with
  | nil => cases h
  | cons a l ih =>
    cases ha : f a with
    | error e' =>
      rw [List.filterMapM_cons, ha] at h
      cases h
      exact ⟨a, List.mem_cons_self, ha⟩
    | ok o =>
      obtain ⟨a', ha', heq⟩ := ih ((filterMapM_cons_ok ha).mp h)
      exact ⟨a', List.mem_cons_of_mem a ha', heq⟩

/-- A loop whose steps fail with one error only fails with it if one of its steps does. -/
theorem filterMapM_ne_error_iff {f : α → Except ε (Option β)} {e : ε}
    (honly : ∀ a e', f a = .error e' → e' = e) {l : List α} :
    l.filterMapM f ≠ .error e ↔ ∀ a ∈ l, f a ≠ .error e := by
  constructor
  · induction l with
    | nil => exact fun _ a ha => absurd ha List.not_mem_nil
    | cons a l ih =>
      intro h
      cases ha : f a with
      | error e' =>
        obtain rfl := honly a e' ha
        refine absurd ?_ h
        rw [List.filterMapM_cons, ha]
        rfl
      | ok o =>
        rw [List.forall_mem_cons, ha]
        exact ⟨(fun he => by cases he), ih fun he => h ((filterMapM_cons_ok ha).mpr he)⟩
  · intro h he
    obtain ⟨a, ha, hfails⟩ := exists_of_filterMapM_eq_error he
    exact h a ha hfails

end Except

theorem List.filterMap_cons_toList {α β : Type*} (f : α → Option β) (a : α) (l : List α) :
    (a :: l).filterMap f = (f a).toList ++ l.filterMap f := by
  rw [List.filterMap_cons]
  cases f a <;> rfl

/-- What one function finds, another one finds that agrees with it where it finds something. -/
theorem List.filterMap_sublist_filterMap {α β : Type} {f g : α → Option β} {l : List α}
    (h : ∀ a ∈ l, ∀ b, f a = some b → g a = some b) :
    (l.filterMap f).Sublist (l.filterMap g) := by
  induction l with
  | nil => exact List.Sublist.refl _
  | cons a l ih =>
    obtain ⟨ha, hl⟩ := List.forall_mem_cons.mp h
    rw [List.filterMap_cons_toList, List.filterMap_cons_toList]
    refine List.Sublist.append ?_ (ih hl)
    cases hf : f a with
    | none => exact List.nil_sublist _
    | some b =>
      exact (ha b hf).symm ▸ List.Sublist.refl _

/-- An element of one of two lists that go together has a counterpart in the other. -/
theorem List.Forall₂.exists_of_mem {α β : Type} {R : α → β → Prop} {l : List α} {l' : List β}
    (h : List.Forall₂ R l l') {a : α} (ha : a ∈ l) : ∃ b ∈ l', R a b := by
  induction h with
  | nil => cases ha
  | @cons x y l l' hxy h ih =>
    rcases List.mem_cons.mp ha with rfl | ha
    · exact ⟨y, List.mem_cons_self, hxy⟩
    · obtain ⟨b, hb, hab⟩ := ih ha
      exact ⟨b, List.mem_cons_of_mem _ hb, hab⟩

/-- A loop that stops at the first failure: what it has made goes with what it was made of. -/
theorem List.forall₂_of_mapM_eq_some {α β : Type} {f : α → Option β} {l : List α} {out : List β}
    (h : l.mapM f = some out) : List.Forall₂ (fun a b => f a = some b) l out := by
  induction l generalizing out with
  | nil =>
    obtain rfl := Option.some.inj h
    exact .nil
  | cons a l ih =>
    rw [List.mapM_cons] at h
    obtain ⟨b, hb, h⟩ := Option.bind_eq_some_iff.mp h
    obtain ⟨rest, hrest, h⟩ := Option.bind_eq_some_iff.mp h
    obtain rfl := Option.some.inj h
    exact .cons hb (ih hrest)

namespace I64

/-- The largest `i64`. -/
def max : ℤ := 9223372036854775807

/-- The smallest `i64`. -/
def min : ℤ := -9223372036854775808

/-- The integers that are an `i64`. -/
def Fits (x : ℤ) : Prop := min ≤ x ∧ x ≤ max

instance (x : ℤ) : Decidable (Fits x) := inferInstanceAs (Decidable (_ ∧ _))

/-- Reduction modulo `2 ^ 64` into the `i64` range. -/
def wrap (x : ℤ) : ℤ :=
  (x + 9223372036854775808) % 18446744073709551616 - 9223372036854775808

theorem wrap_of_fits {x : ℤ} (h : Fits x) : wrap x = x := by
  unfold Fits min max at h
  unfold wrap
  omega

theorem wrap_fits (x : ℤ) : Fits (wrap x) := by
  unfold Fits min max wrap
  omega

/-! Wrapping an operand of a difference does not change the wrapped difference. -/

theorem wrap_wrap_sub (x y : ℤ) : wrap (wrap x - y) = wrap (x - y) := by
  unfold wrap
  omega

theorem wrap_sub_wrap (x y : ℤ) : wrap (x - wrap y) = wrap (x - y) := by
  unfold wrap
  omega

def add (x y : ℤ) : ℤ := wrap (x + y)

def sub (x y : ℤ) : ℤ := wrap (x - y)

def mul (x y : ℤ) : ℤ := wrap (x * y)

/-- Clamping into the `i64` range. -/
def clamp (x : ℤ) : ℤ := if x < min then min else if max < x then max else x

theorem clamp_of_fits {x : ℤ} (h : Fits x) : clamp x = x := by
  unfold Fits at h
  unfold clamp
  rw [if_neg (by omega), if_neg (by omega)]

theorem clamp_fits (x : ℤ) : Fits (clamp x) := by
  unfold Fits clamp min max
  split
  · omega
  · split <;> omega

theorem le_clamp {x : ℤ} (h : x ≤ max) : x ≤ clamp x := by
  unfold clamp
  split
  · omega
  · rw [if_neg (by omega)]

theorem clamp_le {x b : ℤ} (hb : min ≤ b) (h : x ≤ b) : clamp x ≤ b := by
  unfold clamp
  split
  · exact hb
  · split
    · omega
    · exact h

def saturatingAdd (x y : ℤ) : ℤ := clamp (x + y)

def saturatingSub (x y : ℤ) : ℤ := clamp (x - y)

/-- Division rounds towards zero; `none` is the panic of a zero divisor. -/
def saturatingDiv (x y : ℤ) : Option ℤ := if y = 0 then none else some (clamp (x.tdiv y))

theorem saturatingDiv_of_ne {x y : ℤ} (h : y ≠ 0) :
    saturatingDiv x y = some (clamp (x.tdiv y)) := if_neg h

@[simp] theorem saturatingDiv_zero (x : ℤ) : saturatingDiv x 0 = none := if_pos rfl

end I64

namespace U8

/-- The range of `u8`s below `n`. -/
def range (n : UInt8) : List UInt8 := (List.range n.toNat).map UInt8.ofNat

theorem mem_range {n b : UInt8} : b ∈ range n ↔ b < n := by
  unfold range
  rw [List.mem_map]
  constructor
  · rintro ⟨i, hi, rfl⟩
    have hlt : i < n.toNat := List.mem_range.mp hi
    rw [UInt8.lt_iff_toNat_lt, UInt8.toNat_ofNat_of_lt' (hlt.trans n.toNat_lt)]
    exact hlt
  · intro h
    exact ⟨b.toNat, List.mem_range.mpr (UInt8.lt_iff_toNat_lt.mp h), UInt8.ofNat_toNat⟩

theorem nodup_range (n : UInt8) : (range n).Nodup := by
  refine List.Nodup.map_on ?_ List.nodup_range
  intro i hi j hj h
  have h' := congrArg UInt8.toNat h
  have hi' : i < n.toNat := List.mem_range.mp hi
  have hj' : j < n.toNat := List.mem_range.mp hj
  rwa [UInt8.toNat_ofNat_of_lt' (hi'.trans n.toNat_lt),
    UInt8.toNat_ofNat_of_lt' (hj'.trans n.toNat_lt)] at h'

/-- The remainder; `none` is the panic of a zero divisor. -/
def rem (a n : UInt8) : Option UInt8 := if n = 0 then none else some (a % n)

theorem lt_of_rem {a n r : UInt8} (h : rem a n = some r) : r < n := by
  unfold rem at h
  split at h
  · cases h
  · next hn =>
    cases h
    exact UInt8.mod_lt a (UInt8.pos_iff_ne_zero.mpr hn)

end U8

/-- `u64::MAX`. -/
def u64Max : ℕ := 18446744073709551615

/-- `u32::MAX`. -/
def u32Max : ℕ := 4294967295

/-- `u32::try_from` of a signed integer. -/
def u32TryFrom (x : ℤ) : Option ℕ := if 0 ≤ x ∧ x ≤ u32Max then some x.toNat else none

theorem u32TryFrom_of_nonneg {x : ℤ} (h : 0 ≤ x) (h' : x ≤ u32Max) :
    u32TryFrom x = some x.toNat := if_pos ⟨h, h'⟩

theorem u32TryFrom_of_neg {x : ℤ} (h : x < 0) : u32TryFrom x = none := if_neg (by omega)

/-- A duration: whole seconds in a `u64`, and the nanoseconds of the last second. -/
structure Duration where
  secs : ℕ
  subsecNanos : ℕ
  /-- The seconds fit `u64`. -/
  secs_le : secs ≤ u64Max
  subsec_lt : subsecNanos < 1000000000

namespace Duration

/-- The whole duration in nanoseconds. -/
def nanos (d : Duration) : ℕ := d.secs * 1000000000 + d.subsecNanos

/-- A duration of `s` seconds, `s` a `u64`. -/
def fromSecs (s : ℕ) (h : s ≤ u64Max) : Duration := ⟨s, 0, h, by decide⟩

/-- A second is a duration. -/
theorem one_le_u64Max : 1 ≤ u64Max := by decide

/-- Division by a `u32`, rounding down to the nanosecond; `none` for zero. -/
def checkedDiv (d : Duration) (n : ℕ) : Option Duration :=
  if n = 0 then none
  else some ⟨d.nanos / n / 1000000000, d.nanos / n % 1000000000, by
    have hle := d.secs_le
    have hlt := d.subsec_lt
    have hdiv := Nat.div_le_self d.nanos n
    unfold nanos at hdiv ⊢
    omega, Nat.mod_lt _ (by decide)⟩

/-- Addition; `none` when the seconds overflow. -/
def checkedAdd (d e : Duration) : Option Duration :=
  -- the nanoseconds are added first, and carry one second at most
  if hn : d.subsecNanos + e.subsecNanos < 1000000000 then
    if hs : d.secs + e.secs ≤ u64Max then
      some ⟨d.secs + e.secs, d.subsecNanos + e.subsecNanos, hs, hn⟩
    else none
  else if hs : d.secs + e.secs + 1 ≤ u64Max then
    some ⟨d.secs + e.secs + 1, d.subsecNanos + e.subsecNanos - 1000000000, hs, by
      have hd := d.subsec_lt
      have he := e.subsec_lt
      omega⟩
  else none

def asMillis (d : Duration) : ℕ := d.secs * 1000 + d.subsecNanos / 1000000

def asSecs (d : Duration) : ℕ := d.secs

theorem asMillis_eq (d : Duration) : d.asMillis = d.nanos / 1000000 := by
  unfold asMillis nanos
  omega

theorem asSecs_eq (d : Duration) : d.asSecs = d.nanos / 1000000000 := by
  have h := d.subsec_lt
  unfold asSecs nanos
  omega

theorem checkedDiv_of_pos (d : Duration) {n : ℕ} (h : 0 < n) :
    ∃ e, d.checkedDiv n = some e ∧ e.nanos = d.nanos / n := by
  unfold checkedDiv
  -- seconds and nanoseconds of the quotient are its parts, so they add up to it
  rw [if_neg (by omega)]
  refine ⟨_, rfl, ?_⟩
  unfold nanos
  exact Nat.div_add_mod' _ _

@[simp] theorem nanos_fromSecs (s : ℕ) (h : s ≤ u64Max) :
    (fromSecs s h).nanos = s * 1000000000 := Nat.add_zero _

/-- A sum that fits is the sum. -/
theorem nanos_of_checkedAdd {d e sum : Duration} (h : d.checkedAdd e = some sum) :
    sum.nanos = d.nanos + e.nanos := by
  unfold checkedAdd at h
  split at h
  · split at h
    · obtain rfl := Option.some.inj h
      simp only [nanos]
      omega
    · cases h
  · split at h
    · obtain rfl := Option.some.inj h
      simp only [nanos]
      omega
    · cases h

/-- Adding whole seconds fails exactly when their sum does not fit. -/
theorem checkedAdd_fromSecs_eq_none {s t : ℕ} (hs : s ≤ u64Max) (ht : t ≤ u64Max) :
    (fromSecs s hs).checkedAdd (fromSecs t ht) = none ↔ u64Max < s + t := by
  unfold checkedAdd
  -- whole seconds have no nanoseconds that could carry
  rw [dif_pos (show (fromSecs s hs).subsecNanos + (fromSecs t ht).subsecNanos < 1000000000 from
    Nat.zero_lt_of_ne_zero (by decide))]
  by_cases h : s + t ≤ u64Max
  · rw [dif_pos (show (fromSecs s hs).secs + (fromSecs t ht).secs ≤ u64Max from h)]
    exact iff_of_false (fun hc => by cases hc) (by omega)
  · rw [dif_neg (show ¬ (fromSecs s hs).secs + (fromSecs t ht).secs ≤ u64Max from h)]
    exact iff_of_true rfl (by omega)

/-- Whole seconds plus one is strictly more than the milliseconds. -/
theorem asMillis_lt_ttl (d : Duration) : d.asMillis < (d.asSecs + 1) * 1000 := by
  have h := d.subsec_lt
  unfold asMillis asSecs
  omega

end Duration
