import Mathlib.Tactic.Common

/-!
# Computations with effects

A computation has effects, one after the other, and ends with a value or an error. What it has
done before an error stays done.

* `effects_bind_of_ok`, `effects_bind_of_error`: the effects of a sequence;
* `mem_effects_bind`: where an effect of a sequence comes from;
* `Upward.bind`: parts whose effects go upward one after the other are a sequence whose effects go
  upward.
-/

/-- A computation. -/
structure Effectful (Effect ε α : Type) where
  effects : List Effect
  result : Except ε α

namespace Effectful

variable {Effect ε α β : Type}

/-- One computation after the other, which depends on the value of the first. -/
def andThen (m : Effectful Effect ε α) (f : α → Effectful Effect ε β) : Effectful Effect ε β :=
  match m.result with
  | .ok a => ⟨m.effects ++ (f a).effects, (f a).result⟩
  | .error e => ⟨m.effects, .error e⟩

instance : Monad (Effectful Effect ε) where
  pure a := ⟨[], .ok a⟩
  bind := andThen

/-- One effect. -/
def perform (effect : Effect) : Effectful Effect ε Unit := ⟨[effect], .ok ()⟩

/-- A computation without effects. -/
def ofExcept (result : Except ε α) : Effectful Effect ε α := ⟨[], result⟩

section Sequence

variable {m : Effectful Effect ε α} {f : α → Effectful Effect ε β}

theorem effects_bind_of_ok {a : α} (h : m.result = .ok a) :
    (m >>= f).effects = m.effects ++ (f a).effects := by
  show (andThen m f).effects = _
  unfold andThen
  rw [h]

theorem effects_bind_of_error {e : ε} (h : m.result = .error e) :
    (m >>= f).effects = m.effects := by
  show (andThen m f).effects = _
  unfold andThen
  rw [h]

/-- A sequence succeeds when both of its parts do. -/
theorem result_bind_eq_ok_iff {b : β} :
    (m >>= f).result = .ok b ↔ ∃ a, m.result = .ok a ∧ (f a).result = .ok b := by
  show (andThen m f).result = _ ↔ _
  unfold andThen
  cases m.result with
  | error e => simp
  | ok a => simp

/-- **Where an effect comes from.** -/
theorem mem_effects_bind {effect : Effect} :
    effect ∈ (m >>= f).effects ↔
      effect ∈ m.effects ∨ ∃ a, m.result = .ok a ∧ effect ∈ (f a).effects := by
  cases h : m.result with
  | error e =>
    rw [effects_bind_of_error h]
    simp
  | ok a =>
    rw [effects_bind_of_ok h, List.mem_append]
    simp

/-- Parts without effects are a sequence without effects. -/
theorem effects_bind_eq_nil (hm : m.effects = []) (hf : ∀ a, (f a).effects = []) :
    (m >>= f).effects = [] := by
  cases h : m.result with
  | error e => rw [effects_bind_of_error h, hm]
  | ok a => rw [effects_bind_of_ok h, hm, hf a, List.append_nil]

/-- What all effects of the parts have, all effects of the sequence have. -/
theorem forall_mem_effects_bind {P : Effect → Prop} (hm : ∀ effect ∈ m.effects, P effect)
    (hf : ∀ a, m.result = .ok a → ∀ effect ∈ (f a).effects, P effect) :
    ∀ effect ∈ (m >>= f).effects, P effect := by
  intro effect heffect
  rcases mem_effects_bind.mp heffect with heffect | ⟨a, ha, heffect⟩
  · exact hm effect heffect
  · exact hf a ha effect heffect

end Sequence

/-! ### Order -/

/-- **The effects go upward**, from one stage to a later one, all of them within `low` and
`high`. -/
structure Upward (stage : Effect → ℕ) (low high : ℕ) (m : Effectful Effect ε α) : Prop where
  pairwise : m.effects.Pairwise fun effect effect' => stage effect < stage effect'
  within : ∀ effect ∈ m.effects, low ≤ stage effect ∧ stage effect < high

variable {stage : Effect → ℕ} {low middle high : ℕ}

theorem Upward.of_nil {m : Effectful Effect ε α} (h : m.effects = []) :
    Upward stage low high m := by
  constructor
  · rw [h]
    exact List.Pairwise.nil
  · rw [h]
    exact fun _ hmem => absurd hmem List.not_mem_nil

theorem Upward.perform {effect : Effect} (hlow : low ≤ stage effect) (hhigh : stage effect < high) :
    Upward stage low high (perform effect : Effectful Effect ε Unit) := by
  constructor
  · exact List.pairwise_singleton _ effect
  · intro effect' heffect'
    obtain rfl := List.mem_singleton.mp heffect'
    exact ⟨hlow, hhigh⟩

/-- **Upward sequences.** -/
theorem Upward.bind {m : Effectful Effect ε α} {f : α → Effectful Effect ε β}
    (hm : Upward stage low middle m) (hf : ∀ a, m.result = .ok a → Upward stage middle high (f a))
    (hlow : low ≤ middle) (hhigh : middle ≤ high) : Upward stage low high (m >>= f) := by
  constructor
  · cases h : m.result with
    | error e =>
      rw [effects_bind_of_error h]
      exact hm.pairwise
    | ok a =>
      rw [effects_bind_of_ok h, List.pairwise_append]
      refine ⟨hm.pairwise, (hf a h).pairwise, fun effect heffect effect' heffect' => ?_⟩
      -- the stage between the parts is between their effects
      calc stage effect
          < middle := (hm.within effect heffect).2
        _ ≤ stage effect' := ((hf a h).within effect' heffect').1
  · apply forall_mem_effects_bind
    · intro effect heffect
      obtain ⟨hle, hlt⟩ := hm.within effect heffect
      exact ⟨hle, Nat.lt_of_lt_of_le hlt hhigh⟩
    · intro a ha effect heffect
      obtain ⟨hle, hlt⟩ := (hf a ha).within effect heffect
      exact ⟨Nat.le_trans hlow hle, hlt⟩

end Effectful
