import Mathlib.Data.Nat.Init
import Mathlib.Tactic.Common

/-!
# Loops and the number of their rounds

A loop without a counter: its body ends it, or gives the state that the next round starts with.
What a round meets from outside is an input of its own, so that nothing is assumed about how the
outside changes between two rounds.

* `Ends.unique`: a loop ends in one round at most, with one result;
* `exists_ends_le`: a measure that every further round uses up bounds the number of rounds.
-/

namespace Loop

variable {State Input Result : Type*}

/-- What a round comes to. -/
inductive Round (State Result : Type*)
  | again (s : State)
  | exit (r : Result)

/-- `Ends body inputs s k r`: from the state `s` the loop ends in its round number `k`, with `r`. -/
inductive Ends (body : Input → State → Round State Result) :
    (ℕ → Input) → State → ℕ → Result → Prop
  | exit {inputs : ℕ → Input} {s : State} {r : Result} :
      body (inputs 0) s = .exit r → Ends body inputs s 1 r
  | again {inputs : ℕ → Input} {s s' : State} {k : ℕ} {r : Result} :
      body (inputs 0) s = .again s' → Ends body (fun n => inputs (n + 1)) s' k r →
      Ends body inputs s (k + 1) r

variable {body : Input → State → Round State Result} {inputs : ℕ → Input} {s : State}

namespace Ends

variable {k k' : ℕ} {r r' : Result}

/-- The first round that does not go on is the only one. -/
theorem unique (h : Ends body inputs s k r) (h' : Ends body inputs s k' r') : k = k' ∧ r = r' := by
  induction h generalizing k' with
  | exit hexit =>
    cases h' with
    | exit hexit' => exact ⟨rfl, Round.exit.inj (hexit.symm.trans hexit')⟩
    | again hagain' _ => cases hexit.symm.trans hagain'
  | again hagain _ ih =>
    cases h' with
    | exit hexit' => cases hexit'.symm.trans hagain
    | again hagain' hrest =>
      obtain rfl := Round.again.inj (hagain.symm.trans hagain')
      obtain ⟨rfl, rfl⟩ := ih hrest
      exact ⟨rfl, rfl⟩

end Ends

/-- **Measure rule.** Where every round that goes on uses up some of a measure, the loop ends, in
one round more than there is of it at most. -/
theorem exists_ends_le (measure : State → ℕ)
    (hbody : ∀ i s s', body i s = .again s' → measure s' < measure s) (inputs : ℕ → Input)
    (s : State) : ∃ k r, k ≤ measure s + 1 ∧ Ends body inputs s k r := by
  induction hmeasure : measure s using Nat.strong_induction_on generalizing inputs s with
  | _ n ih =>
    subst hmeasure
    cases hround : body (inputs 0) s with
    | exit r => exact ⟨1, r, Nat.le_add_left 1 _, .exit hround⟩
    | again s' =>
      have hlt := hbody _ _ _ hround
      obtain ⟨k, r, hk, hends⟩ := ih _ hlt (fun n => inputs (n + 1)) s' rfl
      exact ⟨k + 1, r, Nat.succ_le_succ (Nat.le_trans hk hlt), .again hround hends⟩

end Loop
