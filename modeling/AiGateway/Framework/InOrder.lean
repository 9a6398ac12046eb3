import Mathlib.Data.List.Infix
import Mathlib.Tactic.Common

/-!
# Texts that occur one after the other

Some texts occur in order in some pieces of text if each of them stands in one of the pieces,
behind where the one before it ends. Two texts may stand in one piece, and do not overlap.

* `exists_isInfix_of_mem`: each of the texts is a part of a piece;
* `cons_self_iff`: a first text that is all of the first piece may be taken off both.
-/

/-- The texts occur in the pieces, in their order. -/
inductive InOrder {α : Type*} : List (List α) → List (List α) → Prop
  | nil (pieces : List (List α)) : InOrder [] pieces
  /-- The first text stands in the first piece, and the others behind it. -/
  | here {before text after : List α} {texts pieces : List (List α)} :
      InOrder texts (after :: pieces) →
        InOrder (text :: texts) ((before ++ text ++ after) :: pieces)
  | next {piece : List α} {texts pieces : List (List α)} :
      InOrder texts pieces → InOrder texts (piece :: pieces)

namespace InOrder

variable {α : Type*} {text piece : List α} {texts pieces : List (List α)}

/-- Every text is a part of one of the pieces. -/
theorem exists_isInfix_of_mem (h : InOrder texts pieces) {t : List α} (ht : t ∈ texts) :
    ∃ piece ∈ pieces, t <:+: piece := by
  induction h with
  | nil pieces => cases ht
  | @here before text after texts pieces h ih =>
    rcases List.mem_cons.mp ht with rfl | ht
    · exact ⟨_, List.mem_cons_self, before, after, rfl⟩
    · obtain ⟨piece, hpiece, hinfix⟩ := ih ht
      rcases List.mem_cons.mp hpiece with rfl | hpiece
      -- what stands behind the first text stands in its piece
      · exact ⟨_, List.mem_cons_self, hinfix.trans (List.suffix_append _ _).isInfix⟩
      · exact ⟨piece, List.mem_cons_of_mem _ hpiece, hinfix⟩
  | @next first texts pieces h ih =>
    obtain ⟨piece, hpiece, hinfix⟩ := ih ht
    exact ⟨piece, List.mem_cons_of_mem _ hpiece, hinfix⟩

/-- A longer first piece holds as much. -/
theorem append_left (h : InOrder texts (piece :: pieces)) (before : List α) :
    InOrder texts ((before ++ piece) :: pieces) := by
  cases h with
  | nil => exact .nil _
  | @here before' text after texts _ h =>
    rw [← List.append_assoc, ← List.append_assoc]
    exact .here h
  | next h => exact .next h

/-- Without its first text the rest still occurs. -/
theorem tail (h : InOrder (text :: texts) pieces) : InOrder texts pieces := by
  induction pieces with
  | nil => cases h
  | cons first pieces ih =>
    cases h with
    | here h => exact h.append_left _
    | next h => exact .next (ih h)

/-- **Taking off what is the same.** If the first piece is the first text, it may be used up
for it. -/
theorem cons_self_iff :
    InOrder (text :: texts) (text :: pieces) ↔ InOrder texts ([] :: pieces) := by
  constructor
  · intro h
    generalize hpiece : text :: pieces = all at h
    cases h with
    | @here before _ after _ pieces' h =>
      obtain ⟨htext, rfl⟩ := List.cons.inj hpiece
      -- nothing is left around the text
      have hlength := congrArg List.length htext
      rw [List.length_append, List.length_append] at hlength
      have hafter : after = [] := List.eq_nil_of_length_eq_zero (by omega)
      rwa [hafter] at h
    | next h =>
      obtain ⟨-, rfl⟩ := List.cons.inj hpiece
      exact .next h.tail
  · intro h
    have hhere : InOrder (text :: texts) (([] ++ text ++ []) :: pieces) := .here h
    rwa [List.nil_append, List.append_nil] at hhere

end InOrder
