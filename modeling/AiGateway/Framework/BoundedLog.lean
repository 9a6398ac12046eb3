import Mathlib.Data.List.DropRight
import Mathlib.Tactic.Common

/-!
# Logs of bounded length

A log keeps what was written to it last, oldest entry first. Writing to a full log drops
its oldest entry, so that the log is always a suffix of everything written:
`entries_pushAll` says which one.
-/

/-- A list of at most `capacity` entries. -/
structure BoundedLog (α : Type*) (capacity : ℕ) where
  entries : List α
  length_le : entries.length ≤ capacity

namespace BoundedLog

variable {α : Type*} {capacity : ℕ}

/-- Write an entry, and drop the oldest one if there are too many. -/
def push (log : BoundedLog α capacity) (x : α) : BoundedLog α capacity :=
  if h : (log.entries ++ [x]).length > capacity then
    ⟨(log.entries ++ [x]).tail, by
      have hle := log.length_le
      rw [List.length_tail, List.length_append, List.length_singleton]
      omega⟩
  else ⟨log.entries ++ [x], Nat.le_of_not_gt h⟩

/-- Write a list of entries. -/
def pushAll (log : BoundedLog α capacity) (xs : List α) : BoundedLog α capacity :=
  xs.foldl push log

@[simp] theorem pushAll_nil (log : BoundedLog α capacity) : log.pushAll [] = log := rfl

@[simp] theorem pushAll_cons (log : BoundedLog α capacity) (x : α) (xs : List α) :
    log.pushAll (x :: xs) = (log.push x).pushAll xs := rfl

/-- What is within the capacity is kept. -/
theorem rtake_eq_self {l : List α} (h : l.length ≤ capacity) : l.rtake capacity = l := by
  rw [List.rtake, Nat.sub_eq_zero_of_le h, List.drop_zero]

/-- Entries that are dropped early would be dropped later as well. -/
theorem rtake_append_rtake (l xs : List α) :
    (l.rtake capacity ++ xs).rtake capacity = (l ++ xs).rtake capacity := by
  unfold List.rtake
  -- the first drop is part of the second one
  have hle : l.length - capacity ≤ (l ++ xs).length - capacity := by
    rw [List.length_append]
    omega
  have hdrop : l.drop (l.length - capacity) ++ xs = (l ++ xs).drop (l.length - capacity) :=
    (List.drop_append_of_le_length (Nat.sub_le _ _)).symm
  rw [hdrop, List.drop_drop, List.length_drop]
  congr 1
  omega

/-- A log after one more entry. -/
theorem entries_push (log : BoundedLog α capacity) (x : α) :
    (log.push x).entries = (log.entries ++ [x]).rtake capacity := by
  have hle := log.length_le
  unfold push
  split
  · next hfull =>
    -- exactly one entry is too many
    have hone : (log.entries ++ [x]).length - capacity = 1 := by
      rw [List.length_append, List.length_singleton] at hfull ⊢
      omega
    rw [List.rtake, hone, List.drop_one]
  · next hroom => exact (rtake_eq_self (Nat.le_of_not_gt hroom)).symm

/-- **A log is the end of what was written.** -/
theorem entries_pushAll (log : BoundedLog α capacity) (xs : List α) :
    (log.pushAll xs).entries = (log.entries ++ xs).rtake capacity := by
  induction xs generalizing log with
  | nil =>
    rw [pushAll_nil, List.append_nil]
    exact (rtake_eq_self log.length_le).symm
  | cons x xs ih =>
    rw [pushAll_cons, ih, entries_push, rtake_append_rtake, List.append_assoc,
      List.singleton_append]

end BoundedLog
