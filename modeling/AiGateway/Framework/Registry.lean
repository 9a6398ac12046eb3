import Mathlib.Data.List.AList
import Mathlib.Data.List.Count
import Mathlib.Data.Option.Basic
import Mathlib.Tactic.Common

/-!
# Maps that are written again and again

A map that several parties write, each under its own key, keeps of each key what was
written last. What has been written so far is a log, the newest entry first.

* `Logs.insert`: writing to the map is one more entry of the log;
* `exists_of_lookup_foldl_insert`: what is found in a map that a list was put into;
* `forall_lookup_iff`: no value of a key is replaced exactly when the key is written at
  most once.
-/

namespace Registry

variable {K V W : Type}

/-- **A map follows a log.** It has a value under the keys of the log, and that value is
related to the last one of its key. -/
def Logs [DecidableEq K] (rel : W → V → Prop) (m : AList fun _ : K => W) (log : List (K × V)) :
    Prop :=
  ∀ k, Option.Rel rel (m.lookup k) (log.lookup k)

section Logs

variable [DecidableEq K] {rel : W → V → Prop} {m : AList fun _ : K => W} {log : List (K × V)}

theorem logs_empty : Logs rel (∅ : AList fun _ : K => W) ([] : List (K × V)) := by
  intro k
  rw [AList.lookup_empty]
  exact .none

/-- Writing to the map is one more entry of the log. -/
theorem Logs.insert (h : Logs rel m log) (k : K) {w : W} {v : V} (hrel : rel w v) :
    Logs rel (m.insert k w) ((k, v) :: log) := by
  intro k'
  by_cases hk : k' = k
  · subst hk
    rw [AList.lookup_insert, List.lookup_cons_self]
    exact .some hrel
  · rw [AList.lookup_insert_ne hk, List.lookup_cons, beq_eq_false_iff_ne.mpr hk]
    exact h k'

/-- What the map has is related to what the log has. -/
theorem Logs.rel_of_lookup (h : Logs rel m log) {k : K} {w : W} {v : V}
    (hw : m.lookup k = some w) (hv : log.lookup k = some v) : rel w v := by
  have hk := h k
  rw [hw, hv] at hk
  cases hk with
  | some hrel => exact hrel

theorem Logs.exists_of_lookup (h : Logs rel m log) {k : K} {v : V} (hv : log.lookup k = some v) :
    ∃ w, m.lookup k = some w ∧ rel w v := by
  have hk := h k
  rw [hv] at hk
  cases hw : m.lookup k with
  | none =>
    rw [hw] at hk
    cases hk
  | some w => exact ⟨w, rfl, h.rel_of_lookup hw hv⟩

theorem Logs.exists_log_of_lookup (h : Logs rel m log) {k : K} {w : W} (hw : m.lookup k = some w) :
    ∃ v, log.lookup k = some v ∧ rel w v := by
  have hk := h k
  rw [hw] at hk
  cases hv : log.lookup k with
  | none =>
    rw [hv] at hk
    cases hk
  | some v => exact ⟨v, rfl, h.rel_of_lookup hw hv⟩

end Logs

/-- What is found in a map that a list was put into comes from the list. -/
theorem exists_of_lookup_foldl_insert [DecidableEq K] (f : V → W) (entries : List (K × V))
    {m : AList fun _ : K => W} {k : K} {w : W}
    (h : (entries.foldl (fun m e => m.insert e.1 (f e.2)) m).lookup k = some w) :
    m.lookup k = some w ∨ ∃ v, (k, v) ∈ entries ∧ w = f v := by
  induction entries generalizing m with
  | nil => exact Or.inl h
  | cons e entries ih =>
    rcases ih h with h | ⟨v, hv, rfl⟩
    · by_cases hk : k = e.1
      · subst hk
        rw [AList.lookup_insert] at h
        exact Or.inr ⟨e.2, List.mem_cons_self, (Option.some.inj h).symm⟩
      · rw [AList.lookup_insert_ne hk] at h
        exact Or.inl h
    · exact Or.inr ⟨v, List.mem_cons_of_mem e hv, rfl⟩

/-! ### What is replaced -/

variable [DecidableEq K]

theorem mem_of_lookup {log : List (K × V)} {k : K} {v : V} (h : log.lookup k = some v) :
    (k, v) ∈ log := by
  obtain ⟨l₁, l₂, rfl, -⟩ := List.lookup_eq_some_iff.mp h
  exact List.mem_append_right _ List.mem_cons_self

/-- The entry of a key that has one. -/
theorem lookup_of_mem {log : List (K × V)} (hnodup : (log.map Prod.fst).Nodup) {k : K} {v : V}
    (h : (k, v) ∈ log) : log.lookup k = some v := by
  obtain ⟨l₁, l₂, rfl⟩ := List.append_of_mem h
  refine List.lookup_eq_some_iff.mpr ⟨l₁, l₂, rfl, fun p hp => ?_⟩
  rw [List.map_append, List.map_cons] at hnodup
  have hne : p.1 ≠ k := (List.nodup_append.mp hnodup).2.2 p.1 (List.mem_map_of_mem hp) k
    List.mem_cons_self
  exact bne_iff_ne.mpr hne.symm

/-- **What a key keeps.** If no two entries of a log have the same value, then every value
of a key is still found under it exactly when the key has at most one entry. -/
theorem forall_lookup_iff {log : List (K × V)} (hnodup : (log.map Prod.snd).Nodup) (k : K) :
    (∀ v, (k, v) ∈ log → log.lookup k = some v) ↔ (log.map Prod.fst).count k ≤ 1 := by
  induction log with
  | nil => simp
  | cons p log ih =>
    obtain ⟨k', v'⟩ := p
    obtain ⟨hfresh, hrest⟩ := List.nodup_cons.mp hnodup
    rw [List.map_cons]
    by_cases hk : k = k'
    · -- the newest entry hides every older one of its key
      subst hk
      rw [List.lookup_cons_self, List.count_cons_self]
      have hzero : (log.map Prod.fst).count k = 0 ↔ ∀ v, (k, v) ∉ log := by
        rw [List.count_eq_zero, List.mem_map]
        exact ⟨fun h v hv => h ⟨(k, v), hv, rfl⟩, fun h ⟨p, hp, hpk⟩ => h p.2 (hpk ▸ hp)⟩
      rw [Nat.succ_le_succ_iff, Nat.le_zero, hzero]
      constructor
      -- an older value would be the newest one again
      · intro h v hv
        obtain rfl := Option.some.inj (h v (List.mem_cons_of_mem _ hv))
        exact hfresh (List.mem_map_of_mem hv)
      · intro h v hv
        rcases List.mem_cons.mp hv with heq | hv
        · rw [(Prod.mk.inj heq).2]
        · exact absurd hv (h v)
    · rw [List.lookup_cons, beq_eq_false_iff_ne.mpr hk, List.count_cons_of_ne (Ne.symm hk),
        ← ih hrest]
      -- an entry of another key is not seen
      constructor
      · intro h v hv
        exact h v (List.mem_cons_of_mem _ hv)
      · intro h v hv
        rcases List.mem_cons.mp hv with heq | hv
        · exact absurd (Prod.mk.inj heq).1 hk
        · exact h v hv

end Registry
