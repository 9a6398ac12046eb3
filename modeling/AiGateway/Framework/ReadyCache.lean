import Mathlib.Data.List.Basic
import Mathlib.Data.List.Nodup
import Mathlib.Data.List.Perm.Basic
import Mathlib.Tactic.Common

/-!
# The ready cache

The set of services behind a load balancer: services that are `ready`, in the
order of an index map, and services that are `pending`. A service is represented
by its key; whether it is ready is decided outside, one poll at a time.

The ready services are addressed by index between polls, and a removal moves the
last one into the gap (`swapRemoveIndex`), so an index chosen earlier may point at
another service, or past the end. `swapRemoveIndex_perm` reduces removal to
erasure, up to the order.

Both lists are without duplicates by construction. What each operation does to
membership is a `mem_` lemma; `members` is the set as a whole.
-/

namespace Tower

variable {K : Type*}

/-! ### Removal from an index map -/

/-- Remove index `i`, moving the last element into its place. -/
def swapRemoveIndex (l : List K) (i : ℕ) : List K :=
  if i < l.length then
    match l.getLast? with
    | none => l
    | some last => if i + 1 = l.length then l.dropLast else l.dropLast.set i last
  else l

theorem swapRemoveIndex_of_ge {l : List K} {i : ℕ} (h : l.length ≤ i) :
    swapRemoveIndex l i = l := if_neg (by omega)

/-- Overwriting an element is erasing it and adding the new one. -/
private theorem set_perm_cons_eraseIdx {l : List K} {i : ℕ} (h : i < l.length) (x : K) :
    (l.set i x).Perm (x :: l.eraseIdx i) := by
  induction l generalizing i with
  | nil => exact absurd h (Nat.not_lt_zero i)
  | cons y l ih =>
    cases i with
    | zero => exact List.Perm.refl _
    | succ i =>
      rw [List.set_cons_succ, List.eraseIdx_cons_succ]
      exact ((ih (Nat.lt_of_succ_lt_succ h)).cons y).trans (List.Perm.swap x y _)

/-- Up to the order, removal is erasure. -/
theorem swapRemoveIndex_perm (l : List K) (i : ℕ) : (swapRemoveIndex l i).Perm (l.eraseIdx i) := by
  by_cases h : i < l.length
  · obtain rfl | ⟨d, last, rfl⟩ := List.eq_nil_or_concat l
    · exact absurd h (Nat.not_lt_zero i)
    rw [List.concat_eq_append] at h ⊢
    rw [List.length_append, List.length_singleton] at h
    unfold swapRemoveIndex
    rw [if_pos (by rwa [List.length_append]), List.getLast?_concat, List.dropLast_concat]
    dsimp only
    by_cases hlast : i = d.length
    -- the last element itself is removed
    · subst hlast
      rw [if_pos (by rw [List.length_append, List.length_singleton]),
        List.eraseIdx_append_of_length_le (Nat.le_refl _), Nat.sub_self,
        List.eraseIdx_cons_zero, List.append_nil]
    -- the last element fills the gap
    · rw [if_neg (by rw [List.length_append, List.length_singleton]; omega),
        List.eraseIdx_append_of_lt_length (by omega)]
      exact (set_perm_cons_eraseIdx (by omega) last).trans (List.perm_append_singleton _ _).symm
  · rw [swapRemoveIndex_of_ge (by omega), List.eraseIdx_of_length_le (by omega)]

theorem nodup_swapRemoveIndex {l : List K} (h : l.Nodup) (i : ℕ) : (swapRemoveIndex l i).Nodup :=
  (swapRemoveIndex_perm l i).nodup_iff.mpr (h.sublist (List.eraseIdx_sublist l i))

theorem mem_of_mem_swapRemoveIndex {l : List K} {i : ℕ} {x : K} (h : x ∈ swapRemoveIndex l i) :
    x ∈ l := List.mem_of_mem_eraseIdx ((swapRemoveIndex_perm l i).mem_iff.mp h)

/-- Whatever is not at the index stays. -/
theorem mem_swapRemoveIndex {l : List K} {i : ℕ} {x : K} (hx : x ∈ l) (hi : l[i]? ≠ some x) :
    x ∈ swapRemoveIndex l i := by
  rw [(swapRemoveIndex_perm l i).mem_iff, List.mem_eraseIdx_iff_getElem?]
  -- the element is at some index, and that is not the one removed
  obtain ⟨j, hj⟩ := List.mem_iff_getElem?.mp hx
  refine ⟨j, ?_, hj⟩
  rintro rfl
  exact hi hj

theorem length_swapRemoveIndex_lt {l : List K} {i : ℕ} (h : i < l.length) :
    (swapRemoveIndex l i).length < l.length := by
  rw [(swapRemoveIndex_perm l i).length_eq, List.length_eraseIdx_of_lt h]
  omega

variable [DecidableEq K]

/-- Remove a key, moving the last element into its place. -/
def swapRemove (l : List K) (key : K) : List K :=
  match l.idxOf? key with
  | some i => swapRemoveIndex l i
  | none => l

theorem swapRemove_perm (l : List K) (key : K) : (swapRemove l key).Perm (l.erase key) := by
  unfold swapRemove
  cases h : l.idxOf? key with
  | none => rw [List.erase_of_not_mem (List.idxOf?_eq_none_iff.mp h)]
  | some i =>
    have herase : l.erase key = l.eraseIdx i := by
      rw [List.erase_eq_eraseIdx, h]
    rw [herase]
    exact swapRemoveIndex_perm l i

/-! ### The cache -/

/-- A change of the set of services. -/
inductive Change (K : Type*)
  | insert (key : K)
  | remove (key : K)
  deriving DecidableEq

/-- The key of the service a change is about. -/
def Change.key {K : Type*} : Change K → K
  | .insert key => key
  | .remove key => key

/-- The services that are ready, in order, and those that are pending. -/
structure ReadyCache (K : Type*) where
  ready : List K
  pending : List K
  ready_nodup : ready.Nodup
  pending_nodup : pending.Nodup

/-- How a service answers a poll. -/
inductive Readiness
  | ready
  | pending
  | failed
  deriving DecidableEq

namespace ReadyCache

def empty : ReadyCache K := ⟨[], [], List.nodup_nil, List.nodup_nil⟩

/-- The keys of all services. -/
def members (c : ReadyCache K) : List K := c.ready ++ c.pending

/-- `push`: a pending service of the same key is cancelled, a ready one stays. -/
def push (c : ReadyCache K) (key : K) : ReadyCache K :=
  { c with pending := c.pending.insert key, pending_nodup := c.pending_nodup.insert }

/-- `evict`: the service goes, ready or pending. -/
def evict (c : ReadyCache K) (key : K) : ReadyCache K where
  ready := swapRemove c.ready key
  pending := c.pending.erase key
  ready_nodup := (swapRemove_perm c.ready key).nodup_iff.mpr (c.ready_nodup.erase key)
  pending_nodup := c.pending_nodup.erase key

/-- A change is applied. -/
def apply (c : ReadyCache K) : Change K → ReadyCache K
  | .insert key => c.push key
  | .remove key => c.evict key

/-- One pending service completes. It takes the place of a ready one of the same
key, or the last place; a failed one is dropped. -/
def complete (c : ReadyCache K) (key : K) (ok : Bool) : ReadyCache K :=
  if key ∈ c.pending then
    { ready := if ok ∧ key ∉ c.ready then c.ready ++ [key] else c.ready
      pending := c.pending.erase key
      ready_nodup := by
        split
        · next h => exact List.nodup_append_comm.mp (List.nodup_cons.mpr ⟨h.2, c.ready_nodup⟩)
        · exact c.ready_nodup
      pending_nodup := c.pending_nodup.erase key }
  else c

/-- `poll_pending`, until nothing more completes: the pending services that
complete, in their order, and whether they are ready or failed. -/
def pollPending (c : ReadyCache K) (completions : List (K × Bool)) : ReadyCache K :=
  completions.foldl (fun c p => c.complete p.1 p.2) c

/-- The ready service at an index is moved back to the pending ones, unless a new
version of it is pending already. -/
def demote (c : ReadyCache K) (i : ℕ) : ReadyCache K where
  ready := swapRemoveIndex c.ready i
  pending := match c.ready[i]? with
    | some key => c.pending.insert key
    | none => c.pending
  ready_nodup := nodup_swapRemoveIndex c.ready_nodup i
  pending_nodup := by
    split
    · exact c.pending_nodup.insert
    · exact c.pending_nodup

/-- The ready service at an index is dropped. -/
def drop (c : ReadyCache K) (i : ℕ) : ReadyCache K where
  ready := swapRemoveIndex c.ready i
  pending := c.pending
  ready_nodup := nodup_swapRemoveIndex c.ready_nodup i
  pending_nodup := c.pending_nodup

/-- `check_ready_index`: whether the service at an index is still ready. One that
is not leaves the ready services; an index past the end is not ready. -/
def checkReadyIndex (c : ReadyCache K) (check : K → Readiness) (i : ℕ) : Bool × ReadyCache K :=
  match c.ready[i]? with
  | none => (false, c)
  | some key =>
    match check key with
    | .ready => (true, c)
    | .pending => (false, c.demote i)
    | .failed => (false, c.drop i)

/-- `call_ready_index`: the service that is called has to become ready again. -/
def callReadyIndex (c : ReadyCache K) (i : ℕ) : ReadyCache K := c.demote i

/-! ### Membership -/

omit [DecidableEq K] in
theorem mem_members {c : ReadyCache K} {k : K} : k ∈ c.members ↔ k ∈ c.ready ∨ k ∈ c.pending :=
  List.mem_append

theorem mem_members_push {c : ReadyCache K} {key k : K} :
    k ∈ (c.push key).members ↔ k = key ∨ k ∈ c.members := by
  rw [mem_members, mem_members]
  change k ∈ c.ready ∨ k ∈ c.pending.insert key ↔ _
  rw [List.mem_insert_iff]
  tauto

theorem mem_members_evict {c : ReadyCache K} {key k : K} :
    k ∈ (c.evict key).members ↔ k ≠ key ∧ k ∈ c.members := by
  rw [mem_members, mem_members]
  change k ∈ swapRemove c.ready key ∨ k ∈ c.pending.erase key ↔ _
  rw [(swapRemove_perm c.ready key).mem_iff, c.ready_nodup.mem_erase_iff,
    c.pending_nodup.mem_erase_iff]
  tauto

/-- A completion adds no service. -/
theorem mem_members_complete {c : ReadyCache K} {key k : K} {ok : Bool}
    (h : k ∈ (c.complete key ok).members) : k ∈ c.members := by
  unfold complete at h
  split at h
  · next hkey =>
    rw [mem_members] at h ⊢
    dsimp only at h
    -- the one that completes was pending, and all the others were there
    rcases h with h | h
    · split at h
      · rcases List.mem_append.mp h with h | h
        · exact Or.inl h
        · rw [List.mem_singleton.mp h]
          exact Or.inr hkey
      · exact Or.inl h
    · exact Or.inr (List.mem_of_mem_erase h)
  · exact h

theorem mem_members_pollPending {completions : List (K × Bool)} {c : ReadyCache K} {k : K}
    (h : k ∈ (c.pollPending completions).members) : k ∈ c.members := by
  induction completions generalizing c with
  | nil => exact h
  | cons p completions ih => exact mem_members_complete (ih h)

theorem mem_members_demote {c : ReadyCache K} {i : ℕ} {k : K} (h : k ∈ (c.demote i).members) :
    k ∈ c.members := by
  rw [mem_members] at h ⊢
  change k ∈ swapRemoveIndex c.ready i ∨ _ at h
  rcases h with h | h
  · exact Or.inl (mem_of_mem_swapRemoveIndex h)
  · unfold demote at h
    dsimp only at h
    split at h
    · next key hkey =>
      rcases List.mem_insert_iff.mp h with rfl | h
      · exact Or.inl (List.mem_of_getElem? hkey)
      · exact Or.inr h
    · exact Or.inr h

omit [DecidableEq K] in
theorem mem_members_drop {c : ReadyCache K} {i : ℕ} {k : K} (h : k ∈ (c.drop i).members) :
    k ∈ c.members := by
  rw [mem_members] at h ⊢
  exact h.imp_left mem_of_mem_swapRemoveIndex

theorem mem_members_checkReadyIndex {c : ReadyCache K} {check : K → Readiness} {i : ℕ} {k : K}
    (h : k ∈ (c.checkReadyIndex check i).2.members) : k ∈ c.members := by
  unfold checkReadyIndex at h
  split at h
  · exact h
  · split at h
    · exact h
    · exact mem_members_demote h
    · exact mem_members_drop h

/-! ### Checking an index -/

/-- A check that fails within the range makes the ready services fewer. -/
theorem length_checkReadyIndex_lt {c : ReadyCache K} {check : K → Readiness} {i : ℕ}
    (hi : i < c.ready.length) (h : (c.checkReadyIndex check i).1 = false) :
    (c.checkReadyIndex check i).2.ready.length < c.ready.length := by
  unfold checkReadyIndex at h ⊢
  rw [List.getElem?_eq_getElem hi] at h ⊢
  dsimp only at h ⊢
  cases hc : check c.ready[i] with
  | ready => rw [hc] at h; cases h
  | pending => exact length_swapRemoveIndex_lt hi
  | failed => exact length_swapRemoveIndex_lt hi

theorem length_checkReadyIndex_le (c : ReadyCache K) (check : K → Readiness) (i : ℕ) :
    (c.checkReadyIndex check i).2.ready.length ≤ c.ready.length := by
  unfold checkReadyIndex
  cases hk : c.ready[i]? with
  | none => exact Nat.le_refl _
  | some key =>
    obtain ⟨hi, -⟩ := List.getElem?_eq_some_iff.mp hk
    dsimp only
    cases check key with
    | ready => exact Nat.le_refl _
    | pending => exact Nat.le_of_lt (length_swapRemoveIndex_lt hi)
    | failed => exact Nat.le_of_lt (length_swapRemoveIndex_lt hi)

/-- **A check never loses another service that is ready.** -/
theorem mem_ready_checkReadyIndex {c : ReadyCache K} {check : K → Readiness} {i : ℕ} {k : K}
    (hk : k ∈ c.ready) (hready : check k = .ready) :
    k ∈ (c.checkReadyIndex check i).2.ready := by
  unfold checkReadyIndex
  cases hi : c.ready[i]? with
  | none => exact hk
  | some key =>
    dsimp only
    -- a service that fails its check is not the one that passes it
    have hne : check key ≠ .ready → c.ready[i]? ≠ some k := by
      intro hkey heq
      rw [hi] at heq
      obtain rfl := Option.some.inj heq
      exact hkey hready
    cases hc : check key with
    | ready => exact hk
    | pending => exact mem_swapRemoveIndex hk (hne (by rw [hc]; exact Readiness.noConfusion))
    | failed => exact mem_swapRemoveIndex hk (hne (by rw [hc]; exact Readiness.noConfusion))

end ReadyCache

end Tower
