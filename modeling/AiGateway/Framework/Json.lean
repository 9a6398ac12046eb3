import Mathlib.Data.List.Basic
import Mathlib.Tactic.Common

/-!
# JSON documents and merge patches

JSON values, whose objects are lists of members, and the merge of a patch into a
document: objects are merged member by member, a null removes the member, and
anything else replaces what was there.

The keys of an object are distinct, which a patch has to be trusted with
(`DistinctKeys`), since the merge applies its members one after the other.
`get_mergeFields` says what a member of the merged object is.

The last section is about reading an object into a record, one member at a time: a
`Slot` is a field of the record with the key that fills it, and `Slot.read_visit` says
what it holds in the end.
-/

namespace Serde

/-- A JSON value. A number is a mantissa and a number of decimals. -/
inductive Json
  | null
  | bool (b : Bool)
  | num (mantissa : Int) (decimals : Nat)
  | str (s : String)
  | arr (items : List Json)
  | obj (fields : List (String × Json))

/-- The members of an object. -/
abbrev Fields := List (String × Json)

namespace Json

/-! ### Members -/

/-- The member of a key. -/
def get (fields : Fields) (key : String) : Option Json := fields.lookup key

/-- The member of a key of a value that is an object. -/
def field (j : Json) (key : String) : Option Json :=
  match j with
  | obj fields => get fields key
  | _ => none

/-- Remove the member of a key. -/
def remove (fields : Fields) (key : String) : Fields := fields.filter fun p => p.1 ≠ key

/-- Put a member, in the place of the one of that key or last. -/
def put : Fields → String → Json → Fields
  | [], key, value => [(key, value)]
  | p :: fields, key, value =>
    if p.1 = key then (key, value) :: fields else p :: put fields key value

@[simp] theorem get_nil (key : String) : get [] key = none := rfl

theorem get_cons (p : String × Json) (fields : Fields) (key : String) :
    get (p :: fields) key = if key = p.1 then some p.2 else get fields key := by
  unfold get
  obtain ⟨k, v⟩ := p
  rw [List.lookup_cons]
  by_cases h : key = k
  · rw [if_pos h, h, beq_self_eq_true]
  · rw [if_neg h, beq_false_of_ne h]

theorem get_remove (fields : Fields) (key key' : String) :
    get (remove fields key) key' = if key' = key then none else get fields key' := by
  induction fields with
  | nil =>
    change none = if key' = key then none else none
    rw [ite_self]
  | cons p fields ih =>
    unfold remove at ih ⊢
    by_cases hp : p.1 = key
    -- the first member goes; it was looked up under the key that is removed only
    · rw [List.filter_cons_of_neg (by simpa using hp), ih, get_cons]
      by_cases hkey : key' = key
      · rw [if_pos hkey, if_pos hkey]
      · rw [if_neg hkey, if_neg hkey, if_neg fun h => hkey (h.trans hp)]
    -- the first member stays, and its key is not the one that is removed
    · rw [List.filter_cons_of_pos (by simpa using hp), get_cons, get_cons, ih]
      by_cases hkey : key' = key
      · rw [if_pos hkey, if_pos hkey, if_neg fun h => hp (h.symm.trans hkey)]
      · rw [if_neg hkey, if_neg hkey]

theorem get_put (fields : Fields) (key key' : String) (value : Json) :
    get (put fields key value) key' = if key' = key then some value else get fields key' := by
  induction fields with
  | nil => exact get_cons (key, value) [] key'
  | cons p fields ih =>
    rw [put]
    by_cases hp : p.1 = key
    -- the member is put in the place of the first one
    · rw [if_pos hp, get_cons, get_cons]
      by_cases hkey : key' = key
      · rw [if_pos hkey, if_pos hkey]
      · rw [if_neg hkey, if_neg hkey, if_neg fun h => hkey (h.trans hp)]
    -- the member is put further on, and the first one stays
    · rw [if_neg hp, get_cons, get_cons, ih]
      by_cases hkey : key' = key
      · rw [if_pos hkey, if_pos hkey, if_neg fun h => hp (h.symm.trans hkey)]
      · rw [if_neg hkey, if_neg hkey]

theorem get_eq_none_of_notMem {fields : Fields} {key : String}
    (h : key ∉ fields.map Prod.fst) : get fields key = none := by
  induction fields with
  | nil => rfl
  | cons p fields ih =>
    rw [List.map_cons, List.mem_cons, not_or] at h
    rw [get_cons, if_neg h.1, ih h.2]

/-! ### Merging -/

mutual

/-- Merge a patch into a document. -/
def merge (doc : Json) : Json → Json
  | obj patch => obj (mergeFields (match doc with | obj fields => fields | _ => []) patch)
  | patch => patch

/-- Apply the members of a patch to those of an object. -/
def mergeFields (fields : Fields) : Fields → Fields
  | [] => fields
  | (key, value) :: patch =>
    match value with
    | null => mergeFields (remove fields key) patch
    | value => mergeFields (put fields key (merge ((get fields key).getD null) value)) patch

end

/-! ### Distinct keys -/

mutual

/-- No object within the value has two members of one key. -/
def DistinctKeys : Json → Prop
  | obj fields => (fields.map Prod.fst).Nodup ∧ DistinctKeysIn fields
  | _ => True

def DistinctKeysIn : Fields → Prop
  | [] => True
  | (_, value) :: fields => DistinctKeys value ∧ DistinctKeysIn fields

end

theorem DistinctKeysIn.of_get {fields : Fields} {key : String} {value : Json}
    (h : DistinctKeysIn fields) (hget : get fields key = some value) : DistinctKeys value := by
  induction fields with
  | nil => cases hget
  | cons p fields ih =>
    obtain ⟨k, v⟩ := p
    obtain ⟨hv, hfields⟩ := h
    rw [get_cons] at hget
    -- the member looked up is the first one, or one of the rest
    split at hget
    · obtain rfl := Option.some.inj hget
      exact hv
    · exact ih hfields hget

/-! ### The members of a merged object -/

/-- What becomes of a member under that of a patch. -/
def mergeMember (old : Option Json) : Option Json → Option Json
  | none => old
  | some null => none
  | some value => some (merge (old.getD null) value)

theorem mergeMember_of_ne_null {old : Option Json} {value : Json} (h : value ≠ null) :
    mergeMember old (some value) = some (merge (old.getD null) value) := by
  cases value with
  | null => exact absurd rfl h
  | _ => rfl

/-- Put a member, or remove it. -/
def set (fields : Fields) (key : String) : Option Json → Fields
  | none => remove fields key
  | some value => put fields key value

theorem get_set (fields : Fields) (key key' : String) (value : Option Json) :
    get (set fields key value) key' = if key' = key then value else get fields key' := by
  cases value with
  | none => exact get_remove fields key key'
  | some value => exact get_put fields key key' value

/-- The first member of a patch is applied first. -/
theorem mergeFields_cons (fields : Fields) (key : String) (value : Json) (patch : Fields) :
    mergeFields fields ((key, value) :: patch) =
      mergeFields (set fields key (mergeMember (get fields key) (some value))) patch := by
  cases value with
  | null => rfl
  | bool b => rfl
  | num mantissa decimals => rfl
  | str s => rfl
  | arr items => rfl
  | obj patch => rfl

/-- **The members of a merged object.** A member the patch does not name stays, one it
names null goes, and any other is merged with what was there. -/
theorem get_mergeFields {patch : Fields} (hnodup : (patch.map Prod.fst).Nodup) (fields : Fields)
    (key : String) :
    get (mergeFields fields patch) key = mergeMember (get fields key) (get patch key) := by
  induction patch generalizing fields with
  | nil => rw [mergeFields, get_nil, mergeMember]
  | cons p patch ih =>
    obtain ⟨k, v⟩ := p
    obtain ⟨hfresh, hnodup⟩ := List.nodup_cons.mp hnodup
    rw [mergeFields_cons, ih hnodup, get_set, get_cons]
    by_cases hkey : key = k
    · -- the patch names the key here, and nowhere else
      subst hkey
      have hnone : get patch key = none := get_eq_none_of_notMem hfresh
      rw [if_pos rfl, if_pos rfl, hnone]
      rfl
    -- the first member of the patch is about another key
    · rw [if_neg hkey, if_neg hkey]

/-- Merging leaves the other members alone: a key can be taken out before or after it. -/
theorem remove_put (fields : Fields) (key key' : String) (value : Json) :
    remove (put fields key' value) key =
      if key' = key then remove fields key else put (remove fields key) key' value := by
  induction fields with
  | nil =>
    by_cases hkey : key' = key
    · simp [put, remove, hkey]
    · simp [put, remove, hkey]
  | cons p fields ih =>
    unfold remove at ih ⊢
    rw [put]
    -- `put` stops at its own key, and goes past any other
    by_cases hp : p.1 = key'
    · rw [if_pos hp]
      by_cases hkey : key' = key
      · simp [hkey, hp]
      · simp [hkey, hp, put]
    · rw [if_neg hp]
      by_cases hpkey : p.1 = key
      · rw [List.filter_cons_of_neg (by simpa using hpkey), ih,
          List.filter_cons_of_neg (by simpa using hpkey)]
      · rw [List.filter_cons_of_pos (by simpa using hpkey), ih,
          List.filter_cons_of_pos (by simpa using hpkey)]
        by_cases hkey : key' = key
        · rw [if_pos hkey, if_pos hkey]
        · rw [if_neg hkey, if_neg hkey, put, if_neg hp]

theorem remove_remove (fields : Fields) (key key' : String) :
    remove (remove fields key') key = remove (remove fields key) key' := by
  unfold remove
  rw [List.filter_filter, List.filter_filter]
  exact congrArg (List.filter · fields) (funext fun p => Bool.and_comm _ _)

theorem remove_mergeFields (fields patch : Fields) (key : String) :
    remove (mergeFields fields patch) key =
      mergeFields (remove fields key) (remove patch key) := by
  induction patch generalizing fields with
  | nil => rfl
  | cons p patch ih =>
    obtain ⟨k, v⟩ := p
    have hset : ∀ value, remove (set fields k value) key =
        if k = key then remove fields key else set (remove fields key) k value := by
      intro value
      cases value with
      | none =>
        by_cases hk : k = key
        · subst hk
          rw [if_pos rfl]
          change remove (remove fields k) k = _
          unfold remove
          rw [List.filter_filter]
          exact congrArg (List.filter · fields) (funext fun p => Bool.and_self _)
        · rw [if_neg hk]
          exact remove_remove fields key k
      | some value => exact remove_put fields key k value
    rw [mergeFields_cons, ih, hset]
    by_cases hk : k = key
    -- the member of the key that is taken out
    · rw [if_pos hk]
      change _ = mergeFields _ (List.filter _ _)
      rw [List.filter_cons_of_neg (by simpa using hk)]
      rfl
    -- another member, which is merged with what was under its key
    · rw [if_neg hk]
      change _ = mergeFields _ (List.filter _ _)
      rw [List.filter_cons_of_pos (by simpa using hk), mergeFields_cons, get_remove, if_neg hk]
      rfl

/-- Taking a member out leaves the keys distinct. -/
theorem DistinctKeysIn.remove {fields : Fields} (h : DistinctKeysIn fields) (key : String) :
    DistinctKeysIn (remove fields key) := by
  induction fields with
  | nil => exact h
  | cons p fields ih =>
    obtain ⟨k, v⟩ := p
    change DistinctKeysIn (List.filter _ _)
    by_cases hk : k = key
    · rw [List.filter_cons_of_neg (by simpa using hk)]
      exact ih h.2
    · rw [List.filter_cons_of_pos (by simpa using hk)]
      exact ⟨h.1, ih h.2⟩

theorem DistinctKeys.remove {fields : Fields} (h : (obj fields).DistinctKeys) (key : String) :
    (obj (remove fields key)).DistinctKeys :=
  ⟨h.1.sublist ((List.filter_sublist).map Prod.fst), h.2.remove key⟩

/-- Only an object has members. -/
theorem exists_obj_of_field {j value : Json} {key : String} (h : j.field key = some value) :
    ∃ fields, j = obj fields ∧ get fields key = some value := by
  cases j with
  | obj fields => exact ⟨fields, rfl, h⟩
  | null => cases h
  | bool b => cases h
  | num mantissa decimals => cases h
  | str s => cases h
  | arr items => cases h

theorem ne_null_of_field {j value : Json} {key : String} (h : j.field key = some value) :
    j ≠ null := by
  rintro rfl
  cases h

/-- What is under a key of a value has distinct keys itself. -/
theorem DistinctKeys.field {j value : Json} {key : String} (h : j.DistinctKeys)
    (hvalue : j.field key = some value) : value.DistinctKeys := by
  obtain ⟨fields, rfl, hget⟩ := exists_obj_of_field hvalue
  exact h.2.of_get hget

/-- **A member of what is merged**, at a key the patch names and does not remove. -/
theorem field_merge {doc patch value : Json} {key : String} (h : patch.DistinctKeys)
    (hvalue : patch.field key = some value) (hnull : value ≠ null) :
    (merge doc patch).field key = some (merge ((doc.field key).getD null) value) := by
  obtain ⟨fields, rfl, hget⟩ := exists_obj_of_field hvalue
  obtain ⟨old, hmerge, hold⟩ : ∃ old, merge doc (obj fields) = obj (mergeFields old fields) ∧
      get old key = doc.field key := by
    cases doc with
    | obj old => exact ⟨old, rfl, rfl⟩
    | _ => exact ⟨[], rfl, rfl⟩
  rw [hmerge, ← hold]
  change get (mergeFields old fields) key = _
  rw [get_mergeFields h.1, hget, mergeMember_of_ne_null hnull]

end Json

/-! ### Reading the members of an object -/

section Visit

variable {ε Acc α : Type*}

/-- Read the members of an object, one after the other. -/
def visitMap (visit : Acc → String × Json → Except ε Acc) : Acc → Fields → Except ε Acc
  | acc, [] => .ok acc
  | acc, p :: fields =>
    match visit acc p with
    | .ok acc => visitMap visit acc fields
    | .error e => .error e

/-- A field of a record that is read: the member of its key fills it, once. -/
structure Slot (visit : Acc → String × Json → Except ε Acc) (α : Type*) where
  key : String
  read : Acc → Option α
  deserialize : Json → Except ε α
  /-- Its own member finds it empty and fills it. -/
  fills : ∀ acc value acc', visit acc (key, value) = .ok acc' →
    read acc = none ∧ ∃ a, deserialize value = .ok a ∧ read acc' = some a
  /-- The other members leave it alone. -/
  frame : ∀ acc p acc', visit acc p = .ok acc' → p.1 ≠ key → read acc' = read acc

variable {visit : Acc → String × Json → Except ε Acc}

theorem visitMap_cons_eq_ok {acc acc' : Acc} {p : String × Json} {fields : Fields} :
    visitMap visit acc (p :: fields) = .ok acc' ↔
      ∃ next, visit acc p = .ok next ∧ visitMap visit next fields = .ok acc' := by
  rw [visitMap]
  cases visit acc p with
  | error e => exact iff_of_false (by intro h; cases h) (by rintro ⟨next, h, -⟩; cases h)
  | ok next =>
    constructor
    · exact fun h => ⟨next, rfl, h⟩
    · rintro ⟨next', h, hrest⟩
      rwa [Except.ok.inj h]

/-- A slot that is filled stays as it is. -/
theorem Slot.read_visit_of_some (slot : Slot visit α) {fields : Fields} {acc acc' : Acc} {a : α}
    (h : visitMap visit acc fields = .ok acc') (ha : slot.read acc = some a) :
    slot.read acc' = some a := by
  induction fields generalizing acc with
  | nil =>
    obtain rfl := Except.ok.inj h
    exact ha
  | cons p fields ih =>
    obtain ⟨next, hnext, hrest⟩ := visitMap_cons_eq_ok.mp h
    by_cases hp : p.1 = slot.key
    · -- a second member of the key is refused
      obtain ⟨k, v⟩ := p
      obtain rfl : k = slot.key := hp
      rw [(slot.fills acc v next hnext).1] at ha
      cases ha
    · exact ih hrest ((slot.frame acc p next hnext hp).trans ha)

/-- **What a slot holds in the end.** Nothing without a member of its key, and what that
member is read as otherwise. -/
theorem Slot.read_visit (slot : Slot visit α) {fields : Fields} {acc acc' : Acc}
    (h : visitMap visit acc fields = .ok acc') (hacc : slot.read acc = none) :
    match Json.get fields slot.key with
    | none => slot.read acc' = none
    | some value => ∃ a, slot.deserialize value = .ok a ∧ slot.read acc' = some a := by
  induction fields generalizing acc with
  | nil =>
    obtain rfl := Except.ok.inj h
    exact hacc
  | cons p fields ih =>
    obtain ⟨next, hnext, hrest⟩ := visitMap_cons_eq_ok.mp h
    obtain ⟨k, v⟩ := p
    rw [Json.get_cons]
    by_cases hp : slot.key = k
    -- the member of the slot: what it fills it with stays to the end
    · subst hp
      rw [if_pos rfl]
      obtain ⟨-, a, hread, ha⟩ := slot.fills acc v next hnext
      exact ⟨a, hread, slot.read_visit_of_some hrest ha⟩
    -- any other member, which leaves the slot empty
    · rw [if_neg hp]
      exact ih hrest ((slot.frame acc (k, v) next hnext (Ne.symm hp)).trans hacc)

/-- A slot whose member is there has been filled with it. -/
theorem Slot.read_of_get (slot : Slot visit α) {fields : Fields} {acc acc' : Acc} {value : Json}
    (h : visitMap visit acc fields = .ok acc') (hacc : slot.read acc = none)
    (hvalue : Json.get fields slot.key = some value) :
    ∃ a, slot.deserialize value = .ok a ∧ slot.read acc' = some a := by
  have hread := slot.read_visit h hacc
  rw [hvalue] at hread
  exact hread

end Visit

end Serde
