import AiGateway.Framework.Json

/-!
# Types that are written as JSON

A `Codec` is how the values of a type are written and read, and when two of them agree at
a path. The path of a field is the keys that lead to it.

A document that is read is often a default one, written and merged with a patch. A patch
says nothing of the paths that are `Missing` from it, and a null takes out what is below
it (`Removed`). `Codec.Keeps` says what comes of the default at such paths: it is kept,
except for what is `lost` when it is written.

* `Codec.leaf_keeps`, `Codec.leaf_loses`: a value without fields is kept exactly if it is read
  as it was written;
* `Codec.keeps_of_fields`: a record keeps what its fields keep.
-/

namespace Serde

open Json

variable {ε α S : Type}

/-! ### Paths -/

/-- The patch is an object at some point of the path, and does not have the next key. -/
def Missing : List String → Json → Prop
  | key :: path, .obj fields =>
    match get fields key with
    | none => True
    | some value => Missing path value
  | _, _ => False

/-- The patch is null at some point of the path, before its end. -/
def Removed : List String → Json → Prop
  | _ :: _, .null => True
  | key :: path, .obj fields =>
    match get fields key with
    | none => False
    | some value => Removed path value
  | _, _ => False

/-- The patch has nothing at the path. -/
def Absent (path : List String) (patch : Json) : Prop := Missing path patch ∨ Removed path patch

theorem Missing.ne_nil {path : List String} {patch : Json} (h : Missing path patch) :
    path ≠ [] := by
  rintro rfl
  exact h

theorem Removed.ne_nil {path : List String} {patch : Json} (h : Removed path patch) :
    path ≠ [] := by
  rintro rfl
  exact h

theorem missing_obj {key : String} {path : List String} {fields : Fields} :
    Missing (key :: path) (.obj fields) ↔ ∀ value ∈ get fields key, Missing path value := by
  rw [Missing]
  cases get fields key <;> simp

theorem removed_obj {key : String} {path : List String} {fields : Fields} :
    Removed (key :: path) (.obj fields) ↔ ∃ value ∈ get fields key, Removed path value := by
  rw [Removed]
  cases get fields key <;> simp

/-- Where a path that is missing goes on: the patch does not have its first key, or has
something there that the rest is missing from. -/
theorem Missing.exists_obj {key : String} {path : List String} {patch : Json}
    (h : Missing (key :: path) patch) :
    ∃ fields, patch = .obj fields ∧ (get fields key = none ∨
      ∃ value, get fields key = some value ∧ value ≠ .null ∧ Missing path value) := by
  cases patch with
  | obj fields =>
    refine ⟨fields, rfl, ?_⟩
    rw [missing_obj] at h
    cases hget : get fields key with
    | none => exact Or.inl rfl
    | some value =>
      have hrest : Missing path value := h value hget
      refine Or.inr ⟨value, rfl, ?_, hrest⟩
      rintro rfl
      cases path <;> exact hrest
  | null | bool | num | str | arr => exact h.elim

/-- Where a path that is removed goes on: its first key is null, or leads to something the
rest is removed from. -/
theorem Removed.exists_obj {key : String} {path : List String} {patch : Json}
    (h : Removed (key :: path) patch) (hnull : patch ≠ .null) :
    ∃ fields value, patch = .obj fields ∧ get fields key = some value ∧ Removed path value := by
  cases patch with
  | obj fields =>
    obtain ⟨value, hvalue, hrest⟩ := removed_obj.mp h
    exact ⟨fields, value, rfl, hvalue, hrest⟩
  | null => exact absurd rfl hnull
  | bool | num | str | arr => exact h.elim

/-- What is missing has not been removed. -/
theorem Missing.not_removed {path : List String} {patch : Json} (h : Missing path patch) :
    ¬ Removed path patch := by
  induction path generalizing patch with
  | nil => exact absurd rfl h.ne_nil
  | cons key path ih =>
    intro hremoved
    obtain ⟨fields, rfl, hmember⟩ := h.exists_obj
    obtain ⟨fields', value, hobj, hvalue, hrest⟩ :=
      hremoved.exists_obj fun hnull => by cases hnull
    obtain rfl := Json.obj.inj hobj
    rcases hmember with hnone | ⟨value', hvalue', -, hmissing⟩
    · rw [hnone] at hvalue
      cases hvalue
    · obtain rfl := Option.some.inj (hvalue'.symm.trans hvalue)
      exact ih hmissing hrest

/-- One of the lost paths is the path, or below it. -/
def Under (lost : List (List String)) (path : List String) : Prop := ∃ q ∈ lost, path <+: q

/-- The lost paths below a key. -/
def below (key : String) (lost : List (List String)) : List (List String) :=
  lost.filterMap fun
    | k :: q => if k = key then some q else none
    | [] => none

theorem mem_below {key : String} {lost : List (List String)} {q : List String} :
    q ∈ below key lost ↔ key :: q ∈ lost := by
  unfold below
  rw [List.mem_filterMap]
  constructor
  · rintro ⟨_ | ⟨k, q'⟩, hmem, hq⟩
    · cases hq
    · dsimp only at hq
      split at hq
      · next hkey =>
        obtain rfl := Option.some.inj hq
        rwa [← hkey]
      · cases hq
  · intro hmem
    exact ⟨key :: q, hmem, if_pos rfl⟩

theorem under_cons {lost : List (List String)} {key : String} {path : List String} :
    Under lost (key :: path) ↔ Under (below key lost) path := by
  constructor
  · rintro ⟨q, hmem, hpath⟩
    obtain ⟨rest, rfl⟩ := hpath
    exact ⟨path ++ rest, mem_below.mpr hmem, List.prefix_append path rest⟩
  · rintro ⟨q, hmem, hpath⟩
    exact ⟨key :: q, mem_below.mp hmem, (List.prefix_cons_inj key).mpr hpath⟩

@[simp] theorem not_under_nil {path : List String} : ¬ Under [] path := by
  rintro ⟨q, hmem, -⟩
  cases hmem

/-- The path that ends here leads to all that is lost. -/
theorem under_here {lost : List (List String)} : Under lost [] ↔ ∃ q, q ∈ lost := by
  constructor
  · rintro ⟨q, hmem, -⟩
    exact ⟨q, hmem⟩
  · rintro ⟨q, hmem⟩
    exact ⟨q, hmem, List.nil_prefix⟩

/-! ### Codecs -/

/-- How the values of a type are written and read. -/
structure Codec (ε α : Type) where
  serialize : α → Json
  deserialize : Json → Except ε α
  /-- If both values have a field at the path, it is the same in both. -/
  Same : α → α → List String → Prop
  same_refl : ∀ a path, Same a a path

/-- **What is kept of a value** that is written, merged with a patch, and read. -/
structure Codec.Keeps (c : Codec ε α) (a : α) (lost : List (List String)) : Prop where
  /-- Without a patch. -/
  unmerged : ∀ b, c.deserialize (c.serialize a) = .ok b →
    ∀ path, c.Same b a path ↔ ¬ Under lost path
  missing : ∀ patch b, patch.DistinctKeys →
    c.deserialize (merge (c.serialize a) patch) = .ok b →
      ∀ path, Missing path patch → (c.Same b a path ↔ ¬ Under lost path)
  removed : ∀ patch b, patch.DistinctKeys → patch ≠ .null →
    c.deserialize (merge (c.serialize a) patch) = .ok b →
      ∀ path, Removed path patch → c.Same b a path

namespace Codec

/-- A value without fields. -/
def leaf (serialize : α → Json) (deserialize : Json → Except ε α) : Codec ε α where
  serialize := serialize
  deserialize := deserialize
  Same a b path := path = [] → a = b
  same_refl _ _ _ := rfl

/-- A leaf that is read as it is written keeps its value. -/
theorem leaf_keeps {serialize : α → Json} {deserialize : Json → Except ε α} {a : α}
    (h : ∀ b, deserialize (serialize a) = .ok b → b = a) :
    (leaf serialize deserialize).Keeps a [] where
  unmerged b hread _ := iff_of_true (fun _ => h b hread) not_under_nil
  missing _ _ _ _ _ hpath := iff_of_true (fun hnil => absurd hnil hpath.ne_nil) not_under_nil
  removed _ _ _ _ _ _ hpath hnil := absurd hnil hpath.ne_nil

/-- A leaf that is read as something else loses it. -/
theorem leaf_loses {serialize : α → Json} {deserialize : Json → Except ε α} {a : α}
    (h : ∀ b, deserialize (serialize a) = .ok b → b ≠ a) :
    (leaf serialize deserialize).Keeps a [[]] where
  -- there is nothing below a leaf, so only the path to it can be lost
  unmerged b hread path := by
    have hunder : Under [[]] path ↔ path = [] := by
      constructor
      · rintro ⟨q, hmem, hpath⟩
        obtain rfl := List.mem_singleton.mp hmem
        exact List.prefix_nil.mp hpath
      · rintro rfl
        exact under_here.mpr ⟨[], List.mem_singleton_self _⟩
    rw [hunder]
    change (path = [] → b = a) ↔ _
    constructor
    · intro hsame hnil
      exact h b hread (hsame hnil)
    · intro hpath hnil
      exact absurd hnil hpath
  missing _ _ _ _ path hpath := by
    refine iff_of_true (fun hnil => absurd hnil hpath.ne_nil) ?_
    rintro ⟨q, hmem, hq⟩
    obtain rfl := List.mem_singleton.mp hmem
    exact hpath.ne_nil (List.prefix_nil.mp hq)
  removed _ _ _ _ _ _ hpath hnil := absurd hnil hpath.ne_nil

end Codec

/-! ### Fields -/

/-- A field of a record, under the key it is written with. -/
structure Field (ε S : Type) where
  key : String
  {Val : Type}
  codec : Codec ε Val
  get : S → Val
  /-- Whether the value is left out. -/
  skip : Val → Bool := fun _ => false

/-- What is written of a field. -/
def Field.written (f : Field ε S) (a : S) : Option Json :=
  if f.skip (f.get a) = true then none else some (f.codec.serialize (f.get a))

/-- Two records agree at a path if its first key leads to fields that agree. -/
def SameFields (fields : List (Field ε S)) (a b : S) : List String → Prop
  | [] => ∀ f ∈ fields, f.codec.Same (f.get a) (f.get b) []
  | key :: path => ∀ f ∈ fields, f.key = key → f.codec.Same (f.get a) (f.get b) path

/-- **What is kept of a field**, if it is written. A field that is left out has nothing
below it, and nothing to lose. -/
def Field.Keeps (f : Field ε S) (a : S) (lost : List (List String)) : Prop :=
  if f.skip (f.get a) = true then
    below f.key lost = [] ∧ ∀ v path, path ≠ [] → f.codec.Same v (f.get a) path
  else f.codec.Keeps (f.get a) (below f.key lost)

/-- **How a record is read**, next to the one that was written. A field that has a member is
read off it, or is one that a record of this kind does not have. What a field without a
member has below it is the same as before, and it is itself if it is left out by design. -/
structure Codec.ReadsFields (c : Codec ε S) (fields : List (Field ε S)) (a : S)
    (lost : List (List String)) : Prop where
  same : ∀ b path, c.Same b a path ↔ SameFields fields b a path
  written : ∃ doc, c.serialize a = .obj doc ∧ ∀ f ∈ fields, get doc f.key = f.written a
  member : ∀ doc b, c.deserialize (.obj doc) = .ok b → ∀ f ∈ fields, ∀ value,
    get doc f.key = some value → f.codec.deserialize value = .ok (f.get b) ∨
      (below f.key lost = [] ∧ ∀ path, f.codec.Same (f.get b) (f.get a) path)
  noMember : ∀ doc b, c.deserialize (.obj doc) = .ok b → ∀ f ∈ fields, get doc f.key = none →
    ∀ path, path ≠ [] ∨ f.skip (f.get a) = true → f.codec.Same (f.get b) (f.get a) path

section Fields

variable {c : Codec ε S} {fields : List (Field ε S)} {a b : S} {lost : List (List String)}
  {f : Field ε S} {doc : Fields}

/-- A field the patch does not name keeps what it keeps without a patch. -/
theorem Codec.ReadsFields.same_of_unpatched (h : c.ReadsFields fields a lost) (hf : f ∈ fields)
    (hkeeps : f.Keeps a lost) (hread : c.deserialize (.obj doc) = .ok b)
    (hdoc : get doc f.key = f.written a) (path : List String) :
    f.codec.Same (f.get b) (f.get a) path ↔ ¬ Under (below f.key lost) path := by
  unfold Field.Keeps at hkeeps
  unfold Field.written at hdoc
  by_cases hskip : f.skip (f.get a) = true
  · rw [if_pos hskip] at hkeeps hdoc
    rw [hkeeps.1]
    exact iff_of_true (h.noMember doc b hread f hf hdoc path (Or.inr hskip)) not_under_nil
  · rw [if_neg hskip] at hkeeps hdoc
    rcases h.member doc b hread f hf _ hdoc with hvalue | ⟨hbelow, hsame⟩
    · exact hkeeps.unmerged _ hvalue path
    · rw [hbelow]
      exact iff_of_true (hsame path) not_under_nil

/-- A field the patch names: what the patch is silent on is kept, and so is what it removes
below the field. -/
theorem Codec.ReadsFields.same_of_patched (h : c.ReadsFields fields a lost) (hf : f ∈ fields)
    (hkeeps : f.Keeps a lost) (hread : c.deserialize (.obj doc) = .ok b) {value : Json}
    (hdistinct : value.DistinctKeys) (hnull : value ≠ .null)
    (hdoc : get doc f.key = some (merge ((f.written a).getD .null) value)) (path : List String) :
    (Missing path value →
      (f.codec.Same (f.get b) (f.get a) path ↔ ¬ Under (below f.key lost) path)) ∧
    (Removed path value → f.codec.Same (f.get b) (f.get a) path) := by
  unfold Field.Keeps at hkeeps
  unfold Field.written at hdoc
  -- a field that is not written keeps nothing the patch is silent on
  by_cases hskip : f.skip (f.get a) = true
  · rw [if_pos hskip] at hkeeps
    rw [hkeeps.1]
    constructor
    · intro hmissing
      exact iff_of_true (hkeeps.2 _ path hmissing.ne_nil) not_under_nil
    · intro hremoved
      exact hkeeps.2 _ path hremoved.ne_nil
  · rw [if_neg hskip] at hkeeps hdoc
    rcases h.member doc b hread f hf _ hdoc with hvalue | ⟨hbelow, hsame⟩
    · exact ⟨hkeeps.missing value _ hdistinct hvalue path,
        hkeeps.removed value _ hdistinct hnull hvalue path⟩
    · rw [hbelow]
      exact ⟨fun _ => iff_of_true (hsame path) not_under_nil, fun _ => hsame path⟩

/-- What is lost below a key that a field has is lost of all the fields of that key. -/
theorem under_iff_of_fields (hlost : ∀ q ∈ lost, ∃ f ∈ fields, ∃ q', q = f.key :: q')
    {key : String} {path : List String} {P : Field ε S → Prop}
    (h : ∀ f ∈ fields, f.key = key → (P f ↔ ¬ Under (below f.key lost) path)) :
    (∀ f ∈ fields, f.key = key → P f) ↔ ¬ Under lost (key :: path) := by
  rw [under_cons]
  constructor
  · rintro hall ⟨q, hmem, hpath⟩
    obtain ⟨f, hf, q', hq⟩ := hlost _ (mem_below.mp hmem)
    obtain ⟨rfl, rfl⟩ := List.cons.inj hq
    exact (h f hf rfl).mp (hall f hf rfl) ⟨q, hmem, hpath⟩
  · rintro hnot f hf rfl
    exact (h f hf rfl).mpr hnot

/-- **A record keeps what its fields keep.** -/
theorem Codec.keeps_of_fields (h : c.ReadsFields fields a lost)
    (hlost : ∀ q ∈ lost, ∃ f ∈ fields, ∃ q', q = f.key :: q')
    (hkeeps : ∀ f ∈ fields, f.Keeps a lost) : c.Keeps a lost := by
  obtain ⟨doc, hdoc, hwritten⟩ := h.written
  have hmerge : ∀ patch, merge (c.serialize a) (.obj patch) = .obj (mergeFields doc patch) := by
    intro patch
    rw [hdoc]
    rfl
  refine ⟨fun b hread path => ?_, fun patch b hdistinct hread path hmissing => ?_,
    fun patch b hdistinct hnull hread path hremoved => ?_⟩
  -- without a patch, every field is read as it was written
  · rw [hdoc] at hread
    have hfield : ∀ f ∈ fields, ∀ path,
        f.codec.Same (f.get b) (f.get a) path ↔ ¬ Under (below f.key lost) path :=
      fun f hf => h.same_of_unpatched hf (hkeeps f hf) hread (hwritten f hf)
    rw [h.same]
    cases path with
    | nil =>
      rw [under_here]
      constructor
      · rintro hall ⟨q, hq⟩
        obtain ⟨f, hf, q', rfl⟩ := hlost q hq
        exact (hfield f hf []).mp (hall f hf) (under_here.mpr ⟨q', mem_below.mpr hq⟩)
      · intro hnone f hf
        refine (hfield f hf []).mpr fun hunder => ?_
        obtain ⟨q, hq⟩ := under_here.mp hunder
        exact hnone ⟨_, mem_below.mp hq⟩
    | cons key path => exact under_iff_of_fields hlost fun f hf _ => hfield f hf path
  -- with one, the path goes on in the patch, or the patch does not have its first key
  · cases path with
    | nil => exact absurd rfl hmissing.ne_nil
    | cons key path =>
      obtain ⟨patch, rfl, hmember⟩ := hmissing.exists_obj
      rw [hmerge] at hread
      rw [h.same]
      refine under_iff_of_fields hlost fun f hf hkey => ?_
      subst hkey
      have hget := get_mergeFields hdistinct.1 doc f.key
      rw [hwritten f hf] at hget
      rcases hmember with hpatch | ⟨value, hpatch, hnull, hrest⟩
      · rw [hpatch] at hget
        exact h.same_of_unpatched hf (hkeeps f hf) hread hget path
      · rw [hpatch, mergeMember_of_ne_null hnull] at hget
        exact (h.same_of_patched hf (hkeeps f hf) hread (hdistinct.2.of_get hpatch) hnull hget
          path).1 hrest
  · cases path with
    | nil => exact absurd rfl hremoved.ne_nil
    | cons key path =>
      obtain ⟨patch, value, rfl, hpatch, hrest⟩ := hremoved.exists_obj hnull
      rw [hmerge] at hread
      rw [h.same]
      rintro f hf rfl
      have hget := get_mergeFields hdistinct.1 doc f.key
      rw [hwritten f hf, hpatch] at hget
      by_cases hvalue : value = .null
      -- the member of the field is taken out, and what was below it stays as it is
      · subst hvalue
        exact h.noMember _ b hread f hf hget path (Or.inl hrest.ne_nil)
      · rw [mergeMember_of_ne_null hvalue] at hget
        exact (h.same_of_patched hf (hkeeps f hf) hread (hdistinct.2.of_get hpatch) hvalue hget
          path).2 hrest

end Fields

/-- A field that is written keeps what its value does. -/
theorem Field.Keeps.of {f : Field ε S} {a : S} {lost lost' : List (List String)}
    (hskip : f.skip (f.get a) = false) (hbelow : below f.key lost = lost')
    (h : f.codec.Keeps (f.get a) lost') : f.Keeps a lost := by
  unfold Field.Keeps
  rw [hskip, if_neg Bool.false_ne_true, hbelow]
  exact h

/-- So does one that is left out. -/
theorem Field.Keeps.of_skip {f : Field ε S} {a : S} {lost : List (List String)}
    (hskip : f.skip (f.get a) = true) (hbelow : below f.key lost = [])
    (h : ∀ v path, path ≠ [] → f.codec.Same v (f.get a) path) : f.Keeps a lost := by
  unfold Field.Keeps
  rw [if_pos hskip]
  exact ⟨hbelow, h⟩

end Serde
