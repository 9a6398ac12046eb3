import AiGateway.Framework.Codec
import AiGateway.Framework.RustStd

/-!
# Records, enumerations and maps

What the derived codecs of a record do is said by a table of its members (`Record`), and
what those of an internally tagged enumeration do by a table of its variants (`Tagged`).
A map is written with its keys as they are printed (`Codec.map`).

* `Record.keeps`: a record keeps what its members keep;
* `Tagged.keeps`: an enumeration keeps what the variant it is keeps;
* `Codec.map_keeps`: a map keeps its entries.
-/

namespace Serde

open Json

variable {ε α S E K V : Type}

/-! ### Records -/

/-- A field of a record that is read field by field. -/
structure Member (ε S : Type) extends Field ε S where
  set : Val → S → S
  get_set : ∀ v s, get (set v s) = v := by exact fun _ _ => rfl
  /-- The error if it is missing, for a field without a default. -/
  missing : Option ε := none

/-- Setting one of them leaves the other alone. -/
def Member.Apart (m m' : Member ε S) : Prop :=
  (∀ v s, m.get (m'.set v s) = m.get s) ∧ ∀ v s, m'.get (m.set v s) = m'.get s

/-- A record that is read field by field, off an object or off the list of its fields. -/
structure Record (ε S : Type) where
  members : List (Member ε S)
  /-- The defaults of the fields. -/
  base : S
  invalid : ε
  /-- Whether it is read off a list. -/
  listed : Bool := true
  /-- The error for an unknown key, for a record that denies them. -/
  unknown : Option (String → ε) := none
  nodup : (members.map fun m => m.key).Nodup
  apart : members.Pairwise Member.Apart

namespace Record

/-- Read the members that are there, one after the other. -/
def fill : List (Member ε S × Option Json) → S → Except ε S
  | [], s => .ok s
  | (m, some value) :: rest, s =>
    match m.codec.deserialize value with
    | .ok v => fill rest (m.set v s)
    | .error e => .error e
  | (m, none) :: rest, s =>
    match m.missing with
    | none => fill rest s
    | some e => .error e

variable (r : Record ε S)

def fields : List (Field ε S) := r.members.map Member.toField

def serialize (a : S) : Json :=
  .obj (r.fields.filterMap fun f => (f.written a).map (Prod.mk f.key))

/-- The error for a key that is denied. -/
def denied (doc : Fields) : Option ε :=
  r.unknown.bind fun e =>
    (doc.find? fun p => p.1 ∉ r.members.map fun m => m.key).map fun p => e p.1

def deserialize : Json → Except ε S
  | .obj doc =>
    match r.denied doc with
    | none => fill (r.members.map fun m => (m, get doc m.key)) r.base
    | some e => .error e
  | .arr items =>
    if r.listed = true ∧ items.length ≤ r.members.length then
      fill (r.members.zipIdx.map fun p => (p.1, items[p.2]?)) r.base
    else .error r.invalid
  | _ => .error r.invalid

/-- The codec of a record. -/
def codec : Codec ε S where
  serialize := r.serialize
  deserialize := r.deserialize
  Same := SameFields r.fields
  same_refl a path := by
    cases path with
    | nil => exact fun f _ => f.codec.same_refl _ _
    | cons key path => exact fun f _ _ => f.codec.same_refl _ _

/-- Other members leave a field alone. -/
theorem get_fill_of_apart {m : Member ε S} {rest : List (Member ε S × Option Json)} {s s' : S}
    (h : fill rest s = .ok s') (hapart : ∀ m' ∈ rest.map Prod.fst, m.Apart m') :
    m.get s' = m.get s := by
  induction rest generalizing s with
  | nil =>
    obtain rfl := Except.ok.inj h
    rfl
  | cons p rest ih =>
    obtain ⟨m', o⟩ := p
    rw [List.map_cons, List.forall_mem_cons] at hapart
    cases o with
    | none =>
      rw [fill] at h
      split at h
      · exact ih h hapart.2
      · cases h
    | some value =>
      rw [fill] at h
      split at h
      · next v hv => exact (ih h hapart.2).trans (hapart.1.1 v s)
      · cases h

/-- **What is read of a member** that is there. -/
theorem fill_member {entries : List (Member ε S × Option Json)} {s s' : S}
    (h : fill entries s = .ok s') (hapart : (entries.map Prod.fst).Pairwise Member.Apart)
    {m : Member ε S} {value : Json} (hm : (m, some value) ∈ entries) :
    m.codec.deserialize value = .ok (m.get s') := by
  induction entries generalizing s with
  | nil => cases hm
  | cons p rest ih =>
    obtain ⟨m', o⟩ := p
    rw [List.map_cons, List.pairwise_cons] at hapart
    cases o with
    | none =>
      rw [fill] at h
      split at h
      · rcases List.mem_cons.mp hm with heq | hm
        · cases heq
        · exact ih h hapart.2 hm
      · cases h
    | some value' =>
      rw [fill] at h
      split at h
      · next v hv =>
        rcases List.mem_cons.mp hm with heq | hm
        -- the member itself, which the rest leaves alone
        · obtain ⟨rfl, hvalue⟩ := Prod.mk.inj heq
          obtain rfl := Option.some.inj hvalue
          rw [hv, get_fill_of_apart h hapart.1, m.get_set]
        · exact ih h hapart.2 hm
      · cases h

/-- One that is not there keeps its default. -/
theorem fill_noMember {entries : List (Member ε S × Option Json)} {s s' : S}
    (h : fill entries s = .ok s') (hapart : (entries.map Prod.fst).Pairwise Member.Apart)
    {m : Member ε S} (hm : (m, none) ∈ entries) : m.get s' = m.get s := by
  induction entries generalizing s with
  | nil => cases hm
  | cons p rest ih =>
    obtain ⟨m', o⟩ := p
    rw [List.map_cons, List.pairwise_cons] at hapart
    cases o with
    | none =>
      rw [fill] at h
      split at h
      · rcases List.mem_cons.mp hm with heq | hm
        · obtain ⟨rfl, -⟩ := Prod.mk.inj heq
          exact get_fill_of_apart h hapart.1
        · exact ih h hapart.2 hm
      · cases h
    | some value =>
      rw [fill] at h
      split at h
      · next v hv =>
        rcases List.mem_cons.mp hm with heq | hm
        · cases heq
        -- the first member is another one, and apart from this one
        · have hmem : m ∈ rest.map Prod.fst := List.mem_map.mpr ⟨_, hm, rfl⟩
          exact (ih h hapart.2 hm).trans ((hapart.1 m hmem).2 v s)
      · cases h

/-- The members of the document a record is written as. -/
theorem get_written {fields : List (Field ε S)} (hnodup : (fields.map Field.key).Nodup) (a : S)
    {f : Field ε S} (hf : f ∈ fields) :
    get (fields.filterMap fun f => (f.written a).map (Prod.mk f.key)) f.key = f.written a := by
  induction fields with
  | nil => cases hf
  | cons f' fields ih =>
    rw [List.map_cons, List.nodup_cons] at hnodup
    rw [List.filterMap_cons]
    have hrest : f'.key ∉ (fields.filterMap fun f => (f.written a).map (Prod.mk f.key)).map
        Prod.fst := by
      intro hmem
      obtain ⟨p, hp, hkey⟩ := List.mem_map.mp hmem
      obtain ⟨g, hg, hwritten⟩ := List.mem_filterMap.mp hp
      obtain ⟨value, -, rfl⟩ := Option.map_eq_some_iff.mp hwritten
      exact hnodup.1 (List.mem_map.mpr ⟨g, hg, hkey⟩)
    rcases List.mem_cons.mp hf with rfl | hf
    -- the field itself: it is the first member, or there is none
    · cases hwritten : f.written a with
      | none => exact get_eq_none_of_notMem hrest
      | some value => exact (get_cons _ _ _).trans (if_pos rfl)
    -- a later field, whose key is another one
    · have hkey : f.key ≠ f'.key := by
        intro heq
        exact hnodup.1 (List.mem_map.mpr ⟨f, hf, heq⟩)
      cases hwritten : f'.written a with
      | none => exact ih hnodup.2 hf
      | some value => exact ((get_cons _ _ _).trans (if_neg hkey)).trans (ih hnodup.2 hf)

variable {r} {a : S} {lost : List (List String)}

theorem exists_member {f : Field ε S} (hf : f ∈ r.fields) :
    ∃ m ∈ r.members, m.toField = f := List.mem_map.mp hf

/-- An object that is read has been read member by member. -/
theorem fill_of_deserialize {doc : Fields} {b : S} (h : r.codec.deserialize (.obj doc) = .ok b) :
    fill (r.members.map fun m => (m, get doc m.key)) r.base = .ok b ∧
      ((r.members.map fun m => (m, get doc m.key)).map Prod.fst).Pairwise Member.Apart := by
  change (match r.denied doc with
    | none => fill (r.members.map fun m => (m, get doc m.key)) r.base
    | some e => .error e) = .ok b at h
  cases hdenied : r.denied doc with
  | some e =>
    rw [hdenied] at h
    cases h
  | none =>
    rw [hdenied] at h
    refine ⟨h, ?_⟩
    rw [List.map_map]
    exact (List.map_id r.members).symm ▸ r.apart

theorem get_of_member {doc : Fields} {b : S} (h : r.codec.deserialize (.obj doc) = .ok b) :
    ∀ f ∈ r.fields, ∀ value, get doc f.key = some value →
      f.codec.deserialize value = .ok (f.get b) := by
  intro f hf value hvalue
  obtain ⟨m, hm, rfl⟩ := exists_member hf
  obtain ⟨hfill, hapart⟩ := fill_of_deserialize h
  exact fill_member hfill hapart (List.mem_map.mpr ⟨m, hm, Prod.ext rfl hvalue⟩)

theorem get_of_noMember {doc : Fields} {b : S} (h : r.codec.deserialize (.obj doc) = .ok b) :
    ∀ f ∈ r.fields, get doc f.key = none → f.get b = f.get r.base := by
  intro f hf hnone
  obtain ⟨m, hm, rfl⟩ := exists_member hf
  obtain ⟨hfill, hapart⟩ := fill_of_deserialize h
  exact fill_noMember hfill hapart (List.mem_map.mpr ⟨m, hm, Prod.ext rfl hnone⟩)

/-- A record is read by its fields. -/
theorem readsFields (hbase : ∀ f ∈ r.fields, ∀ path, path ≠ [] ∨ f.skip (f.get a) = true →
      f.codec.Same (f.get r.base) (f.get a) path) : r.codec.ReadsFields r.fields a lost := by
  refine ⟨fun _ _ => Iff.rfl, ⟨_, rfl, fun f hf => get_written ?_ a hf⟩,
    fun doc b hread f hf value hvalue => Or.inl (get_of_member hread f hf value hvalue),
    fun doc b hread f hf hnone path hpath => ?_⟩
  · unfold fields
    rw [List.map_map]
    exact r.nodup
  · rw [get_of_noMember hread f hf hnone]
    exact hbase f hf path hpath

/-- **A record that is read field by field keeps what its fields keep.** -/
theorem keeps (hbase : ∀ f ∈ r.fields, ∀ path, path ≠ [] ∨ f.skip (f.get a) = true →
      f.codec.Same (f.get r.base) (f.get a) path)
    (hlost : ∀ q ∈ lost, ∃ f ∈ r.fields, ∃ q', q = f.key :: q')
    (hkeeps : ∀ f ∈ r.fields, f.Keeps a lost) : r.codec.Keeps a lost :=
  Codec.keeps_of_fields (readsFields hbase) hlost hkeeps

/-- The defaults themselves. -/
theorem keeps_base (hlost : ∀ q ∈ lost, ∃ f ∈ r.fields, ∃ q', q = f.key :: q')
    (hkeeps : ∀ f ∈ r.fields, f.Keeps r.base lost) : r.codec.Keeps r.base lost :=
  keeps (fun f _ _ _ => f.codec.same_refl _ _) hlost hkeeps

end Record

/-! ### Enumerations -/

/-- A variant of an enumeration, with the record of its fields. -/
structure Variant (ε E : Type) where
  name : String
  {Val : Type}
  record : Record ε Val
  wrap : Val → E
  get : E → Option Val
  get_wrap : ∀ v, get (wrap v) = some v

/-- An internally tagged enumeration: the fields of the variant, and its name under the tag. -/
structure Tagged (ε E : Type) where
  tag : String
  variants : List (Variant ε E)
  invalid : ε
  unknown : String → ε

namespace Tagged

variable (t : Tagged ε E)

/-- What is written of a value that is of the variant. -/
def written (v : Variant ε E) (e : E) : Option Json :=
  (v.get e).map fun a =>
    .obj ((t.tag, .str v.name) ::
      v.record.fields.filterMap fun f => (f.written a).map (Prod.mk f.key))

def serialize (e : E) : Json := (t.variants.findSome? fun v => t.written v e).getD .null

/-- Read the rest of a value, the tag of which has been read. -/
def readVariant (name : String) (content : Json) : Except ε E :=
  match t.variants.find? fun v => v.name = name with
  | some v => (v.record.deserialize content).map v.wrap
  | none => .error (t.unknown name)

def deserialize : Json → Except ε E
  | .obj doc =>
    match get doc t.tag with
    | some (.str name) => t.readVariant name (.obj (remove doc t.tag))
    | _ => .error t.invalid
  | .arr (.str name :: items) => t.readVariant name (.arr items)
  | _ => .error t.invalid

/-- The codec of an enumeration. Fields are compared if both values are of their variant. -/
def codec : Codec ε E where
  serialize := t.serialize
  deserialize := t.deserialize
  Same a b path :=
    (path = [] ∨ path = [t.tag] → ∀ v ∈ t.variants, (v.get a).isSome = (v.get b).isSome) ∧
      ∀ v ∈ t.variants, ∀ x y, v.get a = some x → v.get b = some y → v.record.codec.Same x y path
  same_refl a path := by
    refine ⟨fun _ v _ => rfl, fun v _ x y hx hy => ?_⟩
    obtain rfl := Option.some.inj (hx.symm.trans hy)
    exact v.record.codec.same_refl x path

variable {t} {v : Variant ε E} {a : v.Val}

/-- What is said of a variant when it is looked at next to the others: it has a name of its
own, no field under the tag, and the others do not have its values. -/
structure Own (t : Tagged ε E) (v : Variant ε E) : Prop where
  mem : v ∈ t.variants
  name : ∀ v' ∈ t.variants, v'.name = v.name → v' = v
  tag : t.tag ∉ v.record.fields.map Field.key
  left : ∀ v' ∈ t.variants, v' ≠ v → ∀ a, v'.get (v.wrap a) = none
  right : ∀ v' ∈ t.variants, v' ≠ v → ∀ a, v.get (v'.wrap a) = none

/-- A value is written under the name of its variant. -/
theorem Own.serialize_wrap (h : t.Own v) : t.serialize (v.wrap a) =
    .obj ((t.tag, .str v.name) ::
      v.record.fields.filterMap fun f => (f.written a).map (Prod.mk f.key)) := by
  unfold serialize
  have hwritten : t.written v (v.wrap a) = some (.obj ((t.tag, .str v.name) ::
      v.record.fields.filterMap fun f => (f.written a).map (Prod.mk f.key))) := by
    unfold written
    rw [v.get_wrap]
    rfl
  have hsome : (t.variants.findSome? fun v' => t.written v' (v.wrap a)).isSome = true := by
    rw [List.findSome?_isSome_iff]
    exact ⟨v, h.mem, by rw [hwritten]; rfl⟩
  obtain ⟨json, hjson⟩ := Option.isSome_iff_exists.mp hsome
  obtain ⟨v', hv', hfound⟩ := List.exists_of_findSome?_eq_some hjson
  -- it is found by a variant that has the value, and there is but one
  have heq : v' = v := by
    by_contra hne
    unfold written at hfound
    rw [h.left v' hv' hne a] at hfound
    cases hfound
  subst heq
  rw [hjson, ← hfound, hwritten]
  rfl

/-- What is read of a document with the variant's name is of the variant. -/
theorem Own.readVariant (h : t.Own v) (content : Json) :
    t.readVariant v.name content = (v.record.deserialize content).map v.wrap := by
  unfold Tagged.readVariant
  have hfound : (t.variants.find? fun v' => v'.name = v.name).isSome = true := by
    rw [List.find?_isSome]
    exact ⟨v, h.mem, by simp⟩
  obtain ⟨v', hv'⟩ := Option.isSome_iff_exists.mp hfound
  have hname : v'.name = v.name := by simpa using List.find?_some hv'
  rw [hv', h.name v' (List.mem_of_find?_eq_some hv') hname]

/-- What is read off an object is of one of the variants, whose name is under the tag. -/
theorem exists_of_deserialize {doc : Fields} {e : E} (h : t.deserialize (.obj doc) = .ok e) :
    ∃ v' ∈ t.variants, get doc t.tag = some (.str v'.name) ∧
      ∃ x, v'.record.deserialize (.obj (remove doc t.tag)) = .ok x ∧ v'.wrap x = e := by
  unfold deserialize at h
  dsimp only at h
  split at h
  · next name hname =>
    unfold Tagged.readVariant at h
    split at h
    · next v' hv' =>
      obtain ⟨x, hx, hwrap⟩ := Except.map_eq_ok_iff.mp h
      obtain rfl : v'.name = name := by simpa using List.find?_some hv'
      exact ⟨v', List.mem_of_find?_eq_some hv', hname, x, hx, hwrap⟩
    · cases h
  · cases h

/-- The tag is no field of the variant. -/
theorem Own.remove_written (h : t.Own v) (a : v.Val) :
    remove ((t.tag, .str v.name) ::
      v.record.fields.filterMap fun f => (f.written a).map (Prod.mk f.key)) t.tag =
        v.record.fields.filterMap fun f => (f.written a).map (Prod.mk f.key) := by
  unfold remove
  rw [List.filter_cons_of_neg (by simp)]
  refine List.filter_eq_self.mpr fun p hp => decide_eq_true fun hkey => h.tag ?_
  obtain ⟨f, hf, hwritten⟩ := List.mem_filterMap.mp hp
  obtain ⟨value, -, rfl⟩ := Option.map_eq_some_iff.mp hwritten
  exact List.mem_map.mpr ⟨f, hf, hkey⟩

/-- Two values of one variant agree if their fields do. -/
theorem Own.same_wrap (h : t.Own v) {x : v.Val} {path : List String}
    (hsame : v.record.codec.Same x a path) : t.codec.Same (v.wrap x) (v.wrap a) path := by
  have hget : ∀ v' ∈ t.variants, v' ≠ v → v'.get (v.wrap x) = none ∧ v'.get (v.wrap a) = none :=
    fun v' hv' hne => ⟨h.left v' hv' hne x, h.left v' hv' hne a⟩
  refine ⟨fun _ v' hv' => ?_, fun v' hv' x' y hx' hy => ?_⟩
  · by_cases heq : v' = v
    · subst heq
      rw [v'.get_wrap, v'.get_wrap]
      rfl
    · rw [(hget v' hv' heq).1, (hget v' hv' heq).2]
  · by_cases heq : v' = v
    · subst heq
      rw [v'.get_wrap] at hx' hy
      obtain rfl := Option.some.inj hx'
      obtain rfl := Option.some.inj hy
      exact hsame
    · rw [(hget v' hv' heq).1] at hx'
      cases hx'

/-- A value of another variant has none of its fields, but it may have another tag. -/
theorem Own.same_of_ne (h : t.Own v) {v' : Variant ε E} (hv' : v' ∈ t.variants) (hne : v' ≠ v)
    (x : v'.Val) {path : List String} (hpath : path ≠ []) (htag : path ≠ [t.tag]) :
    t.codec.Same (v'.wrap x) (v.wrap a) path := by
  refine ⟨fun hwhole => absurd hwhole (not_or.mpr ⟨hpath, htag⟩), fun w hw x' y hx' hy => ?_⟩
  by_cases heq : w = v
  · subst heq
    rw [h.right v' hv' hne x] at hx'
    cases hx'
  · rw [h.left w hw heq a] at hy
    cases hy

/-- Where the tag leads there are no fields. -/
theorem Own.same_tag (h : t.Own v) (x : v.Val) (path : List String) :
    v.record.codec.Same x a (t.tag :: path) := by
  intro f hf hkey
  exact absurd (List.mem_map.mpr ⟨f, hf, hkey⟩) h.tag

/-- How a merged document is read: as the variant, with the patch but for the tag, or as another. -/
theorem Own.of_read_merged (h : t.Own v) {patch : Fields} {b : E}
    (hb : t.codec.deserialize (merge (t.codec.serialize (v.wrap a)) (.obj patch)) = .ok b)
    (hdistinct : (Json.obj patch).DistinctKeys) :
    (∃ x, v.record.codec.deserialize
        (merge (v.record.codec.serialize a) (.obj (remove patch t.tag))) = .ok x ∧ v.wrap x = b) ∨
      (get patch t.tag ≠ none ∧ ∃ v' ∈ t.variants, v' ≠ v ∧ ∃ x, v'.wrap x = b) := by
  have hserialize : t.codec.serialize (v.wrap a) = _ := h.serialize_wrap
  rw [hserialize] at hb
  obtain ⟨v', hv', htag, x, hx, hwrap⟩ := exists_of_deserialize hb
  by_cases heq : v' = v
  · subst heq
    refine Or.inl ⟨x, ?_, hwrap⟩
    rw [remove_mergeFields, h.remove_written] at hx
    exact hx
  · refine Or.inr ⟨fun hnone => ?_, v', hv', heq, x, hwrap⟩
    rw [get_mergeFields hdistinct.1, hnone, get_cons, if_pos rfl] at htag
    have hname : v.name = v'.name := Json.str.inj (Option.some.inj htag)
    exact heq (h.name v' hv' hname.symm)

/-- **An enumeration keeps what the variant it is keeps.** -/
theorem keeps (h : t.Own v) (hkeeps : v.record.codec.Keeps a []) :
    t.codec.Keeps (v.wrap a) [] := by
  have hserialize : t.codec.serialize (v.wrap a) = _ := h.serialize_wrap
  -- the rest of a path that does not start with the tag is about the patch without it
  have hget : ∀ {key : String} {patch : Fields}, key ≠ t.tag →
      get (remove patch t.tag) key = get patch key := by
    intro key patch hne
    rw [get_remove, if_neg hne]
  refine ⟨fun b hb path => iff_of_true ?_ not_under_nil,
    fun patch b hdistinct hb path hmissing => iff_of_true ?_ not_under_nil,
    fun patch b hdistinct hnull hb path hremoved => ?_⟩
  · rw [hserialize] at hb
    obtain ⟨v', hv', htag, x, hx, rfl⟩ := exists_of_deserialize hb
    rw [get_cons, if_pos rfl] at htag
    obtain rfl : v' = v := h.name v' hv' (Json.str.inj (Option.some.inj htag)).symm
    rw [h.remove_written] at hx
    exact h.same_wrap ((hkeeps.unmerged x hx path).mpr not_under_nil)
  · cases path with
    | nil => exact absurd rfl hmissing.ne_nil
    | cons key path =>
      obtain ⟨patch, rfl, hmember⟩ := hmissing.exists_obj
      rcases h.of_read_merged hb hdistinct with ⟨x, hx, rfl⟩ | ⟨htag, v', hv', hne, x, rfl⟩
      · by_cases hkey : key = t.tag
        · subst hkey
          exact h.same_wrap (h.same_tag x path)
        · refine h.same_wrap ((hkeeps.missing _ x (hdistinct.remove t.tag) hx _ ?_).mpr
            not_under_nil)
          rw [missing_obj, hget hkey]
          exact missing_obj.mp hmissing
      · refine h.same_of_ne hv' hne x (List.cons_ne_nil _ _) fun hpath => ?_
        obtain ⟨rfl, rfl⟩ := List.cons.inj hpath
        rcases hmember with hnone | ⟨value, -, -, hrest⟩
        · exact htag hnone
        · exact hrest.ne_nil rfl
  · cases path with
    | nil => exact absurd rfl hremoved.ne_nil
    | cons key path =>
      obtain ⟨patch, value, rfl, hvalue, hrest⟩ := hremoved.exists_obj hnull
      rcases h.of_read_merged hb hdistinct with ⟨x, hx, rfl⟩ | ⟨htag, v', hv', hne, x, rfl⟩
      · by_cases hkey : key = t.tag
        · subst hkey
          exact h.same_wrap (h.same_tag x path)
        · refine h.same_wrap
            (hkeeps.removed _ x (hdistinct.remove t.tag) (fun h => by cases h) hx _ ?_)
          rw [removed_obj, hget hkey]
          exact removed_obj.mp hremoved
      · refine h.same_of_ne hv' hne x (List.cons_ne_nil _ _) fun hpath => ?_
        obtain ⟨-, rfl⟩ := List.cons.inj hpath
        exact hrest.ne_nil rfl

end Tagged

/-! ### Optional values -/

namespace Codec

/-- `Option`, which is written as null if there is nothing. -/
def option (c : Codec ε α) : Codec ε (Option α) where
  serialize
    | none => .null
    | some a => c.serialize a
  deserialize
    | .null => .ok none
    | value => (c.deserialize value).map some
  Same a b path :=
    (path = [] → a.isSome = b.isSome) ∧ ∀ x y, a = some x → b = some y → c.Same x y path
  same_refl a path := by
    refine ⟨fun _ => rfl, fun x y hx hy => ?_⟩
    obtain rfl := Option.some.inj (hx.symm.trans hy)
    exact c.same_refl x path

/-- A codec of values that have no fields. -/
def NoFields (c : Codec ε α) : Prop := ∀ a b path, path ≠ [] → c.Same a b path

theorem noFields_leaf {serialize : α → Json} {deserialize : Json → Except ε α} :
    (leaf serialize deserialize).NoFields := fun _ _ _ hpath hnil => absurd hnil hpath

theorem NoFields.option {c : Codec ε α} (h : c.NoFields) : c.option.NoFields := by
  intro a b path hpath
  exact ⟨fun hnil => absurd hnil hpath, fun x y _ _ => h x y path hpath⟩

/-- A value without fields is kept if it is read as it was written. -/
theorem NoFields.keeps {c : Codec ε α} (hfields : c.NoFields) {a : α}
    (h : ∀ b, c.deserialize (c.serialize a) = .ok b → b = a) : c.Keeps a [] where
  unmerged b hread path := by
    rw [h b hread]
    exact iff_of_true (c.same_refl a path) not_under_nil
  missing _ b _ _ path hpath := iff_of_true (hfields b a path hpath.ne_nil) not_under_nil
  removed _ b _ _ _ path hpath := hfields b a path hpath.ne_nil

/-- There is nothing below nothing. -/
theorem option_same_none {c : Codec ε α} (a : Option α) {path : List String} (h : path ≠ []) :
    c.option.Same a none path := by
  refine ⟨fun hnil => absurd hnil h, fun x y _ hy => ?_⟩
  cases hy

/-- A codec that refuses some of the values it has read. -/
def refusing (c : Codec ε α) (refused : α → Option ε) : Codec ε α where
  serialize := c.serialize
  deserialize value :=
    match c.deserialize value with
    | .ok a =>
      match refused a with
      | none => .ok a
      | some e => .error e
    | .error e => .error e
  Same := c.Same
  same_refl := c.same_refl

theorem deserialize_of_refusing {c : Codec ε α} {refused : α → Option ε} {value : Json} {a : α}
    (h : (c.refusing refused).deserialize value = .ok a) : c.deserialize value = .ok a := by
  unfold refusing at h
  dsimp only at h
  cases hc : c.deserialize value with
  | error e =>
    rw [hc] at h
    cases h
  | ok a' =>
    rw [hc] at h
    dsimp only at h
    split at h
    · exact h
    · cases h

/-- Refusing values does not change what is kept. -/
theorem Keeps.refusing {c : Codec ε α} {refused : α → Option ε} {a : α}
    {lost : List (List String)} (h : c.Keeps a lost) : (c.refusing refused).Keeps a lost where
  unmerged b hread := h.unmerged b (deserialize_of_refusing hread)
  missing patch b hdistinct hread := h.missing patch b hdistinct (deserialize_of_refusing hread)
  removed patch b hdistinct hnull hread :=
    h.removed patch b hdistinct hnull (deserialize_of_refusing hread)

end Codec

/-! ### Maps -/

/-- The keys of a map, as they are printed. -/
structure MapKey (ε K : Type) where
  print : K → String
  parse : String → Except ε K
  print_parse : ∀ s k, parse s = .ok k → print k = s

section Map

variable (key : MapKey ε K) (c : Codec ε V)

/-- The entry of a key, as it is printed. -/
def MapKey.entry (entries : List (K × V)) (s : String) : Option V :=
  (entries.find? fun p => key.print p.1 = s).map Prod.snd

def readEntries : Fields → Except ε (List (K × V))
  | [] => .ok []
  | (s, value) :: fields => do
    let k ← key.parse s
    let v ← c.deserialize value
    let entries ← readEntries fields
    return (k, v) :: entries

/-- A map, as the entries of an object. -/
def Codec.map (invalid : ε) : Codec ε (List (K × V)) where
  serialize entries := .obj (entries.map fun p => (key.print p.1, c.serialize p.2))
  deserialize
    | .obj fields => readEntries key c fields
    | _ => .error invalid
  Same a b
    | [] => List.Forall₂ (fun p q => p.1 = q.1 ∧ c.Same p.2 q.2 []) a b
    | s :: path => ∀ v w, key.entry a s = some v → key.entry b s = some w → c.Same v w path
  same_refl a path := by
    cases path with
    | nil => exact List.forall₂_same.mpr fun p _ => ⟨rfl, c.same_refl _ _⟩
    | cons s path =>
      intro v w hv hw
      obtain rfl := Option.some.inj (hv.symm.trans hw)
      exact c.same_refl v path

variable {key c}

theorem entry_cons (p : K × V) (entries : List (K × V)) (s : String) :
    key.entry (p :: entries) s = if key.print p.1 = s then some p.2 else key.entry entries s := by
  unfold MapKey.entry
  by_cases h : key.print p.1 = s
  · rw [if_pos h, List.find?_cons_of_pos (by simpa using h)]
    rfl
  · rw [if_neg h, List.find?_cons_of_neg (by simpa using h)]

theorem mem_of_entry {entries : List (K × V)} {s : String} {v : V}
    (h : key.entry entries s = some v) : ∃ p ∈ entries, p.2 = v := by
  obtain ⟨p, hp, hv⟩ := Option.map_eq_some_iff.mp h
  exact ⟨p, List.mem_of_find?_eq_some hp, hv⟩

/-- An entry is written under its key. -/
theorem get_entries (entries : List (K × V)) (s : String) :
    get (entries.map fun p => (key.print p.1, c.serialize p.2)) s =
      (key.entry entries s).map c.serialize := by
  induction entries with
  | nil => rfl
  | cons p entries ih =>
    rw [List.map_cons, get_cons, entry_cons, ih]
    by_cases h : key.print p.1 = s
    · rw [if_pos h.symm, if_pos h]
      rfl
    · rw [if_neg (Ne.symm h), if_neg h]

/-- An entry that is read has been the member of its key. -/
theorem exists_of_entry {fields : Fields} {entries : List (K × V)}
    (h : readEntries key c fields = .ok entries) {s : String} {v : V}
    (hv : key.entry entries s = some v) :
    ∃ value, get fields s = some value ∧ c.deserialize value = .ok v := by
  induction fields generalizing entries with
  | nil =>
    obtain rfl := Except.ok.inj h
    cases hv
  | cons p fields ih =>
    obtain ⟨s', value⟩ := p
    obtain ⟨k, hk, h⟩ := Except.bind_eq_ok_iff.mp h
    obtain ⟨w, hw, h⟩ := Except.bind_eq_ok_iff.mp h
    obtain ⟨rest, hrest, h⟩ := Except.bind_eq_ok_iff.mp h
    obtain rfl := Except.ok.inj h
    rw [entry_cons, key.print_parse s' k hk] at hv
    rw [get_cons]
    -- the first member has this key, or it is further on
    by_cases hs : s' = s
    · rw [if_pos hs] at hv
      obtain rfl := Option.some.inj hv
      exact ⟨value, if_pos hs.symm, hw⟩
    · rw [if_neg hs] at hv
      rw [if_neg (Ne.symm hs)]
      exact ih hrest hv

/-- Entries that are read as they were written are the same ones. -/
theorem forall₂_of_readEntries {entries entries' : List (K × V)}
    (hkeys : ∀ p ∈ entries, key.parse (key.print p.1) = .ok p.1)
    (hkeeps : ∀ p ∈ entries, c.Keeps p.2 [])
    (h : readEntries key c (entries.map fun p => (key.print p.1, c.serialize p.2)) =
      .ok entries') :
    List.Forall₂ (fun p q => p.1 = q.1 ∧ c.Same p.2 q.2 []) entries' entries := by
  induction entries generalizing entries' with
  | nil =>
    obtain rfl := Except.ok.inj h
    exact .nil
  | cons p entries ih =>
    rw [List.forall_mem_cons] at hkeys hkeeps
    obtain ⟨k, hk, h⟩ := Except.bind_eq_ok_iff.mp h
    obtain ⟨w, hw, h⟩ := Except.bind_eq_ok_iff.mp h
    obtain ⟨rest, hrest, h⟩ := Except.bind_eq_ok_iff.mp h
    obtain rfl := Except.ok.inj h
    rw [hkeys.1] at hk
    obtain rfl := Except.ok.inj hk
    exact .cons ⟨rfl, (hkeeps.1.unmerged w hw []).mpr not_under_nil⟩
      (ih hkeys.2 hkeeps.2 hrest)

/-- **A map keeps its entries.** -/
theorem Codec.map_keeps {invalid : ε} {entries : List (K × V)}
    (hkeys : ∀ p ∈ entries, key.parse (key.print p.1) = .ok p.1)
    (hkeeps : ∀ p ∈ entries, c.Keeps p.2 []) : (Codec.map key c invalid).Keeps entries [] := by
  -- the entry of a key, before and after
  have hentry : ∀ {fields : Fields} {b : List (K × V)} {s : String} {v w : V},
      readEntries key c fields = .ok b → key.entry b s = some v → key.entry entries s = some w →
        c.Keeps w [] ∧ ∃ value, get fields s = some value ∧ c.deserialize value = .ok v ∧
          get (entries.map fun p => (key.print p.1, c.serialize p.2)) s = some (c.serialize w) := by
    intro fields b s v w hread hv hw
    obtain ⟨p, hp, rfl⟩ := mem_of_entry hw
    obtain ⟨value, hget, hvalue⟩ := exists_of_entry hread hv
    refine ⟨hkeeps p hp, value, hget, hvalue, ?_⟩
    rw [get_entries, hw]
    rfl
  have hmerge : ∀ patch, merge ((Codec.map key c invalid).serialize entries) (.obj patch) =
      .obj (mergeFields (entries.map fun p => (key.print p.1, c.serialize p.2)) patch) :=
    fun _ => rfl
  refine ⟨fun b hread path => iff_of_true ?_ not_under_nil,
    fun patch b hdistinct hread path hmissing => iff_of_true ?_ not_under_nil,
    fun patch b hdistinct hnull hread path hremoved => ?_⟩
  · cases path with
    | nil => exact forall₂_of_readEntries hkeys hkeeps hread
    | cons s path =>
      intro v w hv hw
      obtain ⟨hkeep, value, hget, hvalue, hwritten⟩ := hentry hread hv hw
      obtain rfl := Option.some.inj (hget.symm.trans hwritten)
      exact (hkeep.unmerged v hvalue path).mpr not_under_nil
  · cases path with
    | nil => exact absurd rfl hmissing.ne_nil
    | cons s path =>
      obtain ⟨patch, rfl, hmember⟩ := hmissing.exists_obj
      rw [hmerge] at hread
      intro v w hv hw
      obtain ⟨hkeep, value, hget, hvalue, hwritten⟩ := hentry hread hv hw
      rw [get_mergeFields hdistinct.1, hwritten] at hget
      rcases hmember with hpatch | ⟨value', hpatch, hnull, hrest⟩
      · rw [hpatch] at hget
        obtain rfl := Option.some.inj hget
        exact (hkeep.unmerged v hvalue path).mpr not_under_nil
      · rw [hpatch, mergeMember_of_ne_null hnull] at hget
        obtain rfl := Option.some.inj hget
        exact (hkeep.missing value' v (hdistinct.2.of_get hpatch) hvalue path hrest).mpr
          not_under_nil
  · cases path with
    | nil => exact absurd rfl hremoved.ne_nil
    | cons s path =>
      obtain ⟨patch, value', rfl, hpatch, hrest⟩ := hremoved.exists_obj hnull
      rw [hmerge] at hread
      intro v w hv hw
      obtain ⟨hkeep, value, hget, hvalue, hwritten⟩ := hentry hread hv hw
      rw [get_mergeFields hdistinct.1, hwritten, hpatch] at hget
      by_cases hnull' : value' = .null
      -- an entry that is taken out is not read
      · subst hnull'
        cases hget
      · rw [mergeMember_of_ne_null hnull'] at hget
        obtain rfl := Option.some.inj hget
        exact hkeep.removed value' v (hdistinct.2.of_get hpatch) hnull' hvalue path hrest

end Map

end Serde
