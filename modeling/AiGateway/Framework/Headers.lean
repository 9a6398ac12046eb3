import Mathlib.Data.List.Dedup
import Mathlib.Tactic.Common

/-!
# Header maps

The headers of an HTTP message: several values to a name, names in lower case. A map is the
list of its entries, and what it says of a name is the list of values the name has, so every
operation is described by what it does to `values`.

* `values_remove`, `values_insert`: the changes to one name;
* `values_addDefaults`: the headers a client adds where a request has none of its own;
* `values_filterMap_names`: a map made of at most one value to each name of another.
-/

namespace Http

/-- The bytes of header values: no control characters but the tab. -/
def valueByte (b : UInt8) : Bool := (32 ≤ b && b != 127) || b == 9

structure HeaderValue where
  bytes : List UInt8
  valid : bytes.all valueByte = true
  deriving DecidableEq

/-- `HeaderValue::from_str`. -/
def HeaderValue.fromStr (s : String) : Option HeaderValue :=
  if h : s.toUTF8.toList.all valueByte = true then some ⟨_, h⟩ else none

/-- A character of a number in decimals. -/
theorem valueByte_of_isDigit {c : Char} (h : c.isDigit) :
    valueByte (UInt8.ofNat c.toNat) = true := by
  unfold Char.isDigit at h
  obtain ⟨hge, hle⟩ := Bool.and_eq_true_iff.mp h
  have hge' : 48 ≤ c.toNat := of_decide_eq_true hge
  have hle' : c.toNat ≤ 57 := of_decide_eq_true hle
  have hdigit : ∀ n < 58, 48 ≤ n → valueByte (UInt8.ofNat n) = true := by decide
  exact hdigit c.toNat (by omega) hge'

/-- A number in decimals. -/
def HeaderValue.ofNat (n : ℕ) : HeaderValue where
  bytes := (Nat.toDigits 10 n).map fun c => UInt8.ofNat c.toNat
  valid := by
    rw [List.all_eq_true]
    intro b hb
    obtain ⟨c, hc, rfl⟩ := List.mem_map.mp hb
    exact valueByte_of_isDigit (Nat.isDigit_of_mem_toDigits (by decide) (by decide) hc)

abbrev HeaderMap := List (String × HeaderValue)

namespace HeaderMap

/-- `get_all`. -/
def values (m : HeaderMap) (name : String) : List HeaderValue :=
  (m.filter fun entry => entry.1 = name).map Prod.snd

/-- `get`: the first value. -/
def get (m : HeaderMap) (name : String) : Option HeaderValue := (m.values name).head?

/-- `contains_key`. -/
def contains (m : HeaderMap) (name : String) : Bool := !(m.values name).isEmpty

/-- `remove`: every value goes. -/
def remove (m : HeaderMap) (name : String) : HeaderMap := m.filter fun entry => entry.1 ≠ name

/-- `insert`: the value takes the place of all others. -/
def insert (m : HeaderMap) (name : String) (value : HeaderValue) : HeaderMap :=
  m.remove name ++ [(name, value)]

/-- The headers of a client, of which a request only takes those whose name it lacks. -/
def addDefaults (m defaults : HeaderMap) : HeaderMap :=
  m ++ defaults.filter fun entry => !m.contains entry.1

/-- The names, each once. -/
def names (m : HeaderMap) : List String := (m.map Prod.fst).dedup

/-- What `into_iter` yields for a name: the name comes with the first of its values only. -/
def yielded (name : String) : List HeaderValue → List (Option String × HeaderValue)
  | [] => []
  | value :: values => (some name, value) :: values.map fun value => (none, value)

/-- `into_iter`. -/
def intoIter (m : HeaderMap) : List (Option String × HeaderValue) :=
  m.names.flatMap fun name => yielded name (m.values name)

/-- `extend` with names and values: all of them are appended. -/
def extend (m added : HeaderMap) : HeaderMap := m ++ added

/-! ### What the operations do to a name -/

@[simp] theorem values_nil (name : String) : values [] name = [] := rfl

@[simp] theorem values_append (m m' : HeaderMap) (name : String) :
    values (m ++ m') name = values m name ++ values m' name := by
  unfold values
  rw [List.filter_append, List.map_append]

theorem values_cons (entry : String × HeaderValue) (m : HeaderMap) (name : String) :
    values (entry :: m) name =
      if entry.1 = name then entry.2 :: values m name else values m name := by
  unfold values
  rw [List.filter_cons]
  by_cases h : entry.1 = name
  · rw [if_pos h, if_pos (decide_eq_true h), List.map_cons]
  · rw [if_neg h, if_neg (by simpa using h)]

/-- A map that keeps entries by their names keeps all values of a name, or none. -/
theorem values_filter (m : HeaderMap) (keep : String → Bool) (name : String) :
    values (m.filter fun entry => keep entry.1) name = if keep name then values m name else [] := by
  unfold values
  rw [List.filter_filter]
  split
  · next hkeep =>
    congr 1
    refine List.filter_congr fun entry _ => ?_
    by_cases hname : entry.1 = name
    · rw [hname, hkeep, Bool.and_true]
    · rw [decide_eq_false hname, Bool.false_and]
  · next hkeep =>
    rw [List.map_eq_nil_iff, List.filter_eq_nil_iff]
    intro entry _ h
    obtain ⟨hname, hkept⟩ := Bool.and_eq_true_iff.mp h
    rw [of_decide_eq_true hname] at hkept
    exact hkeep hkept

theorem values_remove (m : HeaderMap) (removed name : String) :
    (m.remove removed).values name = if name = removed then [] else m.values name := by
  have h := values_filter m (fun n => decide (n ≠ removed)) name
  unfold remove
  rw [h]
  by_cases hname : name = removed
  · rw [if_pos hname, if_neg (by simpa using hname)]
  · rw [if_neg hname, if_pos (by simpa using hname)]

theorem values_insert (m : HeaderMap) (inserted : String) (value : HeaderValue) (name : String) :
    (m.insert inserted value).values name =
      if name = inserted then [value] else m.values name := by
  unfold insert
  rw [values_append, values_remove, values_cons]
  by_cases hname : name = inserted
  · rw [if_pos hname, if_pos hname, if_pos hname.symm]
    rfl
  · rw [if_neg hname, if_neg hname, if_neg (Ne.symm hname), values_nil, List.append_nil]

theorem values_extend (m added : HeaderMap) (name : String) :
    (m.extend added).values name = m.values name ++ added.values name := values_append m added name

theorem nodup_names (m : HeaderMap) : m.names.Nodup := List.nodup_dedup _

theorem mem_names {m : HeaderMap} {name : String} : name ∈ m.names ↔ m.values name ≠ [] := by
  unfold names values
  rw [List.mem_dedup, List.mem_map, ne_eq, List.map_eq_nil_iff, List.filter_eq_nil_iff]
  push Not
  simp only [decide_eq_true_eq]

/-- **One value to each name.** -/
theorem values_filterMap_names {names : List String} (hnames : names.Nodup)
    (value : String → Option HeaderValue) (name : String) :
    values (names.filterMap fun n => (value n).map fun v => (n, v)) name =
      if name ∈ names then (value name).toList else [] := by
  induction names with
  | nil => rfl
  | cons n names ih =>
    obtain ⟨hn, hnames⟩ := List.nodup_cons.mp hnames
    have hcons : values ((n :: names).filterMap fun n => (value n).map fun v => (n, v)) name =
        (if n = name then (value n).toList else []) ++
          values (names.filterMap fun n => (value n).map fun v => (n, v)) name := by
      rw [List.filterMap_cons]
      cases value n with
      | none => simp
      | some v =>
        dsimp only [Option.map_some]
        rw [values_cons]
        split <;> simp
    rw [hcons, ih hnames]
    by_cases h : n = name
    -- the name does not come again
    · subst h
      rw [if_pos rfl, if_neg hn, if_pos List.mem_cons_self, List.append_nil]
    · have hmem : name ∈ n :: names ↔ name ∈ names := by simp [Ne.symm h]
      rw [if_neg h, List.nil_append]
      simp only [hmem]

theorem contains_eq_false_iff {m : HeaderMap} {name : String} :
    m.contains name = false ↔ m.values name = [] := by
  unfold contains
  rw [Bool.not_eq_false', List.isEmpty_iff]

/-- **Defaults only fill gaps.** -/
theorem values_addDefaults (m defaults : HeaderMap) (name : String) :
    (m.addDefaults defaults).values name =
      if m.values name = [] then defaults.values name else m.values name := by
  unfold addDefaults
  rw [values_append, values_filter defaults fun n => !m.contains n]
  by_cases hm : m.values name = []
  · rw [if_pos hm, hm, if_pos (by rw [contains_eq_false_iff.mpr hm]; rfl), List.nil_append]
  · have hcontains : m.contains name = true := by
      cases h : m.contains name with
      | true => rfl
      | false => exact absurd (contains_eq_false_iff.mp h) hm
    rw [if_neg hm, hcontains, if_neg (by decide), List.append_nil]

end HeaderMap

end Http
