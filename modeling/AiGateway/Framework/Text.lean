import Mathlib.Data.List.Basic
import Mathlib.Tactic.Common

/-!
# Splitting texts

The searches in a text that a hand-written parser is made of: the first occurrence of a
character, the last occurrence of a pattern, a suffix, and every place a separator stands.
Each returns what stands before and after, and each has a lemma that puts the text together
again from what it returned.

* `trimStartMatches_eq_self_iff`: the texts that removing a pattern from the front leaves alone.
-/

namespace Text

/-- Texts are compared as they are. -/
instance instLawfulBEq : LawfulBEq (List Char) := inferInstance

/-- The text before and after the first occurrence of a character. -/
def splitFirst (c : Char) : List Char → Option (List Char × List Char)
  | [] => none
  | d :: s => if d = c then some ([], s) else (splitFirst c s).map fun p => (d :: p.1, p.2)

/-- The text before and after the last occurrence of a pattern. -/
def splitLast (pat : List Char) : List Char → Option (List Char × List Char)
  | [] => none
  | d :: s =>
    -- an occurrence further on goes before one that starts here
    match splitLast pat s with
    | some p => some (d :: p.1, p.2)
    | none => if pat.isPrefixOf (d :: s) then some ([], (d :: s).drop pat.length) else none

/-- `str::contains`. -/
def contains (pat s : List Char) : Bool := (splitLast pat s).isSome

/-- The text before a suffix. -/
def stripSuffix (pat s : List Char) : Option (List Char) :=
  if pat.isSuffixOf s then some (s.take (s.length - pat.length)) else none

/-- The text after a prefix. -/
def stripPrefix (pat s : List Char) : Option (List Char) :=
  if pat.isPrefixOf s then some (s.drop pat.length) else none

/-- The text before and after each occurrence of a separator that is not the last
character, from the left. -/
def splits (sep : Char) : List Char → List (List Char × List Char)
  | [] => []
  | d :: s =>
    let others := (splits sep s).map fun p => (d :: p.1, p.2)
    if d = sep ∧ s ≠ [] then ([], s) :: others else others

/-- `str::trim_start_matches`: a pattern is removed from the front as often as it stands
there. -/
def trimStartMatches (pat s : List Char) : List Char :=
  if pat ≠ [] ∧ pat.isPrefixOf s then trimStartMatches pat (s.drop pat.length) else s
termination_by s.length
decreasing_by
  next h =>
    have hpat : 0 < pat.length := List.length_pos_iff.mpr h.1
    have hle : pat.length ≤ s.length := (List.isPrefixOf_iff_prefix.mp h.2).length_le
    rw [List.length_drop]
    omega

/-- The text without the matches of a pattern, found from the left and without overlap. The
first characters are what is left of a match, and are passed over. -/
def removeFrom (pat : List Char) : ℕ → List Char → List Char
  | _, [] => []
  | skipped + 1, _ :: s => removeFrom pat skipped s
  | 0, c :: s =>
    if pat ≠ [] ∧ pat.isPrefixOf (c :: s) then removeFrom pat (pat.length - 1) s
    else c :: removeFrom pat 0 s

/-- `str::replace`, by nothing. -/
def remove (pat s : List Char) : List Char := removeFrom pat 0 s

/-- `str::len`, in bytes. -/
def byteLen (s : List Char) : ℕ := s.foldl (fun n c => n + c.utf8Size) 0

/-- `&s[..n]`; `none` is the panic of an index that is inside a character or past the end. -/
def sliceTo : ℕ → List Char → Option (List Char)
  | 0, _ => some []
  | _ + 1, [] => none
  | n + 1, c :: s =>
    if c.utf8Size ≤ n + 1 then (sliceTo (n + 1 - c.utf8Size) s).map (c :: ·) else none

def eqIgnoreAsciiCase (a b : List Char) : Bool := a.map Char.toLower == b.map Char.toLower

/-- Without the pattern at its front, a text stays as it is. -/
theorem trimStartMatches_of_not {pat s : List Char} (h : ¬pat <+: s) :
    trimStartMatches pat s = s := by
  rw [trimStartMatches, if_neg fun hp => h (List.isPrefixOf_iff_prefix.mp hp.2)]

/-- With the pattern at its front, a text loses it, and perhaps more. -/
theorem trimStartMatches_append {pat : List Char} (hpat : pat ≠ []) (s : List Char) :
    trimStartMatches pat (pat ++ s) = trimStartMatches pat s := by
  rw [trimStartMatches, if_pos ⟨hpat, List.isPrefixOf_iff_prefix.mpr (List.prefix_append pat s)⟩,
    List.drop_left]

/-- What is left is the end of the text. -/
theorem trimStartMatches_suffix (pat s : List Char) : trimStartMatches pat s <:+ s := by
  fun_induction trimStartMatches pat s with
  | case1 s h ih => exact ih.trans (List.drop_suffix _ s)
  | case2 s h => exact List.suffix_refl s

/-- A text is left alone exactly when the pattern is not at its front. -/
theorem trimStartMatches_eq_self_iff {pat s : List Char} (hpat : pat ≠ []) :
    trimStartMatches pat s = s ↔ ¬pat <+: s := by
  refine ⟨fun h hprefix => ?_, trimStartMatches_of_not⟩
  obtain ⟨t, rfl⟩ := hprefix
  rw [trimStartMatches_append hpat] at h
  -- what is left would be longer than what it was made from
  have hle := (trimStartMatches_suffix pat t).length_le
  rw [h, List.length_append] at hle
  have hpos := List.length_pos_iff.mpr hpat
  omega

theorem removeFrom_eq (pat : List Char) (n : ℕ) (s : List Char) :
    removeFrom pat n s = remove pat (s.drop n) := by
  induction s generalizing n with
  | nil => rw [List.drop_nil, remove, removeFrom, removeFrom]
  | cons c s ih =>
    cases n with
    | zero => rfl
    | succ n => rw [removeFrom, ih, List.drop_succ_cons]

/-- A match at the front is left out. -/
theorem remove_append {pat : List Char} (hpat : pat ≠ []) (s : List Char) :
    remove pat (pat ++ s) = remove pat s := by
  obtain ⟨c, rest, rfl⟩ := List.exists_cons_of_ne_nil hpat
  have hmatch : (c :: rest).isPrefixOf (c :: (rest ++ s)) = true :=
    List.isPrefixOf_iff_prefix.mpr (List.prefix_append (c :: rest) s)
  rw [List.cons_append, remove, removeFrom, if_pos ⟨hpat, hmatch⟩, removeFrom_eq,
    List.length_cons, Nat.add_sub_cancel, List.drop_left]

theorem eq_of_splitFirst {c : Char} {s before after : List Char}
    (h : splitFirst c s = some (before, after)) : s = before ++ c :: after := by
  induction s generalizing before with
  | nil => cases h
  | cons d s ih =>
    rw [splitFirst] at h
    split at h
    · next hd =>
      cases h
      rw [hd, List.nil_append]
    · obtain ⟨p, hp, hpair⟩ := Option.map_eq_some_iff.mp h
      cases hpair
      rw [List.cons_append, ← ih hp]

/-- A character that occurs has a first occurrence. -/
theorem isSome_splitFirst {c : Char} {s : List Char} (h : c ∈ s) :
    (splitFirst c s).isSome = true := by
  induction s with
  | nil => cases h
  | cons d s ih =>
    rw [splitFirst]
    split
    · rfl
    · next hd =>
      rw [Option.isSome_map]
      exact ih ((List.mem_cons.mp h).resolve_left fun heq => hd heq.symm)

/-- The first occurrence is where it is put, if there is none before. -/
theorem splitFirst_append {c : Char} {before : List Char} (h : c ∉ before) (after : List Char) :
    splitFirst c (before ++ c :: after) = some (before, after) := by
  induction before with
  | nil => rw [List.nil_append, splitFirst, if_pos rfl]
  | cons d before ih =>
    have hd : d ≠ c := fun heq => h (heq ▸ List.mem_cons_self)
    rw [List.cons_append, splitFirst, if_neg hd, ih fun hmem => h (List.mem_cons_of_mem d hmem)]
    rfl

theorem eq_of_splitLast {pat s before after : List Char}
    (h : splitLast pat s = some (before, after)) : s = before ++ (pat ++ after) := by
  induction s generalizing before with
  | nil => cases h
  | cons d s ih =>
    rw [splitLast] at h
    cases hs : splitLast pat s with
    | some p =>
      rw [hs] at h
      cases h
      rw [List.cons_append, ← ih hs]
    | none =>
      rw [hs] at h
      dsimp only at h
      split at h
      · next hprefix =>
        cases h
        -- nothing further on: the pattern is what the text starts with
        obtain ⟨rest, hrest⟩ := List.isPrefixOf_iff_prefix.mp hprefix
        rw [← hrest, List.drop_left, List.nil_append]
      · cases h

@[simp] theorem stripPrefix_append (pat s : List Char) : stripPrefix pat (pat ++ s) = some s := by
  unfold stripPrefix
  rw [if_pos (List.isPrefixOf_iff_prefix.mpr (List.prefix_append pat s)), List.drop_left]

theorem eq_of_stripSuffix {pat s before : List Char} (h : stripSuffix pat s = some before) :
    s = before ++ pat := by
  unfold stripSuffix at h
  split at h
  · next hsuffix =>
    obtain ⟨start, rfl⟩ := List.isSuffixOf_iff_suffix.mp hsuffix
    obtain rfl := Option.some.inj h
    rw [List.length_append, Nat.add_sub_cancel, List.take_left]
  · cases h

theorem eq_of_mem_splits {sep : Char} {s before after : List Char}
    (h : (before, after) ∈ splits sep s) : s = before ++ sep :: after := by
  induction s generalizing before with
  | nil => cases h
  | cons d s ih =>
    -- every place further on is one of the rest, with the first character put back
    have hothers : ∀ before, (before, after) ∈ (splits sep s).map (fun p => (d :: p.1, p.2)) →
        d :: s = before ++ sep :: after := by
      intro before hmem
      obtain ⟨p, hp, hpair⟩ := List.mem_map.mp hmem
      cases hpair
      rw [List.cons_append, ← ih hp]
    rw [splits] at h
    split at h
    · next hsep =>
      rcases List.mem_cons.mp h with h | h
      · cases h
        rw [hsep.1, List.nil_append]
      · exact hothers before h
    · exact hothers before h

end Text
