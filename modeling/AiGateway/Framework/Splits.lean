import AiGateway.Framework.Text
import Mathlib.Data.List.Basic

/-!
# Where a text is split

A text that is searched for separators can be split in several places. Of two splits one is
further on: what stands behind it is an end of what stands behind the other. A search that
goes through the splits from the left takes the longest end it has a use for, and a search
for the last occurrence of a pattern does not look at what stands before it.

* `isEnd_or_of_append_eq`: two splits of one text;
* `longest_of_findSome?`: the split a search takes;
* `splitLast_of_append`: what stands before the last occurrence can be replaced.
-/

namespace Text

variable {sep : Char} {a b c d s t x q : List Char}

/-! ### Ends -/

/-- An end of a text: the text itself, or what stands behind one of its separators. -/
def IsEnd (sep : Char) (c t : List Char) : Prop := c = t ∨ ∃ x, t = x ++ sep :: c

theorem IsEnd.subset (h : IsEnd sep c t) : c ⊆ t := by
  obtain rfl | ⟨x, rfl⟩ := h
  · exact List.Subset.refl c
  · exact fun e he => List.mem_append_right x (List.mem_cons_of_mem sep he)

/-- A text without separators has one end. -/
theorem isEnd_iff_of_notMem (h : sep ∉ t) : IsEnd sep c t ↔ c = t := by
  refine ⟨fun hend => hend.resolve_right ?_, Or.inl⟩
  rintro ⟨x, rfl⟩
  exact h (List.mem_append_right x List.mem_cons_self)

/-- The first piece of a text is passed over as a whole. -/
theorem isEnd_append_iff (h : sep ∉ a) :
    IsEnd sep c (a ++ sep :: b) ↔ c = a ++ sep :: b ∨ IsEnd sep c b := by
  constructor
  · rintro (rfl | ⟨x, hx⟩)
    · exact Or.inl rfl
    · right
      obtain ⟨y, rfl, hy⟩ | ⟨y, rfl, hy⟩ := List.append_eq_append_iff.mp hx
      · -- the separator of the split is the one behind the piece, or stands in the rest
        obtain ⟨rfl, hb⟩ | ⟨z, rfl, hb⟩ := List.cons_eq_append_iff.mp hy
        · exact Or.inl (List.cons.inj hb).2
        · exact Or.inr ⟨z, hb⟩
      · obtain ⟨rfl, hc⟩ | ⟨z, rfl, hc⟩ := List.cons_eq_append_iff.mp hy
        · exact Or.inl (List.cons.inj hc).2.symm
        · exact absurd (List.mem_append_right x List.mem_cons_self) h
  · rintro (rfl | rfl | ⟨x, rfl⟩)
    · exact Or.inl rfl
    · exact Or.inr ⟨a, rfl⟩
    · exact Or.inr ⟨a ++ sep :: x, by rw [List.append_assoc, List.cons_append]⟩

/-- **Two splits of one text.** One of them is further on. -/
theorem isEnd_or_of_append_eq (h : x ++ sep :: c = q ++ sep :: t) :
    IsEnd sep c t ∨ ∃ u, q = x ++ sep :: u ∧ c = u ++ sep :: t := by
  obtain ⟨y, rfl, hy⟩ | ⟨y, rfl, hy⟩ := List.append_eq_append_iff.mp h
  · obtain ⟨rfl, hc⟩ | ⟨z, rfl, hc⟩ := List.cons_eq_append_iff.mp hy
    · exact Or.inl (Or.inl (List.cons.inj hc).2.symm)
    · exact Or.inr ⟨z, rfl, hc⟩
  · obtain ⟨rfl, hc⟩ | ⟨z, rfl, hc⟩ := List.cons_eq_append_iff.mp hy
    · exact Or.inl (Or.inl (List.cons.inj hc).2)
    · exact Or.inl (Or.inr ⟨z, hc⟩)

/-- A text has one last separator. -/
theorem last_inj (hb : sep ∉ b) (hd : sep ∉ d) (h : a ++ sep :: b = c ++ sep :: d) :
    a = c ∧ b = d := by
  obtain hend | ⟨u, -, rfl⟩ := isEnd_or_of_append_eq h
  · obtain rfl := (isEnd_iff_of_notMem hd).mp hend
    exact ⟨List.append_cancel_right h, rfl⟩
  · exact absurd (List.mem_append_right u List.mem_cons_self) hb

/-! ### Searching the splits -/

theorem mem_splits (hc : c ≠ []) : (x, c) ∈ splits sep (x ++ sep :: c) := by
  induction x with
  | nil =>
    rw [List.nil_append, splits, if_pos ⟨rfl, hc⟩]
    exact List.mem_cons_self
  | cons e x ih =>
    have hothers : (e :: x, c) ∈ (splits sep (x ++ sep :: c)).map fun p => (e :: p.1, p.2) :=
      List.mem_map.mpr ⟨(x, c), ih, rfl⟩
    rw [List.cons_append, splits]
    split
    · exact List.mem_cons_of_mem _ hothers
    · exact hothers

/-- The splits go on to shorter ends. -/
theorem pairwise_splits (sep : Char) (s : List Char) :
    (splits sep s).Pairwise fun p p' => p'.2.length < p.2.length := by
  induction s with
  | nil => exact List.Pairwise.nil
  | cons e s ih =>
    have hothers : ((splits sep s).map fun p => (e :: p.1, p.2)).Pairwise
        fun p p' => p'.2.length < p.2.length := List.pairwise_map.mpr ih
    rw [splits]
    split
    · refine List.pairwise_cons.mpr ⟨fun p hp => ?_, hothers⟩
      obtain ⟨⟨before, after⟩, hmem, rfl⟩ := List.mem_map.mp hp
      -- every other end is behind a separator of the rest
      have hs := congrArg List.length (eq_of_mem_splits hmem)
      rw [List.length_append, List.length_cons] at hs
      show after.length < s.length
      omega
    · exact hothers

/-- **The split a search takes** is the first of use, and no longer end is. -/
theorem longest_of_findSome? {β : Type} {f : List Char × List Char → Option β} {found : β}
    (h : (splits sep s).findSome? f = some found) :
    ∃ x c, s = x ++ sep :: c ∧ f (x, c) = some found ∧
      ∀ x' c', s = x' ++ sep :: c' → c.length < c'.length → f (x', c') = none := by
  obtain ⟨before, p, after, hsplits, hfound, hbefore⟩ := List.findSome?_eq_some_iff.mp h
  have hmem : p ∈ splits sep s := by
    rw [hsplits]
    exact List.mem_append_right before List.mem_cons_self
  refine ⟨p.1, p.2, eq_of_mem_splits hmem, hfound, fun x' c' hs hlonger => ?_⟩
  have hmem' : (x', c') ∈ splits sep s := by
    rw [hs]
    exact mem_splits (List.ne_nil_of_length_pos (by omega))
  rw [hsplits] at hmem'
  obtain hlt | hge := List.mem_append.mp hmem'
  · exact hbefore _ hlt
  · -- from the one that is taken on, the ends are not longer
    have hpairwise := pairwise_splits sep s
    rw [hsplits] at hpairwise
    obtain ⟨hshorter, -⟩ := List.pairwise_cons.mp (List.pairwise_append.mp hpairwise).2.1
    obtain rfl | hmem := List.mem_cons.mp hge
    · exact absurd hlonger (Nat.lt_irrefl _)
    · exact absurd (hshorter _ hmem) (Nat.lt_asymm hlonger)

/-- A search that takes nothing has a use for no end. -/
theorem eq_none_of_findSome? {β : Type} {f : List Char × List Char → Option β}
    (h : (splits sep (x ++ sep :: c)).findSome? f = none) (hc : c ≠ []) : f (x, c) = none :=
  List.findSome?_eq_none_iff.mp h _ (mem_splits hc)

/-! ### Occurrences -/

theorem notMem_of_splitFirst {e : Char} {before after : List Char}
    (h : splitFirst e s = some (before, after)) : e ∉ before := by
  induction s generalizing before with
  | nil => cases h
  | cons d s ih =>
    rw [splitFirst] at h
    split at h
    · cases h
      exact List.not_mem_nil
    · next hd =>
      obtain ⟨p, hp, hpair⟩ := Option.map_eq_some_iff.mp h
      cases hpair
      exact fun hmem => (List.mem_cons.mp hmem).elim (fun heq => hd heq.symm) (ih hp)

/-- What is put in front of a text does not take its last occurrence away. -/
theorem splitLast_append {pat before after : List Char}
    (h : splitLast pat s = some (before, after)) (x : List Char) :
    splitLast pat (x ++ s) = some (x ++ before, after) := by
  induction x with
  | nil => exact h
  | cons e x ih => rw [List.cons_append, splitLast, ih, List.cons_append]

/-- **The last occurrence stays the last** when what stands before it is replaced. -/
theorem splitLast_of_append {pat before after : List Char}
    (h : splitLast pat (before ++ (pat ++ after)) = some (before, after)) (x : List Char) :
    splitLast pat (x ++ (pat ++ after)) = some (x, after) := by
  have hfront : splitLast pat (pat ++ after) = some ([], after) := by
    induction before with
    | nil => exact h
    | cons e before ih =>
      rw [List.cons_append, splitLast] at h
      split at h
      · next p hp =>
        obtain ⟨before', after'⟩ := p
        cases h
        exact ih hp
      · split at h
        · cases h
        · cases h
  rw [splitLast_append hfront x, List.append_nil]

end Text
