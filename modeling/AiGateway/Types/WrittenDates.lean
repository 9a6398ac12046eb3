import AiGateway.Types.Dates

/-!
# The dates that are written

What can be read as a date in a text that ends in one that was written. Behind a dash of the
date itself only what is written back can be, and in front of it there is one way to read
more than was written: white space and a dash, which is taken for the sign of the year.

* `DateText.write_of_isEnd`: the ends of a date that is written;
* `DateText.before`: what can stand in front of it.
-/

namespace AiGateway

open Day (padded)

variable {Date : Type} {chrono : Chrono Date} {day : Date → Day}

/-! ### Dates that are written -/

/-- A date is written back if it is the day it is read as. -/
theorem writesDay_iff_write (hdoc : chrono.Documented day) {s : List Char} {date : Date}
    {format : DateFormat} (h : parseDate chrono s = some (date, format)) :
    WritesDay chrono s ↔ (day date).write format = s := by
  rw [writesDay_iff h, hdoc.format_eq]

theorem Day.Exists.month_lt {d : Day} (h : d.Exists) : d.month < 100 := by
  obtain ⟨-, ⟨-, hle⟩, -⟩ := h
  omega

theorem Day.daysIn_le (year : ℤ) (month : ℕ) : Day.daysIn year month ≤ 31 := by
  unfold Day.daysIn
  split
  · split <;> omega
  all_goals omega

theorem Day.Exists.day_lt {d : Day} (h : d.Exists) : d.day < 100 := by
  obtain ⟨-, -, -, hle⟩ := h
  have hmonth := Day.daysIn_le d.year d.month
  omega

theorem length_padded_two {n : ℕ} (h : n < 100) : (padded 2 n).length = 2 :=
  Nat.le_antisymm ((length_padded_le_iff (by omega) n).mpr h) (le_length_padded 2 n)

theorem isTwo_padded {n : ℕ} (h : n < 100) : IsTwo (padded 2 n) n :=
  ⟨[], padded 2 n, rfl, List.forall_mem_nil _, padded_digits 2 n, (length_padded_two h).le,
    (value_padded 2 n).symm⟩

theorem dash_notMem_padded (width n : ℕ) : '-' ∉ padded width n :=
  notMem_digits rfl (padded_digits width n).2

/-- The white space in front of digits is nothing if there is none. -/
theorem eq_nil_of_white {w ds : List Char} (hw : White w) (h : ∀ c ∈ w ++ ds, isWhite c = false) :
    w = [] := by
  cases w with
  | nil => rfl
  | cons c w =>
    have hc := h c List.mem_cons_self
    rw [hw c List.mem_cons_self] at hc
    cases hc

/-- Without white space, a month or a day is one or two digits. -/
theorem IsTwo.of_tight {t : List Char} {n : ℕ} (h : IsTwo t n)
    (ht : ∀ c ∈ t, isWhite c = false) : Digits t ∧ t.length ≤ 2 ∧ n = value t := by
  obtain ⟨w, ds, rfl, hw, hds, hlength, rfl⟩ := h
  obtain rfl := eq_nil_of_white hw ht
  exact ⟨hds, hlength, rfl⟩

theorem Digits.tight {ds : List Char} (h : Digits ds) : ∀ c ∈ ds, isWhite c = false :=
  fun c hc => isWhite_of_isDigit (h.2 c hc)

/-- Without white space and signs, a year is one to four digits. -/
theorem IsYear.of_tight {t : List Char} {y : ℤ} (h : IsYear t y)
    (ht : ∀ c ∈ t, isWhite c = false) (hplus : '+' ∉ t) (hminus : '-' ∉ t) :
    Digits t ∧ t.length ≤ 4 ∧ y = value t := by
  cases h with
  | plain hw hds hlength =>
    obtain rfl := eq_nil_of_white hw ht
    exact ⟨hds, hlength, rfl⟩
  | plus => exact absurd (List.mem_append_right _ List.mem_cons_self) hplus
  | minus => exact absurd (List.mem_append_right _ List.mem_cons_self) hminus

/-- **A compact date without white space** is digits, eight of them at most. -/
theorem DateText.compact_of_tight {s : List Char} {date : Day} (h : DateText s date .compact)
    (hs : ∀ c ∈ s, isWhite c = false) :
    ∃ y m d, s = y ++ (m ++ d) ∧ (Digits y ∧ y.length ≤ 4 ∧ date.year = value y) ∧
      (Digits m ∧ m.length ≤ 2 ∧ date.month = value m) ∧
      Digits d ∧ d.length ≤ 2 ∧ date.day = value d := by
  cases h with
  | @compact y m d _ hy hm hd _ hsign =>
    have hty : ∀ c ∈ y, isWhite c = false := fun c hc => hs c (List.mem_append_left _ hc)
    have htm : ∀ c ∈ m, isWhite c = false :=
      fun c hc => hs c (List.mem_append_right y (List.mem_append_left d hc))
    have htd : ∀ c ∈ d, isWhite c = false :=
      fun c hc => hs c (List.mem_append_right y (List.mem_append_right m hc))
    -- a sign would need white space behind its digits
    have hnone : ¬('+' ∈ y ∨ '-' ∈ y) := by
      intro hmem
      obtain ⟨c, hc, hwhite⟩ := hsign hmem
      rw [htm c hc] at hwhite
      cases hwhite
    exact ⟨y, m, d, rfl, hy.of_tight hty (fun h => hnone (Or.inl h)) (fun h => hnone (Or.inr h)),
      hm.of_tight htm, hd.of_tight htd⟩

/-- What stands behind the last dash of a date is short, if it has no white space. -/
theorem DateText.length_last {x t : List Char} {date : Day} {format : DateFormat}
    (h : DateText (x ++ '-' :: t) date format) (hdash : '-' ∉ t)
    (ht : ∀ c ∈ t, isWhite c = false) : t.length ≤ 2 := by
  generalize hs : x ++ '-' :: t = s at h
  cases h with
  | full hy hm hd =>
    rw [← List.cons_append, ← List.append_assoc] at hs
    obtain ⟨-, rfl⟩ := Text.last_inj hdash hd.dash_notMem hs
    exact (hd.of_tight ht).2.1
  | @compact y m d _ hy hm hd _ hsign =>
    -- the dash is the sign of the year, and white space follows in the month
    have hmem : '-' ∈ y := by
      have hdash' : '-' ∈ y ++ (m ++ d) := by
        rw [← hs]
        exact List.mem_append_right x List.mem_cons_self
      simpa [hm.dash_notMem, hd.dash_notMem] using hdash'
    obtain ⟨u, v, rfl⟩ := List.append_of_mem hmem
    obtain ⟨-, hv, -⟩ := hy.of_dash
    have hrest : '-' ∉ v ++ (m ++ d) := by
      have hdigits : '-' ∉ v := notMem_digits rfl hv.2
      simp [hdigits, hm.dash_notMem, hd.dash_notMem]
    rw [List.append_assoc, List.cons_append] at hs
    obtain ⟨-, rfl⟩ := Text.last_inj hdash hrest hs
    obtain ⟨c, hc, hwhite⟩ := hsign (Or.inr hmem)
    rw [ht c (List.mem_append_right v (List.mem_append_left d hc))] at hwhite
    cases hwhite
  | monthDay hm hd =>
    obtain ⟨-, rfl⟩ := Text.last_inj hdash hd.dash_notMem hs
    exact (hd.of_tight ht).2.1

/-! ### The ends of what is written -/

theorem writeYear_cases (y : ℤ) :
    (0 ≤ y ∧ y ≤ 9999 ∧ Day.writeYear y = padded 4 y.natAbs) ∨
      (9999 < y ∧ Day.writeYear y = '+' :: padded 4 y.natAbs) ∨
      (y < 0 ∧ Day.writeYear y = '-' :: padded 4 y.natAbs) := by
  unfold Day.writeYear
  split
  · next hneg => exact Or.inr (Or.inr ⟨hneg, rfl⟩)
  split
  · next hmany => exact Or.inr (Or.inl ⟨hmany, rfl⟩)
  · exact Or.inl ⟨by omega, by omega, rfl⟩

/-- A year of four digits is written without a sign. -/
theorem writeYear_natCast {n : ℕ} (h : (padded 4 n).length ≤ 4) :
    Day.writeYear (n : ℤ) = padded 4 n := by
  have hn := (length_padded_le_iff (by omega) n).mp h
  unfold Day.writeYear
  rw [if_neg (by omega), if_neg (by omega), Int.natAbs_natCast]

/-- **The pieces of a full date** are what stands between its last two dashes. -/
theorem DateText.pieces {y m d : List Char} {date : Day} {format : DateFormat}
    (h : DateText (y ++ '-' :: (m ++ '-' :: d)) date format) (hm : '-' ∉ m) (hd : '-' ∉ d) :
    format = .yearMonthDay ∧ IsYear y date.year ∧ IsTwo m date.month ∧ IsTwo d date.day ∧
      date.Exists := by
  obtain rfl := h.full_of_count (by
    rw [List.count_append, List.count_cons_self, List.count_append, List.count_cons_self]
    omega)
  generalize hs : y ++ '-' :: (m ++ '-' :: d) = s at h
  cases h with
  | full hy' hm' hd' hdate =>
    rw [← List.cons_append, ← List.append_assoc, ← List.cons_append, ← List.append_assoc] at hs
    obtain ⟨hfront, rfl⟩ := Text.last_inj hd hd'.dash_notMem hs
    obtain ⟨rfl, rfl⟩ := Text.last_inj hm hm'.dash_notMem hfront
    exact ⟨rfl, hy', hm', hd', hdate⟩

/-- A padded month or day is read as it is. -/
theorem IsTwo.eq_of_padded {n k : ℕ} (h : IsTwo (padded 2 n) k) : k = n := by
  rw [(h.of_tight (padded_digits 2 n).tight).2.2, value_padded]

theorem DateText.write_of_full {n m d : ℕ} {date : Day} {format : DateFormat}
    (h : DateText (padded 4 n ++ '-' :: (padded 2 m ++ '-' :: padded 2 d)) date format) :
    date.write format = padded 4 n ++ '-' :: (padded 2 m ++ '-' :: padded 2 d) := by
  obtain ⟨rfl, hy, hm, hd, -⟩ := h.pieces (dash_notMem_padded 2 m) (dash_notMem_padded 2 d)
  obtain ⟨-, hlength, hyear⟩ := hy.of_tight (padded_digits 4 n).tight
    (notMem_digits rfl (padded_digits 4 n).2) (dash_notMem_padded 4 n)
  rw [value_padded] at hyear
  show Day.writeYear date.year ++ '-' :: (padded 2 date.month ++ '-' :: padded 2 date.day) = _
  rw [hyear, hm.eq_of_padded, hd.eq_of_padded, writeYear_natCast hlength]

theorem DateText.write_of_monthDay {m d : ℕ} {date : Day} {format : DateFormat}
    (h : DateText (padded 2 m ++ '-' :: padded 2 d) date format) :
    date.write format = padded 2 m ++ '-' :: padded 2 d := by
  generalize hs : padded 2 m ++ '-' :: padded 2 d = s at h
  have hmem : '-' ∈ s := by
    rw [← hs]
    exact List.mem_append_right _ List.mem_cons_self
  cases hformat : format with
  | yearMonthDay =>
    subst hformat
    cases h with
    | full hy hm hd =>
      -- there is one dash only
      rw [← List.cons_append, ← List.append_assoc] at hs
      obtain ⟨hfront, -⟩ := Text.last_inj (dash_notMem_padded 2 d) hd.dash_notMem hs
      refine absurd ?_ (dash_notMem_padded 2 m)
      rw [hfront]
      exact List.mem_append_right _ List.mem_cons_self
  | compact =>
    subst hformat
    have htight : ∀ c ∈ s, isWhite c = false := by
      rw [← hs]
      intro c hc
      obtain hc | hc := List.mem_append.mp hc
      · exact (padded_digits 2 m).tight c hc
      · obtain rfl | hc := List.mem_cons.mp hc
        · rfl
        · exact (padded_digits 2 d).tight c hc
    obtain ⟨y', m', d', rfl, ⟨hy, -⟩, ⟨hm, -⟩, hd, -⟩ := h.compact_of_tight htight
    have hnot : '-' ∉ y' ++ (m' ++ d') := by
      simp [notMem_digits (c := '-') rfl hy.2, notMem_digits (c := '-') rfl hm.2,
        notMem_digits (c := '-') rfl hd.2]
    exact absurd hmem hnot
  | monthDay =>
    subst hformat
    cases h with
    | monthDay hm hd =>
      obtain ⟨rfl, rfl⟩ := Text.last_inj (dash_notMem_padded 2 d) hd.dash_notMem hs
      show padded 2 date.month ++ '-' :: padded 2 date.day = _
      rw [hm.eq_of_padded, hd.eq_of_padded]

/-- Digits are read as a compact date. -/
theorem DateText.compact_of_digits {s : List Char} {date : Day} {format : DateFormat}
    (h : DateText s date format) (hs : '-' ∉ s) : format = .compact := by
  cases h with
  | full => exact absurd (List.mem_append_right _ List.mem_cons_self) hs
  | compact => rfl
  | monthDay => exact absurd (List.mem_append_right _ List.mem_cons_self) hs

/-- The digits of a compact date are many. -/
theorem length_compact (n m d : ℕ) :
    2 < (padded 4 n ++ (padded 2 m ++ padded 2 d)).length := by
  have hfour := le_length_padded 4 n
  rw [List.length_append]
  omega

theorem tight_compact (n m d : ℕ) :
    ∀ c ∈ padded 4 n ++ (padded 2 m ++ padded 2 d), isWhite c = false := by
  intro c hc
  obtain hc | hc := List.mem_append.mp hc
  · exact (padded_digits 4 n).tight c hc
  · exact (List.mem_append.mp hc).elim ((padded_digits 2 m).tight c) ((padded_digits 2 d).tight c)

theorem dash_notMem_compact (n m d : ℕ) : '-' ∉ padded 4 n ++ (padded 2 m ++ padded 2 d) := by
  simp [dash_notMem_padded]

theorem DateText.write_of_compact {n m d : ℕ} {date : Day} {format : DateFormat}
    (hm : m < 100) (hd : d < 100)
    (h : DateText (padded 4 n ++ (padded 2 m ++ padded 2 d)) date format) :
    date.write format = padded 4 n ++ (padded 2 m ++ padded 2 d) := by
  obtain rfl := h.compact_of_digits (dash_notMem_compact n m d)
  obtain ⟨y', m', d', hs, ⟨-, hly, hy⟩, ⟨-, hlm, hm'⟩, -, hld, hd'⟩ :=
    h.compact_of_tight (tight_compact n m d)
  -- there are eight digits, as many as can be read
  have hlength := congrArg List.length hs
  have hfour := le_length_padded 4 n
  rw [List.length_append, List.length_append, List.length_append, List.length_append,
    length_padded_two hm, length_padded_two hd] at hlength
  obtain ⟨rfl, hrest⟩ := List.append_inj hs (by omega)
  obtain ⟨rfl, rfl⟩ := List.append_inj hrest (by rw [length_padded_two hm]; omega)
  rw [value_padded] at hy hm' hd'
  show Day.writeYear date.year ++ (padded 2 date.month ++ padded 2 date.day) = _
  rw [hy, hm', hd', writeYear_natCast hly]

theorem DateText.write_of_isEnd_monthDay {m d : ℕ} {c : List Char} {date : Day}
    {format : DateFormat} (hd : d < 100) (h : DateText c date format)
    (hend : Text.IsEnd '-' c (padded 2 m ++ '-' :: padded 2 d)) : date.write format = c := by
  obtain rfl | hend := (Text.isEnd_append_iff (dash_notMem_padded 2 m)).mp hend
  · exact h.write_of_monthDay
  · -- a day alone is no date
    obtain rfl := (Text.isEnd_iff_of_notMem (dash_notMem_padded 2 d)).mp hend
    have hlength := h.three_le_length
    rw [length_padded_two hd] at hlength
    omega

theorem DateText.write_of_isEnd_full {n m d : ℕ} {c : List Char} {date : Day}
    {format : DateFormat} (hd : d < 100) (h : DateText c date format)
    (hend : Text.IsEnd '-' c (padded 4 n ++ '-' :: (padded 2 m ++ '-' :: padded 2 d))) :
    date.write format = c := by
  obtain rfl | hend := (Text.isEnd_append_iff (dash_notMem_padded 4 n)).mp hend
  · exact h.write_of_full
  · exact h.write_of_isEnd_monthDay hd hend

theorem isYear_writeYear (y : ℤ) : IsYear (Day.writeYear y) y := by
  obtain ⟨hnonneg, hle, hw⟩ | ⟨hlarge, hw⟩ | ⟨hneg, hw⟩ := writeYear_cases y
  · have hlength : (padded 4 y.natAbs).length ≤ 4 :=
      (length_padded_le_iff (by omega) y.natAbs).mpr (by omega)
    have h := IsYear.plain (List.forall_mem_nil _) (padded_digits 4 y.natAbs) hlength
    rw [value_padded, Int.natAbs_of_nonneg hnonneg] at h
    rw [hw]
    exact h
  · have h := IsYear.plus (List.forall_mem_nil _) (padded_digits 4 y.natAbs)
    rw [value_padded, Int.natAbs_of_nonneg (by omega)] at h
    rw [hw]
    exact h
  · have h := IsYear.minus (List.forall_mem_nil _) (padded_digits 4 y.natAbs)
    rw [value_padded, Int.ofNat_natAbs_of_nonpos hneg.le, neg_neg] at h
    rw [hw]
    exact h

/-- A text is the text of one year. -/
theorem IsYear.unique {t : List Char} {y y' : ℤ} (h : IsYear t y) (h' : IsYear t y') : y = y' := by
  have hread := (readYear_append h noDigit_nil).symm.trans (readYear_append h' noDigit_nil)
  exact (Prod.mk.inj (Option.some.inj hread)).1

/-- A full date that is written is read as the day it is. -/
theorem DateText.write_of_write_full {d date : Day} {format : DateFormat}
    (h : DateText (d.write .yearMonthDay) date format) :
    date.write format = d.write .yearMonthDay := by
  obtain ⟨rfl, hy, hm, hd, -⟩ :=
    h.pieces (dash_notMem_padded 2 d.month) (dash_notMem_padded 2 d.day)
  show Day.writeYear date.year ++ '-' :: (padded 2 date.month ++ '-' :: padded 2 date.day) =
    Day.writeYear d.year ++ '-' :: (padded 2 d.month ++ '-' :: padded 2 d.day)
  rw [hy.unique (isYear_writeYear d.year), hm.eq_of_padded, hd.eq_of_padded]

/-- Digits behind a plus are no date. -/
theorem DateText.not_plus_compact {n m d : ℕ} {date : Day} {format : DateFormat}
    (h : DateText ('+' :: (padded 4 n ++ (padded 2 m ++ padded 2 d))) date format) : False := by
  have hdash : '-' ∉ '+' :: (padded 4 n ++ (padded 2 m ++ padded 2 d)) := by
    simp [dash_notMem_padded]
  obtain rfl := h.compact_of_digits hdash
  have htight : ∀ c ∈ '+' :: (padded 4 n ++ (padded 2 m ++ padded 2 d)), isWhite c = false := by
    intro c hc
    obtain rfl | hc := List.mem_cons.mp hc
    · rfl
    · exact tight_compact n m d c hc
  obtain ⟨y', m', d', hs, ⟨hy, -⟩, -⟩ := h.compact_of_tight htight
  -- the year starts with a digit, not with a sign
  obtain ⟨c, y', rfl⟩ := List.exists_cons_of_ne_nil hy.1
  have hc := hy.2 c List.mem_cons_self
  rw [← (List.cons.inj hs).1] at hc
  cases hc

/-- **The ends of a date that is written** are written back, those of them that are dates. -/
theorem DateText.write_of_isEnd {d date : Day} {written format : DateFormat} {c : List Char}
    (hd : d.Exists) (h : DateText c date format) (hend : Text.IsEnd '-' c (d.write written)) :
    date.write format = c := by
  cases written with
  | yearMonthDay =>
    -- by the sign of the year: none, a plus or a dash
    obtain ⟨-, -, hw⟩ | ⟨-, hw⟩ | ⟨-, hw⟩ := writeYear_cases d.year
    · change Text.IsEnd '-' c (Day.writeYear d.year ++ _) at hend
      rw [hw] at hend
      exact h.write_of_isEnd_full hd.day_lt hend
    · have hdash : '-' ∉ Day.writeYear d.year := by
        rw [hw]
        simp [dash_notMem_padded]
      obtain rfl | hend := (Text.isEnd_append_iff hdash).mp hend
      · exact h.write_of_write_full
      · exact h.write_of_isEnd_monthDay hd.day_lt hend
    · -- the sign is a dash, and its year an end of its own
      have hfront : d.write .yearMonthDay = [] ++ '-' :: (padded 4 d.year.natAbs ++
          '-' :: (padded 2 d.month ++ '-' :: padded 2 d.day)) := by
        show Day.writeYear d.year ++ _ = _
        rw [hw]
        rfl
      rw [hfront] at hend
      obtain hc | hend := (Text.isEnd_append_iff List.not_mem_nil).mp hend
      · rw [← hfront] at hc
        subst hc
        exact h.write_of_write_full
      · exact h.write_of_isEnd_full hd.day_lt hend
  | compact =>
    change Text.IsEnd '-' c (Day.writeYear d.year ++ _) at hend
    obtain ⟨-, -, hw⟩ | ⟨-, hw⟩ | ⟨-, hw⟩ := writeYear_cases d.year
    · rw [hw] at hend
      obtain rfl := (Text.isEnd_iff_of_notMem (dash_notMem_compact _ _ _)).mp hend
      exact h.write_of_compact hd.month_lt hd.day_lt
    · rw [hw] at hend
      obtain rfl := (Text.isEnd_iff_of_notMem (by simp [dash_notMem_padded])).mp hend
      exact h.not_plus_compact.elim
    · rw [hw] at hend
      obtain hc | hend := (Text.isEnd_append_iff List.not_mem_nil (a := [])).mp hend
      · -- with its sign the date is not read
        subst hc
        have hlength := h.length_last (dash_notMem_compact _ _ _) (tight_compact _ _ _)
        exact absurd hlength (Nat.not_le.mpr (length_compact _ _ _))
      · obtain rfl := (Text.isEnd_iff_of_notMem (dash_notMem_compact _ _ _)).mp hend
        exact h.write_of_compact hd.month_lt hd.day_lt
  | monthDay => exact h.write_of_isEnd_monthDay hd.day_lt hend

/-- A date that is written ends in a digit. -/
theorem write_last (d : Day) (format : DateFormat) :
    ∃ e, e.isDigit = true ∧ [e] <:+ d.write format := by
  have hday : padded 2 d.day <:+ d.write format := by
    cases format with
    | yearMonthDay => exact ⟨Day.writeYear d.year ++ '-' :: (padded 2 d.month ++ ['-']), by
        simp [Day.write]⟩
    | compact => exact ⟨Day.writeYear d.year ++ padded 2 d.month, by simp [Day.write]⟩
    | monthDay => exact ⟨padded 2 d.month ++ ['-'], by simp [Day.write]⟩
  obtain ⟨hne, hdigits⟩ := padded_digits 2 d.day
  refine ⟨(padded 2 d.day).getLast hne, hdigits _ (List.getLast_mem hne), ?_⟩
  exact List.IsSuffix.trans ⟨_, List.dropLast_append_getLast hne⟩ hday

/-- Behind the last dash of a compact date stand digits, and a plus perhaps. -/
theorem exists_last_compact (u : List Char) (d : Day) :
    ∃ x t, u ++ '-' :: d.write .compact = x ++ '-' :: t ∧ '-' ∉ t ∧
      (∀ c ∈ t, isWhite c = false) ∧ 2 < t.length := by
  obtain ⟨-, -, hw⟩ | ⟨-, hw⟩ | ⟨-, hw⟩ := writeYear_cases d.year
  · exact ⟨u, _, congrArg (fun y => u ++ '-' :: (y ++ _)) hw, dash_notMem_compact _ _ _,
      tight_compact _ _ _, length_compact _ _ _⟩
  · refine ⟨u, _, congrArg (fun y => u ++ '-' :: (y ++ _)) hw, ?_, ?_, ?_⟩
    · simp [dash_notMem_padded]
    · intro c hc
      obtain rfl | hc := List.mem_cons.mp hc
      · rfl
      · exact tight_compact _ _ _ c hc
    · exact Nat.lt_succ_of_lt (length_compact _ _ _)
  · -- the sign is the last dash
    refine ⟨u ++ ['-'], _, ?_, dash_notMem_compact _ _ _, tight_compact _ _ _,
      length_compact d.year.natAbs d.month d.day⟩
    show u ++ '-' :: (Day.writeYear d.year ++ _) = _
    rw [hw, List.append_assoc]
    rfl

/-- **What can stand in front of a date that is written**, for a longer date to be read: white
space, which makes the dash a sign, or a year. -/
theorem DateText.before {d date : Day} {written format : DateFormat} {u : List Char}
    (h : DateText (u ++ '-' :: d.write written) date format) :
    (written = .yearMonthDay ∧ White u ∧ (0 ≤ d.year ∧ d.year ≤ 9999) ∧
        format = .yearMonthDay ∧ date = { d with year := -d.year }) ∨
      (written = .monthDay ∧ IsYear u date.year ∧ date.Exists ∧ date.month = d.month ∧
        date.day = d.day) := by
  cases written with
  | yearMonthDay =>
    -- with the dash in front there are three, so what is read is a full date
    left
    have hs : u ++ '-' :: d.write .yearMonthDay = (u ++ '-' :: Day.writeYear d.year) ++
        '-' :: (padded 2 d.month ++ '-' :: padded 2 d.day) := by
      rw [List.append_assoc, List.cons_append]
      rfl
    rw [hs] at h
    obtain ⟨hformat, hy, hm, hd, -⟩ :=
      h.pieces (dash_notMem_padded 2 d.month) (dash_notMem_padded 2 d.day)
    obtain ⟨hwhite, hdigits, hyear⟩ := hy.of_dash
    refine ⟨rfl, hwhite, ?_⟩
    obtain ⟨hnonneg, hle, hw⟩ | ⟨-, hw⟩ | ⟨-, hw⟩ := writeYear_cases d.year
    · rw [hw, value_padded, Int.natAbs_of_nonneg hnonneg] at hyear
      obtain ⟨year, month, day⟩ := date
      exact ⟨⟨hnonneg, hle⟩, hformat,
        congr (congr (congrArg Day.mk hyear) hm.eq_of_padded) hd.eq_of_padded⟩
    · -- behind the sign only digits can stand
      rw [hw] at hdigits
      exact absurd (hdigits.2 '+' List.mem_cons_self) (by decide)
    · rw [hw] at hdigits
      exact absurd (hdigits.2 '-' List.mem_cons_self) (by decide)
  | compact =>
    -- a date that goes on behind a dash has two digits there, not eight
    exfalso
    obtain ⟨x, t, hs, hdash, htight, hlong⟩ := exists_last_compact u d
    rw [hs] at h
    exact absurd (h.length_last hdash htight) (by omega)
  | monthDay =>
    -- with the dash in front there are two
    right
    obtain ⟨-, hy, hm, hd, hdate⟩ :=
      h.pieces (dash_notMem_padded 2 d.month) (dash_notMem_padded 2 d.day)
    exact ⟨rfl, hy, hdate, hm.eq_of_padded, hd.eq_of_padded⟩

end AiGateway
