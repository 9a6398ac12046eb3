import AiGateway.Framework.Splits
import AiGateway.Types.Written
import Mathlib.Data.List.TakeWhile

/-!
# The texts of dates

The library of dates as it is documented. It reads the three numbers of a date leniently:
white space is passed over before each of them, they need not be padded, and a year may have
a sign, with which it can have any number of digits. It writes one text for every date.

`DateText` says which texts are read as which days. It is what the proofs about model ids
need to know of the library: `dateText_of_parseDate` for every text that is read, and
`parseDate_full` for the full dates.
-/

namespace AiGateway

open Day (readNumber skip padded)

variable {Date : Type}

/-- **The library of dates does what it is documented to do.** A date of it is a day. -/
structure Chrono.Documented (chrono : Chrono Date) (day : Date → Day) : Prop where
  parse_full : ∀ s, (chrono.parseFromStr s DateFormat.yearMonthDay.asStr).map day =
    Day.read ['-'] s
  parse_compact : ∀ s, (chrono.parseFromStr s DateFormat.compact.asStr).map day = Day.read [] s
  format_eq : ∀ date (format : DateFormat),
    chrono.format date format.asStr = (day date).write format

theorem gregorian_documented : gregorian.Documented id where
  parse_full s := by
    rw [Option.map_id]
    rfl
  parse_compact s := by
    rw [Option.map_id]
    rfl
  format_eq date format := by
    cases format with
    | yearMonthDay => rfl
    | compact => rfl
    | monthDay => rfl

/-! ### Digits -/

/-- A text of digits. -/
def Digits (s : List Char) : Prop := s ≠ [] ∧ ∀ c ∈ s, c.isDigit = true

/-- A text of white space. -/
def White (s : List Char) : Prop := ∀ c ∈ s, isWhite c = true

/-- A text that does not go on with a digit. -/
def NoDigit (s : List Char) : Prop := ∀ c ∈ s.head?, c.isDigit = false

/-- The value of digits. -/
def value (s : List Char) : ℕ := Nat.ofDigitChars 10 s 0

theorem toNat_of_isDigit {c : Char} (h : c.isDigit = true) : 48 ≤ c.toNat ∧ c.toNat ≤ 57 := by
  unfold Char.isDigit at h
  rw [Bool.and_eq_true, decide_eq_true_eq, decide_eq_true_eq] at h
  exact ⟨h.1, h.2⟩

/-- A digit is no white space. -/
theorem isWhite_of_isDigit {c : Char} (h : c.isDigit = true) : isWhite c = false := by
  have hrange := toNat_of_isDigit h
  simp only [isWhite, Bool.or_eq_false_iff, Bool.and_eq_false_iff, decide_eq_false_iff_not,
    beq_eq_false_iff_ne]
  omega

/-- A character that is neither a digit nor white space is in none of their texts. -/
theorem notMem_digits {c : Char} (hc : c.isDigit = false) {s : List Char}
    (h : ∀ c ∈ s, c.isDigit = true) : c ∉ s := by
  intro hmem
  rw [h c hmem] at hc
  cases hc

theorem notMem_white {c : Char} (hc : isWhite c = false) {s : List Char} (h : White s) :
    c ∉ s := by
  intro hmem
  rw [h c hmem] at hc
  cases hc

theorem padded_digits (width n : ℕ) : Digits (padded width n) := by
  constructor
  · exact fun h => Nat.toDigits_ne_nil (List.append_eq_nil_iff.mp h).2
  · intro c hc
    obtain hzero | hdigit := List.mem_append.mp hc
    · rw [List.eq_of_mem_replicate hzero]
      rfl
    · exact Nat.isDigit_of_mem_toDigits (by omega) (by omega) hdigit

@[simp] theorem value_padded (width n : ℕ) : value (padded width n) = n := by
  unfold value padded
  rw [Nat.ofDigitChars_append, Nat.ofDigitChars_replicate_zero, Nat.mul_zero,
    Nat.ofDigitChars_ten_toDigits]

theorem le_length_padded (width n : ℕ) : width ≤ (padded width n).length := by
  unfold padded
  rw [List.length_append, List.length_replicate]
  omega

/-- A number is as long as it is padded to, unless it has more digits. -/
theorem length_padded_le_iff {width : ℕ} (hwidth : 0 < width) (n : ℕ) :
    (padded width n).length ≤ width ↔ n < 10 ^ width := by
  rw [← Nat.length_toDigits_le_iff (b := 10) (by omega) hwidth]
  unfold padded
  rw [List.length_append, List.length_replicate]
  omega

/-! ### Numbers that are read -/

/-- What stands in front of a text, as far as permitted and of one kind. -/
theorem takeWhile_take_spec (p : Char → Bool) (n : ℕ) (s : List Char) :
    s = (s.take n).takeWhile p ++ s.drop ((s.take n).takeWhile p).length ∧
      ((s.take n).takeWhile p).length ≤ n ∧
      (((s.take n).takeWhile p).length = n ∨
        ∀ c ∈ (s.drop ((s.take n).takeWhile p).length).head?, p c = false) := by
  -- by induction on the text: it ends, the permission ends, or the kind does
  induction s generalizing n with
  | nil =>
    rw [List.take_nil]
    exact ⟨rfl, Nat.zero_le n, Or.inr fun c hc => by cases hc⟩
  | cons d s ih =>
    cases n with
    | zero => exact ⟨rfl, Nat.le_refl 0, Or.inl rfl⟩
    | succ n =>
      rw [List.take_succ_cons]
      by_cases hd : p d = true
      · rw [List.takeWhile_cons_of_pos hd, List.length_cons, List.drop_succ_cons,
          List.cons_append, ← (ih n).1]
        exact ⟨rfl, Nat.succ_le_succ (ih n).2.1, (ih n).2.2.imp_left (congrArg (· + 1))⟩
      · rw [List.takeWhile_cons_of_neg hd]
        refine ⟨rfl, Nat.zero_le _, Or.inr fun c hc => ?_⟩
        obtain rfl : d = c := Option.some.inj hc
        exact Bool.eq_false_iff.mpr hd

/-- **A number that is read** is the digits in front of the text. -/
theorem digits_of_readNumber {most n : ℕ} {s rest : List Char}
    (h : readNumber most s = some (n, rest)) :
    ∃ ds, s = ds ++ rest ∧ Digits ds ∧ ds.length ≤ most ∧ n = value ds ∧
      (ds.length = most ∨ NoDigit rest) := by
  unfold readNumber at h
  dsimp only at h
  split at h
  · cases h
  · next hne =>
    obtain ⟨hn, rfl⟩ := Prod.mk.inj (Option.some.inj h)
    obtain ⟨hs, hlength, hmax⟩ := takeWhile_take_spec Char.isDigit most s
    exact ⟨_, hs, ⟨hne, fun c hc => List.mem_takeWhile_imp hc⟩, hlength, hn.symm, hmax⟩

/-- **Digits are read as a number** if no digit follows them. -/
theorem readNumber_append {most : ℕ} {ds rest : List Char} (hds : Digits ds)
    (hlength : ds.length ≤ most) (hrest : NoDigit rest) :
    readNumber most (ds ++ rest) = some (value ds, rest) := by
  have htake : ((ds ++ rest).take most).takeWhile Char.isDigit = ds := by
    rw [List.take_append, List.take_of_length_le hlength, List.takeWhile_append_of_pos hds.2]
    cases rest with
    | nil => rw [List.take_nil, List.takeWhile_nil, List.append_nil]
    | cons c rest =>
      have hc : ¬c.isDigit = true := by
        rw [hrest c rfl]
        simp
      cases most - ds.length with
      | zero => rw [List.take_zero, List.takeWhile_nil, List.append_nil]
      | succ k => rw [List.take_succ_cons, List.takeWhile_cons_of_neg hc, List.append_nil]
  unfold readNumber
  rw [htake]
  show (if ds = [] then none else some (value ds, (ds ++ rest).drop ds.length)) = _
  rw [if_neg hds.1, List.drop_left]

/-! ### The texts of the numbers -/

/-- The text of a month or of a day. -/
def IsTwo (t : List Char) (n : ℕ) : Prop :=
  ∃ w ds, t = w ++ ds ∧ White w ∧ Digits ds ∧ ds.length ≤ 2 ∧ n = value ds

/-- The text of a year. -/
inductive IsYear : List Char → ℤ → Prop
  | plain {w ds : List Char} (hw : White w) (hds : Digits ds) (hlength : ds.length ≤ 4) :
    IsYear (w ++ ds) (value ds)
  | plus {w ds : List Char} (hw : White w) (hds : Digits ds) : IsYear (w ++ '+' :: ds) (value ds)
  | minus {w ds : List Char} (hw : White w) (hds : Digits ds) :
    IsYear (w ++ '-' :: ds) (-(value ds : ℤ))

/-- White space is passed over as far as it goes. -/
theorem dropWhile_white {w t : List Char} (hw : White w) (ht : ∀ c ∈ t.head?, isWhite c = false) :
    (w ++ t).dropWhile isWhite = t := by
  rw [List.dropWhile_append_of_pos hw]
  cases t with
  | nil => rfl
  | cons c t =>
    rw [List.dropWhile_cons_of_neg]
    rw [ht c rfl]
    simp

theorem white_takeWhile (s : List Char) : White (s.takeWhile isWhite) :=
  fun _ hc => List.mem_takeWhile_imp hc

/-- What digits start with is no white space. -/
theorem Digits.head_append {ds : List Char} (h : Digits ds) (rest : List Char) :
    ∀ c ∈ (ds ++ rest).head?, isWhite c = false := by
  obtain ⟨d, ds', rfl⟩ := List.exists_cons_of_ne_nil h.1
  intro c hc
  obtain rfl : d = c := Option.some.inj hc
  exact isWhite_of_isDigit (h.2 d List.mem_cons_self)

theorem isTwo_of_readTwo {n : ℕ} {s rest : List Char} (h : Day.readTwo s = some (n, rest)) :
    ∃ t, s = t ++ rest ∧ IsTwo t n := by
  obtain ⟨ds, hs, hds, hlength, hn, -⟩ := digits_of_readNumber h
  refine ⟨s.takeWhile isWhite ++ ds, ?_, _, ds, rfl, white_takeWhile s, hds, hlength, hn⟩
  rw [List.append_assoc, ← hs, List.takeWhile_append_dropWhile]

theorem readTwo_append {n : ℕ} {t rest : List Char} (h : IsTwo t n) (hrest : NoDigit rest) :
    Day.readTwo (t ++ rest) = some (n, rest) := by
  obtain ⟨w, ds, rfl, hw, hds, hlength, rfl⟩ := h
  unfold Day.readTwo
  rw [List.append_assoc, dropWhile_white hw (hds.head_append rest),
    readNumber_append hds hlength hrest]

/-- Behind a sign the digits are read to their end. -/
theorem digits_of_readNumber_all {n : ℕ} {s rest : List Char}
    (h : readNumber s.length s = some (n, rest)) :
    ∃ ds, s = ds ++ rest ∧ Digits ds ∧ n = value ds ∧ NoDigit rest := by
  obtain ⟨ds, hs, hds, -, hn, hmax⟩ := digits_of_readNumber h
  refine ⟨ds, hs, hds, hn, hmax.elim (fun hlength => ?_) id⟩
  -- all there is was read
  have hrest : rest = [] := by
    have hsum := congrArg List.length hs
    rw [List.length_append, hlength] at hsum
    exact List.length_eq_zero_iff.mp (by omega)
  rw [hrest]
  intro c hc
  cases hc

/-- What is read behind a sign: digits, to their end. -/
theorem exists_of_sign {s s' rest : List Char} {sign : Char} {f : ℕ × List Char → ℤ × List Char}
    {y : ℤ} (hdrop : s.dropWhile isWhite = sign :: s')
    (h : (readNumber s'.length s').map f = some (y, rest)) (hf : ∀ p, (f p).2 = p.2) :
    ∃ ds, s = (s.takeWhile isWhite ++ sign :: ds) ++ rest ∧ Digits ds ∧
      y = (f (value ds, rest)).1 ∧ NoDigit rest := by
  obtain ⟨⟨n, rest'⟩, hp, hpair⟩ := Option.map_eq_some_iff.mp h
  obtain rfl : rest' = rest := (hf (n, rest')).symm.trans (congrArg Prod.snd hpair)
  obtain ⟨ds, rfl, hds, rfl, hrest⟩ := digits_of_readNumber_all hp
  refine ⟨ds, ?_, hds, (congrArg Prod.fst hpair).symm, hrest⟩
  rw [List.append_assoc, List.cons_append, ← hdrop, List.takeWhile_append_dropWhile]

/-- **A year that is read**: if it has a sign, no digit follows it. -/
theorem isYear_of_readYear {y : ℤ} {s rest : List Char} (h : Day.readYear s = some (y, rest)) :
    ∃ t, s = t ++ rest ∧ IsYear t y ∧ ('+' ∈ t ∨ '-' ∈ t → NoDigit rest) := by
  have hw := white_takeWhile s
  unfold Day.readYear at h
  split at h
  · next s' hdrop =>
    obtain ⟨ds, hs, hds, rfl, hrest⟩ := exists_of_sign hdrop h fun _ => rfl
    exact ⟨_, hs, IsYear.minus hw hds, fun _ => hrest⟩
  · next s' hdrop =>
    obtain ⟨ds, hs, hds, rfl, hrest⟩ := exists_of_sign hdrop h fun _ => rfl
    exact ⟨_, hs, IsYear.plus hw hds, fun _ => hrest⟩
  · obtain ⟨⟨n, rest'⟩, hp, hpair⟩ := Option.map_eq_some_iff.mp h
    cases hpair
    -- at most four digits, which others may follow
    obtain ⟨ds, hds', hds, hlength, rfl, -⟩ := digits_of_readNumber hp
    refine ⟨s.takeWhile isWhite ++ ds, ?_, IsYear.plain hw hds hlength, fun hsign => ?_⟩
    · rw [List.append_assoc, ← hds', List.takeWhile_append_dropWhile]
    · -- without a sign there is none in the text
      exfalso
      obtain hplus | hminus := hsign
      · exact (List.mem_append.mp hplus).elim (notMem_white (by decide) hw)
          (notMem_digits (by decide) hds.2)
      · exact (List.mem_append.mp hminus).elim (notMem_white (by decide) hw)
          (notMem_digits (by decide) hds.2)

/-- White space in front of a sign is passed over. -/
theorem dropWhile_sign {w ds rest : List Char} {sign : Char} (hw : White w)
    (hsign : isWhite sign = false) :
    ((w ++ sign :: ds) ++ rest).dropWhile isWhite = sign :: (ds ++ rest) := by
  rw [List.append_assoc, List.cons_append, dropWhile_white hw]
  intro c hc
  obtain rfl : sign = c := Option.some.inj hc
  exact hsign

theorem readYear_append {y : ℤ} {t rest : List Char} (h : IsYear t y) (hrest : NoDigit rest) :
    Day.readYear (t ++ rest) = some (y, rest) := by
  unfold Day.readYear
  cases h with
  | @plain w ds hw hds hlength =>
    rw [List.append_assoc, dropWhile_white hw (hds.head_append rest)]
    -- the digits start with neither sign
    obtain ⟨d, ds', rfl⟩ := List.exists_cons_of_ne_nil hds.1
    have hd : d.isDigit = true := hds.2 d List.mem_cons_self
    have hnumber := readNumber_append hds hlength hrest
    rw [List.cons_append] at hnumber ⊢
    split
    · next heq =>
      obtain rfl := (List.cons.inj heq).1
      cases hd
    · next heq =>
      obtain rfl := (List.cons.inj heq).1
      cases hd
    · rw [hnumber]
      rfl
  | plus hw hds =>
    rw [dropWhile_sign hw rfl]
    show (readNumber (_ ++ rest).length (_ ++ rest)).map _ = _
    rw [readNumber_append hds (by simp) hrest]
    rfl
  | minus hw hds =>
    rw [dropWhile_sign hw rfl]
    show (readNumber (_ ++ rest).length (_ ++ rest)).map _ = _
    rw [readNumber_append hds (by simp) hrest]
    rfl

/-! ### The texts of dates -/

/-- The texts that are read as a day, in each of the formats. In the compact one, white space
ends the digits of a year with a sign. -/
inductive DateText : List Char → Day → DateFormat → Prop
  | full {y m d : List Char} {date : Day} (hy : IsYear y date.year) (hm : IsTwo m date.month)
    (hd : IsTwo d date.day) (hdate : date.Exists) :
    DateText (y ++ '-' :: (m ++ '-' :: d)) date .yearMonthDay
  | compact {y m d : List Char} {date : Day} (hy : IsYear y date.year) (hm : IsTwo m date.month)
    (hd : IsTwo d date.day) (hdate : date.Exists)
    (hsign : '+' ∈ y ∨ '-' ∈ y → ∃ c ∈ m, isWhite c = true) :
    DateText (y ++ (m ++ d)) date .compact
  | monthDay {m d : List Char} {date : Day} (hm : IsTwo m date.month) (hd : IsTwo d date.day)
    (hdate : date.Exists) : DateText (m ++ '-' :: d) date .monthDay

theorem skip_dash_iff {s t : List Char} : skip ['-'] s = some t ↔ s = '-' :: t := by
  cases s with
  | nil => exact iff_of_false (fun h => by cases h) (fun h => by cases h)
  | cons c s =>
    show (if '-' = c then skip [] s else none) = some t ↔ c :: s = '-' :: t
    split
    · next hc =>
      subst hc
      show some s = some t ↔ _
      rw [Option.some.injEq, List.cons.injEq, and_iff_right rfl]
    · next hc => exact iff_of_false (fun h => by cases h) (fun h => hc (List.cons.inj h).1.symm)

/-- The numbers of a date are read one after the other. -/
theorem Day.read_eq_some_iff {separator s : List Char} {date : Day} :
    Day.read separator s = some date ↔ ∃ s₁ s₂ s₃ s₄, Day.readYear s = some (date.year, s₁) ∧
      skip separator s₁ = some s₂ ∧ Day.readTwo s₂ = some (date.month, s₃) ∧
      skip separator s₃ = some s₄ ∧ Day.readTwo s₄ = some (date.day, []) ∧ date.Exists := by
  unfold Day.read
  constructor
  · intro h
    obtain ⟨⟨year, s₁⟩, hyear, h⟩ := Option.bind_eq_some_iff.mp h
    obtain ⟨s₂, hskip, h⟩ := Option.bind_eq_some_iff.mp h
    obtain ⟨⟨month, s₃⟩, hmonth, h⟩ := Option.bind_eq_some_iff.mp h
    obtain ⟨s₄, hskip', h⟩ := Option.bind_eq_some_iff.mp h
    obtain ⟨⟨day, s₅⟩, hday, h⟩ := Option.bind_eq_some_iff.mp h
    dsimp only at h
    -- the text ends here, and the day exists
    split at h
    · next hend =>
      obtain ⟨rfl, hexists⟩ := hend
      obtain rfl := Option.some.inj h
      exact ⟨s₁, s₂, s₃, s₄, hyear, hskip, hmonth, hskip', hday, hexists⟩
    · cases h
  · rintro ⟨s₁, s₂, s₃, s₄, hyear, hskip, hmonth, hskip', hday, hexists⟩
    simp only [hyear, hskip, hmonth, hskip', hday, Option.bind_eq_bind, Option.bind_some]
    exact if_pos ⟨trivial, hexists⟩

theorem noDigit_dash (s : List Char) : NoDigit ('-' :: s) := by
  intro c hc
  obtain rfl : '-' = c := Option.some.inj hc
  rfl

theorem noDigit_nil : NoDigit [] := fun c hc => by cases hc

/-- **The full dates** are the numbers with a dash between them. -/
theorem read_full_iff {s : List Char} {date : Day} :
    Day.read ['-'] s = some date ↔ ∃ y m d, s = y ++ '-' :: (m ++ '-' :: d) ∧
      IsYear y date.year ∧ IsTwo m date.month ∧ IsTwo d date.day ∧ date.Exists := by
  rw [Day.read_eq_some_iff]
  constructor
  · rintro ⟨s₁, s₂, s₃, s₄, hyear, hskip, hmonth, hskip', hday, hexists⟩
    obtain rfl := skip_dash_iff.mp hskip
    obtain rfl := skip_dash_iff.mp hskip'
    obtain ⟨y, rfl, hy, -⟩ := isYear_of_readYear hyear
    obtain ⟨m, rfl, hm⟩ := isTwo_of_readTwo hmonth
    obtain ⟨d, rfl, hd⟩ := isTwo_of_readTwo hday
    rw [List.append_nil]
    exact ⟨y, m, d, rfl, hy, hm, hd, hexists⟩
  · rintro ⟨y, m, d, rfl, hy, hm, hd, hexists⟩
    refine ⟨_, m ++ '-' :: d, _, d, readYear_append hy (noDigit_dash _), skip_dash_iff.mpr rfl,
      readTwo_append hm (noDigit_dash d), skip_dash_iff.mpr rfl, ?_, hexists⟩
    have hlast := readTwo_append hd noDigit_nil
    rwa [List.append_nil] at hlast

/-- The compact dates that are read. -/
theorem dateText_of_read_compact {s : List Char} {date : Day} (h : Day.read [] s = some date) :
    DateText s date .compact := by
  obtain ⟨s₁, s₂, s₃, s₄, hyear, hskip, hmonth, hskip', hday, hexists⟩ :=
    Day.read_eq_some_iff.mp h
  obtain rfl : s₁ = s₂ := Option.some.inj hskip
  obtain rfl : s₃ = s₄ := Option.some.inj hskip'
  obtain ⟨y, rfl, hy, hsign⟩ := isYear_of_readYear hyear
  obtain ⟨m, rfl, hm⟩ := isTwo_of_readTwo hmonth
  obtain ⟨d, rfl, hd⟩ := isTwo_of_readTwo hday
  rw [List.append_nil] at hsign ⊢
  -- nothing stands between the numbers, so what ends the year is not clear without its sign
  refine DateText.compact hy hm hd hexists fun hmem => ?_
  -- the month does not start with a digit, so it starts with white space
  have hrest := hsign hmem
  obtain ⟨w, ds, rfl, hw, hds, -, -⟩ := hm
  cases w with
  | nil =>
    obtain ⟨c, ds', rfl⟩ := List.exists_cons_of_ne_nil hds.1
    have hc := hrest c rfl
    rw [hds.2 c List.mem_cons_self] at hc
    cases hc
  | cons c w => exact ⟨c, List.mem_append_left ds List.mem_cons_self, hw c List.mem_cons_self⟩

theorem DateText.exists {s : List Char} {date : Day} {format : DateFormat}
    (h : DateText s date format) : date.Exists := by
  cases h with
  | full _ _ _ hdate => exact hdate
  | compact _ _ _ hdate => exact hdate
  | monthDay _ _ hdate => exact hdate

/-! ### Dashes -/

theorem IsTwo.notMem {t : List Char} {n : ℕ} (h : IsTwo t n) {c : Char} (hdigit : c.isDigit = false)
    (hwhite : isWhite c = false) : c ∉ t := by
  obtain ⟨w, ds, rfl, hw, hds, -, -⟩ := h
  exact fun hmem => (List.mem_append.mp hmem).elim (notMem_white hwhite hw)
    (notMem_digits hdigit hds.2)

/-- A month and a day have no dash. -/
theorem IsTwo.dash_notMem {t : List Char} {n : ℕ} (h : IsTwo t n) : '-' ∉ t :=
  h.notMem rfl rfl

/-- **A dash in a year is a sign**: white space stands before it, and digits behind it. -/
theorem IsYear.of_dash {u t : List Char} {y : ℤ} (h : IsYear (u ++ '-' :: t) y) :
    White u ∧ Digits t ∧ y = -(value t : ℤ) := by
  generalize hs : u ++ '-' :: t = s at h
  have hmem : '-' ∈ s := by
    rw [← hs]
    exact List.mem_append_right u List.mem_cons_self
  cases h with
  | @plain w ds hw hds hlength =>
    exact absurd hmem fun h => (List.mem_append.mp h).elim (notMem_white rfl hw)
      (notMem_digits rfl hds.2)
  | @plus w ds hw hds =>
    exact absurd hmem fun h => (List.mem_append.mp h).elim (notMem_white rfl hw)
      fun h => (List.mem_cons.mp h).elim (by decide) (notMem_digits rfl hds.2)
  | @minus w ds hw hds =>
    obtain ⟨rfl, -, rfl⟩ := (List.append_cons_inj_of_notMem (notMem_white rfl hw)
      (notMem_digits rfl hds.2)).mp hs.symm
    exact ⟨hw, hds, rfl⟩

theorem IsTwo.count_dash {t : List Char} {n : ℕ} (h : IsTwo t n) : t.count '-' = 0 :=
  List.count_eq_zero.mpr h.dash_notMem

theorem count_dash_white {w : List Char} (hw : White w) : w.count '-' = 0 :=
  List.count_eq_zero.mpr (notMem_white rfl hw)

theorem count_dash_digits {ds : List Char} (hds : Digits ds) : ds.count '-' = 0 :=
  List.count_eq_zero.mpr (notMem_digits rfl hds.2)

theorem IsYear.count_dash_le {t : List Char} {y : ℤ} (h : IsYear t y) : t.count '-' ≤ 1 := by
  cases h with
  | plain hw hds _ => simp [count_dash_white hw, count_dash_digits hds]
  | plus hw hds => simp [count_dash_white hw, count_dash_digits hds]
  | minus hw hds => simp [count_dash_white hw, count_dash_digits hds]

/-- Only a full date has two dashes or more. -/
theorem DateText.full_of_count {s : List Char} {date : Day} {format : DateFormat}
    (h : DateText s date format) (hcount : 2 ≤ s.count '-') : format = .yearMonthDay := by
  cases h with
  | full => rfl
  | compact hy hm hd =>
    have hle := hy.count_dash_le
    rw [List.count_append, List.count_append, hm.count_dash, hd.count_dash] at hcount
    omega
  | monthDay hm hd =>
    rw [List.count_append, List.count_cons_self, hm.count_dash, hd.count_dash] at hcount
    omega

/-- A date has three dashes at most. -/
theorem DateText.count_dash_le {s : List Char} {date : Day} {format : DateFormat}
    (h : DateText s date format) : s.count '-' ≤ 3 := by
  by_cases hcount : 2 ≤ s.count '-'
  · obtain rfl := h.full_of_count hcount
    cases h with
    | full hy hm hd =>
      have hle := hy.count_dash_le
      rw [List.count_append, List.count_cons_self, List.count_append, List.count_cons_self,
        hm.count_dash, hd.count_dash]
      omega
  · omega

/-! ### What is in a date -/

theorem IsYear.notMem {t : List Char} {y : ℤ} (h : IsYear t y) {c : Char}
    (hdigit : c.isDigit = false) (hwhite : isWhite c = false) (hplus : c ≠ '+')
    (hminus : c ≠ '-') : c ∉ t := by
  cases h with
  | plain hw hds _ => simp [notMem_white hwhite hw, notMem_digits hdigit hds.2]
  | plus hw hds => simp [notMem_white hwhite hw, notMem_digits hdigit hds.2, hplus]
  | minus hw hds => simp [notMem_white hwhite hw, notMem_digits hdigit hds.2, hminus]

/-- No date has a letter. -/
theorem DateText.letter_notMem {s : List Char} {date : Day} {format : DateFormat}
    (h : DateText s date format) : 'w' ∉ s := by
  have htwo : ∀ {t : List Char} {n : ℕ}, IsTwo t n → 'w' ∉ t := fun ht => ht.notMem rfl rfl
  have hyear : ∀ {t : List Char} {y : ℤ}, IsYear t y → 'w' ∉ t :=
    fun ht => ht.notMem rfl rfl (by decide) (by decide)
  cases h with
  | full hy hm hd => simp [hyear hy, htwo hm, htwo hd]
  | compact hy hm hd => simp [hyear hy, htwo hm, htwo hd]
  | monthDay hm hd => simp [htwo hm, htwo hd]

theorem IsTwo.last {t : List Char} {n : ℕ} (h : IsTwo t n) :
    ∃ c, c.isDigit = true ∧ [c] <:+ t := by
  obtain ⟨w, ds, rfl, -, hds, -, -⟩ := h
  refine ⟨ds.getLast hds.1, hds.2 _ (List.getLast_mem hds.1), w ++ ds.dropLast, ?_⟩
  rw [List.append_assoc, List.dropLast_append_getLast]

/-- A date ends in a digit. -/
theorem DateText.last {s : List Char} {date : Day} {format : DateFormat}
    (h : DateText s date format) : ∃ c, c.isDigit = true ∧ [c] <:+ s := by
  cases h with
  | @full y m d _ hy hm hd =>
    obtain ⟨c, hc, hlast⟩ := hd.last
    refine ⟨c, hc, hlast.trans ?_⟩
    exact (List.suffix_cons '-' d).trans ((List.suffix_append m _).trans
      ((List.suffix_cons '-' _).trans (List.suffix_append y _)))
  | @compact y m d _ hy hm hd =>
    obtain ⟨c, hc, hlast⟩ := hd.last
    exact ⟨c, hc, hlast.trans ((List.suffix_append m d).trans (List.suffix_append y _))⟩
  | @monthDay m d _ hm hd =>
    obtain ⟨c, hc, hlast⟩ := hd.last
    exact ⟨c, hc, hlast.trans ((List.suffix_cons '-' d).trans (List.suffix_append m _))⟩

theorem IsTwo.length_pos {t : List Char} {n : ℕ} (h : IsTwo t n) : 0 < t.length := by
  obtain ⟨c, -, hlast⟩ := h.last
  exact hlast.length_le

theorem IsYear.length_pos {t : List Char} {y : ℤ} (h : IsYear t y) : 0 < t.length := by
  cases h with
  | plain hw hds _ =>
    have hpos := List.length_pos_iff.mpr hds.1
    rw [List.length_append]
    omega
  | plus => simp
  | minus => simp

/-- A date has three characters at least. -/
theorem DateText.three_le_length {s : List Char} {date : Day} {format : DateFormat}
    (h : DateText s date format) : 3 ≤ s.length := by
  cases h with
  | full hy hm hd =>
    have := hy.length_pos
    rw [List.length_append, List.length_cons, List.length_append, List.length_cons]
    omega
  | compact hy hm hd =>
    have := hy.length_pos
    have := hm.length_pos
    have := hd.length_pos
    rw [List.length_append, List.length_append]
    omega
  | monthDay hm hd =>
    have := hm.length_pos
    have := hd.length_pos
    rw [List.length_append, List.length_cons]
    omega

/-! ### What is read -/

variable {chrono : Chrono Date} {day : Date → Day}

theorem toString_digits (n : ℕ) : Digits (toString n).toList := by
  have htext : (toString n).toList = Nat.toDigits 10 n := Nat.toList_repr
  rw [htext]
  exact ⟨Nat.toDigits_ne_nil, fun c hc => Nat.isDigit_of_mem_toDigits (by omega) (by omega) hc⟩

/-- A day of the current year has no year of its own. -/
theorem monthDay_of_read_full {ys s : List Char} {date : Day} (hys : Digits ys)
    (h : Day.read ['-'] (ys ++ '-' :: s) = some date) : DateText s date .monthDay := by
  obtain ⟨y, m, d, hs, hy, hm, hd, hexists⟩ := read_full_iff.mp h
  have hnot : '-' ∉ ys := notMem_digits rfl hys.2
  -- the first dash stands behind the year that was put in front
  obtain (rfl | ⟨x, rfl⟩) | ⟨u, rfl, -⟩ := Text.isEnd_or_of_append_eq hs.symm
  · exact DateText.monthDay hm hd hexists
  · -- the digits would be the white space in front of a sign
    have hyear : y = ys ++ '-' :: x := by
      refine ((List.append_left_inj ('-' :: (m ++ '-' :: d))).mp ?_).symm
      rw [← hs, List.append_assoc, List.cons_append]
    rw [hyear] at hy
    obtain ⟨hwhite, -, -⟩ := hy.of_dash
    obtain ⟨c, hc⟩ := List.exists_mem_of_ne_nil ys hys.1
    have hc' := isWhite_of_isDigit (hys.2 c hc)
    rw [hwhite c hc] at hc'
    cases hc'
  · exact absurd (List.mem_append_right y List.mem_cons_self) hnot

/-- **The texts that are read** are the texts of dates. -/
theorem dateText_of_parseDate (hdoc : chrono.Documented day) {s : List Char} {date : Date}
    {format : DateFormat} (h : parseDate chrono s = some (date, format)) :
    DateText s (day date) format := by
  unfold parseDate at h
  -- the formats in the order they are tried
  split at h
  · next date' hfull =>
    cases h
    have hread : Day.read ['-'] s = some (day date) := by
      rw [← hdoc.parse_full, hfull]
      rfl
    obtain ⟨y, m, d, rfl, hy, hm, hd, hexists⟩ := read_full_iff.mp hread
    exact DateText.full hy hm hd hexists
  split at h
  · next date' hcompact =>
    cases h
    refine dateText_of_read_compact ?_
    rw [← hdoc.parse_compact, hcompact]
    rfl
  split at h
  · next date' hmonthDay =>
    cases h
    refine monthDay_of_read_full (toString_digits chrono.year) ?_
    rw [← hdoc.parse_full, hmonthDay]
    rfl
  · cases h

/-- **The full dates are read.** -/
theorem parseDate_full (hdoc : chrono.Documented day) {y m d : List Char} (date : Day)
    (hy : IsYear y date.year) (hm : IsTwo m date.month) (hd : IsTwo d date.day)
    (hdate : date.Exists) :
    ∃ date', parseDate chrono (y ++ '-' :: (m ++ '-' :: d)) = some (date', .yearMonthDay) ∧
      day date' = date := by
  have hread := read_full_iff.mpr ⟨y, m, d, rfl, hy, hm, hd, hdate⟩
  rw [← hdoc.parse_full] at hread
  obtain ⟨date', hparse, hday⟩ := Option.map_eq_some_iff.mp hread
  refine ⟨date', ?_, hday⟩
  unfold parseDate
  rw [hparse]

end AiGateway
