import AiGateway.Types.WrittenDates

/-!
# Writing a model id again

An id of Bedrock that is written can be read again, and what is written then is the same
text, unless a dash is swallowed: a full date that started with white space or a sign is
written without them, and with nothing but white space in between, the dash in front of it
becomes the sign of its year.

* `versionSplit_full`: the version text of a text that ends in a full date;
* `reprint_iff`: the names with a version that are written the same again;
* `reprints_iff`: the ids of Bedrock that are.
-/

namespace AiGateway

open Day (padded)

variable {Date : Type} {chrono : Chrono Date} {day : Date → Day} {s q x c u : List Char}

/-! ### The version text of a text -/

theorem dateSplit_eq_some {kind : DateFormat → Bool} {p : List Char × VersionText}
    (h : dateSplit chrono kind (x, c) = some p) :
    p = (x, .date c) ∧ ∃ d, parseDate chrono c = some d ∧ kind d.2 = true := by
  unfold dateSplit at h
  split at h
  · next hany =>
    obtain ⟨d, hd, hkind⟩ := (Option.any_eq_true _ _).mp hany
    exact ⟨(Option.some.inj h).symm, d, hd, hkind⟩
  · cases h

/-- A date that is passed over in the search for longer ones is a day of the year. -/
theorem format_of_dateSplit {d : Date × DateFormat}
    (h : dateSplit chrono (· ≠ .monthDay) (x, c) = none) (hd : parseDate chrono c = some d) :
    d.2 = .monthDay := by
  unfold dateSplit at h
  rw [hd] at h
  by_contra hne
  rw [if_pos (by simpa using hne)] at h
  cases h

/-- A preview of a date is what stands behind the last dash of the word. -/
theorem datedPreviewSplit_eq_some {p : List Char × VersionText}
    (h : datedPreviewSplit chrono s = some p) :
    ∃ model after d, p = (model, .datedPreview after) ∧ parseDate chrono after = some d ∧
      s = (model ++ "-preview".toList) ++ '-' :: after := by
  unfold datedPreviewSplit at h
  split at h
  · next model after hsplit =>
    split at h
    · next hdate =>
      obtain ⟨d, hd⟩ := Option.isSome_iff_exists.mp hdate
      refine ⟨model, after, d, (Option.some.inj h).symm, hd, ?_⟩
      rw [Text.eq_of_splitLast hsplit, List.append_assoc]
      rfl
    · cases h
  · cases h

/-- **The longest date is read.** A longer candidate than the date that was read is no date,
or a day of the year. -/
theorem longest_of_versionSplit {model text : List Char}
    (h : versionSplit chrono s = some (model, .date text)) (hs : s = x ++ '-' :: c)
    (hlonger : text.length < c.length) {d : Date × DateFormat}
    (hd : parseDate chrono c = some d) : d.2 = .monthDay := by
  unfold versionSplit at h
  -- the rules before the search for dates find no date
  split at h
  · next p hpreview =>
    obtain ⟨_, _, _, rfl, -⟩ := datedPreviewSplit_eq_some hpreview
    cases h
  split at h
  · cases h
  split at h
  · cases h
  split at h
  · next p hsearch =>
    obtain rfl := Option.some.inj h
    obtain ⟨x', c', -, hfound, hothers⟩ := Text.longest_of_findSome? hsearch
    obtain ⟨heq, -⟩ := dateSplit_eq_some hfound
    cases heq
    exact format_of_dateSplit (hothers x c hs hlonger) hd
  · -- no candidate is a longer date
    next hnone =>
    rw [hs] at hnone
    exact format_of_dateSplit
      (Text.eq_none_of_findSome? hnone (List.ne_nil_of_length_pos (by omega))) hd

/-- The word in front of a dash ends in a letter. -/
theorem letter_of_preview {model : List Char} (h : model ++ "-preview".toList = x ++ '-' :: u) :
    'w' ∈ u := by
  have hword : ['w'] <:+ model ++ "-preview".toList := ⟨model ++ "-previe".toList, by simp⟩
  rw [h] at hword
  have hlast : ['w'] <:+ '-' :: u :=
    List.suffix_of_suffix_length_le hword (List.suffix_append x _) (by simp)
  exact (List.mem_cons.mp (hlast.subset List.mem_cons_self)).resolve_left (by decide)

theorem not_suffix_both {e f : Char} (hdigit : e.isDigit = true) (he : [e] <:+ s)
    (hf : [f] <:+ s) (hletter : f.isDigit = false) : False := by
  have heq := List.suffix_of_suffix_length_le he hf (Nat.le_refl 1)
  obtain rfl := List.mem_singleton.mp (heq.subset List.mem_cons_self)
  rw [hdigit] at hletter
  cases hletter

/-- What ends in a digit does not end in a word. -/
theorem stripSuffix_eq_none {pat : List Char} {e f : Char} (hdigit : e.isDigit = true)
    (hlast : [e] <:+ s) (hpat : [f] <:+ pat) (hf : f.isDigit = false) :
    Text.stripSuffix pat s = none := by
  unfold Text.stripSuffix
  rw [if_neg]
  intro hsuffix
  exact not_suffix_both hdigit hlast (hpat.trans (List.isSuffixOf_iff_suffix.mp hsuffix)) hf

/-- The search among the candidates stops at a full date if no longer one is a date. -/
theorem findSome?_dateSplit_full {date : Date}
    (hc : parseDate chrono c = some (date, .yearMonthDay)) (hne : c ≠ [])
    (hlonger : ∀ x' v, x = x' ++ '-' :: v → parseDate chrono (v ++ '-' :: c) = none) :
    (Text.splits '-' (x ++ '-' :: c)).findSome? (dateSplit chrono (· ≠ .monthDay)) =
      some (x, .date c) := by
  have hfound : dateSplit chrono (· ≠ .monthDay) (x, c) = some (x, .date c) := by
    unfold dateSplit
    rw [hc]
    rfl
  cases hsearch : (Text.splits '-' (x ++ '-' :: c)).findSome?
      (dateSplit chrono (· ≠ .monthDay)) with
  | none =>
    rw [Text.eq_none_of_findSome? hsearch hne] at hfound
    cases hfound
  | some p =>
    obtain ⟨x', c', hs, hfirst, hothers⟩ := Text.longest_of_findSome? hsearch
    obtain ⟨rfl, d, hd, -⟩ := dateSplit_eq_some hfirst
    have hle : c.length ≤ c'.length := by
      by_contra hlt
      rw [hothers x c rfl (by omega)] at hfound
      cases hfound
    -- what was found is the date itself, for it is neither further on nor longer
    obtain (rfl | ⟨z, rfl⟩) | ⟨v, hx, rfl⟩ := Text.isEnd_or_of_append_eq hs.symm
    · rw [List.append_cancel_right hs]
    · rw [List.length_append, List.length_cons] at hle
      omega
    · rw [hlonger x' v hx] at hd
      cases hd

/-- **A text that ends in a full date**, of which no longer end is a date, has that date as
its version text, or the preview of it. -/
theorem versionSplit_full (hdoc : chrono.Documented day) {date : Date}
    (hc : parseDate chrono c = some (date, .yearMonthDay))
    (hlonger : ∀ x' v, x = x' ++ '-' :: v → parseDate chrono (v ++ '-' :: c) = none) :
    versionSplit chrono (x ++ '-' :: c) = some (x, .date c) ∨
      ∃ model, x = model ++ "-preview".toList ∧
        versionSplit chrono (x ++ '-' :: c) = some (model, .datedPreview c) := by
  have htext := dateText_of_parseDate hdoc hc
  have hlength := htext.three_le_length
  obtain ⟨e, hdigit, hlast⟩ := htext.last
  have hlast' : [e] <:+ x ++ '-' :: c :=
    hlast.trans ((List.suffix_cons '-' c).trans (List.suffix_append x _))
  -- the preview is tried first, then the keywords, which end in letters, then the dates
  unfold versionSplit
  cases hpreview : datedPreviewSplit chrono (x ++ '-' :: c) with
  | some p =>
    right
    obtain ⟨model, after, d, rfl, hafter, hs⟩ := datedPreviewSplit_eq_some hpreview
    obtain (rfl | ⟨z, rfl⟩) | ⟨v, hx, rfl⟩ := Text.isEnd_or_of_append_eq hs.symm
    · exact ⟨model, List.append_cancel_right hs, rfl⟩
    · -- the word would be in the date
      rw [← List.cons_append, ← List.append_assoc] at hs
      have hw := letter_of_preview (List.append_cancel_right hs).symm
      exact absurd (List.mem_append_left _ hw) htext.letter_notMem
    · rw [hlonger _ v hx] at hafter
      cases hafter
  | none =>
    left
    have hnopreview : Text.stripSuffix "-preview".toList (x ++ '-' :: c) = none :=
      stripSuffix_eq_none (f := 'w') hdigit hlast' ⟨"-previe".toList, rfl⟩ rfl
    have hnolatest : Text.stripSuffix "-latest".toList (x ++ '-' :: c) = none :=
      stripSuffix_eq_none (f := 't') hdigit hlast' ⟨"-lates".toList, rfl⟩ rfl
    rw [hnopreview, hnolatest]
    dsimp only
    rw [findSome?_dateSplit_full hc (List.ne_nil_of_length_pos (by omega)) hlonger]

/-! ### Texts that are written back -/

theorem toLower_of_isDigit {e : Char} (h : e.isDigit = true) : e.toLower = e := by
  have hrange := toNat_of_isDigit h
  unfold Char.toLower
  rw [dif_neg]
  rintro ⟨hge, -⟩
  have hge' : 65 ≤ e.toNat := hge
  omega

/-- A keyword, in any case of letters, does not end in a digit. -/
theorem keyword_last {text word : List Char} {e f : Char}
    (hcase : Text.eqIgnoreAsciiCase text word = true) (hdigit : e.isDigit = true)
    (he : [e] <:+ text) (hf : [f] <:+ word) (hletter : f.isDigit = false)
    (hlower : word.map Char.toLower = word) : False := by
  have hword : text.map Char.toLower = word := by
    rw [← hlower]
    exact eq_of_beq hcase
  have he' := he.map Char.toLower
  rw [hword, List.map_singleton, toLower_of_isDigit hdigit] at he'
  exact not_suffix_both hdigit he' hf hletter

/-- **A text is written back** if it ends in a digit, and its ends are, those of them that are
dates. -/
theorem writesVersion_of_ends {e : Char} (hdigit : e.isDigit = true) (hlast : [e] <:+ s)
    (hends : ∀ x c d, s = x ++ '-' :: c → parseDate chrono c = some d → WritesDay chrono c) :
    WritesVersion chrono s := by
  rintro ⟨model, v⟩ hp
  obtain ⟨hs, hsome⟩ := splitsOff_of_versionSplit hp
  cases v with
  -- a suffix that is looked for by its letters is written as it is
  | preview => exact trivial
  | latest => exact trivial
  | datedPreview after =>
    obtain ⟨d, hd⟩ := Option.isSome_iff_exists.mp (Option.isSome_map.symm.trans hsome)
    refine hends (model ++ "-preview".toList) after d ?_ hd
    rw [hs, List.append_assoc]
    rfl
  | date text =>
    obtain ⟨d, hd⟩ := Option.isSome_iff_exists.mp (Option.isSome_map.symm.trans hsome)
    exact hends model text d hs hd
  | keyword text =>
    -- its last character would be a letter and a digit
    exfalso
    obtain ⟨version, hversion⟩ := Option.isSome_iff_exists.mp hsome
    have hin : [e] <:+ '-' :: text := by
      rw [hs] at hlast
      exact List.suffix_of_suffix_length_le hlast (List.suffix_append model _) (by simp)
    have hne : text ≠ [] := by
      rintro rfl
      obtain ⟨hcase, -⟩ | ⟨hcase, -⟩ := version_keyword_cases hversion <;> cases hcase
    have htext : [e] <:+ text :=
      List.suffix_of_suffix_length_le hin (List.suffix_cons '-' text)
        (List.length_pos_iff.mpr hne)
    obtain ⟨hcase, -⟩ | ⟨hcase, -⟩ := version_keyword_cases hversion
    · exact keyword_last (f := 't') hcase hdigit htext ⟨"lates".toList, rfl⟩ rfl rfl
    · exact keyword_last (f := 'w') hcase hdigit htext ⟨"previe".toList, rfl⟩ rfl rfl

theorem stripSuffix_append (pat x : List Char) : Text.stripSuffix pat (x ++ pat) = some x := by
  unfold Text.stripSuffix
  rw [if_pos (List.isSuffixOf_iff_suffix.mpr (List.suffix_append x pat)), List.length_append,
    Nat.add_sub_cancel, List.take_left]

/-- A text that ends in a keyword is written back. -/
theorem writesVersion_of_keyword (hdoc : chrono.Documented day) {word : List Char} {f : Char}
    (hword : word = "latest".toList ∨ word = "preview".toList) (hf : [f] <:+ word)
    (hletter : f.isDigit = false) : WritesVersion chrono (x ++ '-' :: word) := by
  intro p hp
  have hp' : versionSplit chrono (x ++ '-' :: word) = some p := hp
  unfold versionSplit at hp'
  split at hp'
  · next p' hpreview =>
    obtain ⟨model, after, d, -, hd, hs⟩ := datedPreviewSplit_eq_some hpreview
    obtain ⟨e, hdigit, he⟩ := (dateText_of_parseDate hdoc hd).last
    have he' : [e] <:+ x ++ '-' :: word := by
      rw [hs]
      exact he.trans ((List.suffix_cons '-' after).trans (List.suffix_append _ _))
    have hf' := hf.trans ((List.suffix_cons '-' word).trans (List.suffix_append x _))
    exact (not_suffix_both hdigit he' hf' hletter).elim
  split at hp'
  · obtain rfl := Option.some.inj hp'
    exact trivial
  split at hp'
  · obtain rfl := Option.some.inj hp'
    exact trivial
  · next hnopreview _ hnolatest =>
    -- one of the two suffixes is there
    exfalso
    obtain rfl | rfl := hword
    · have hsome := stripSuffix_append "-latest".toList x
      rw [show x ++ "-latest".toList = x ++ '-' :: "latest".toList from rfl, hnolatest] at hsome
      cases hsome
    · have hsome := stripSuffix_append "-preview".toList x
      rw [show x ++ "-preview".toList = x ++ '-' :: "preview".toList from rfl,
        hnopreview] at hsome
      cases hsome

/-! ### Printing what was parsed -/

/-- A name with its version, parsed and printed. -/
def reprint (chrono : Chrono Date) (s : List Char) : List Char :=
  displayParsed chrono (parseModelAndVersion chrono s '-')

theorem reprint_of_none (h : versionSplit chrono s = none) : reprint chrono s = s := by
  unfold reprint
  rw [parseModelAndVersion_eq, h]
  rfl

theorem reprint_of_some {p : List Char × VersionText} (h : versionSplit chrono s = some p)
    {version : Version Date} (hversion : p.2.version chrono = some version) :
    reprint chrono s = p.1 ++ '-' :: version.display chrono := by
  unfold reprint
  rw [parseModelAndVersion_eq, h]
  show displayParsed chrono (p.1, p.2.version chrono) = _
  rw [hversion]
  rfl

theorem reprint_of_date (hdoc : chrono.Documented day) {model text : List Char} {date : Date}
    {format : DateFormat} (h : versionSplit chrono s = some (model, .date text))
    (hdate : parseDate chrono text = some (date, format)) :
    reprint chrono s = model ++ '-' :: (day date).write format := by
  have hversion : (VersionText.date text).version chrono = some (.date date format) :=
    Option.map_eq_some_iff.mpr ⟨_, hdate, rfl⟩
  rw [reprint_of_some h hversion, ← hdoc.format_eq]
  rfl

theorem reprint_of_datedPreview (hdoc : chrono.Documented day) {model after : List Char}
    {date : Date} {format : DateFormat}
    (h : versionSplit chrono s = some (model, .datedPreview after))
    (hdate : parseDate chrono after = some (date, format)) :
    reprint chrono s = (model ++ "-preview".toList) ++ '-' :: (day date).write format := by
  have hversion : (VersionText.datedPreview after).version chrono =
      some (.dateVersionedPreview date format) := Option.map_eq_some_iff.mpr ⟨_, hdate, rfl⟩
  rw [reprint_of_some h hversion, ← hdoc.format_eq, List.append_assoc]
  rfl

/-! ### Dashes that are swallowed -/

/-- **A dash is swallowed** by a full date, with white space between it and the dash of the
date. The date has a year without a sign, and starts with white space or a sign all the same:
otherwise the dash would be part of it. -/
structure Swallowed (chrono : Chrono Date) (day : Date → Day) (u text : List Char)
    (date : Date) : Prop where
  white : White u
  full : parseDate chrono text = some (date, .yearMonthDay)
  unsigned : 0 ≤ (day date).year ∧ (day date).year ≤ 9999
  before : parseDate chrono (u ++ '-' :: text) = none
  /-- The date with the dash is not one the printer would write. -/
  unwritten : u ≠ [] ∨ (day date).year = 0

/-- A text ends in a date that swallows a dash. -/
def Swallows (chrono : Chrono Date) (day : Date → Day) (s : List Char) : Prop :=
  ∃ q u text date, s = q ++ '-' :: (u ++ '-' :: text) ∧ Swallowed chrono day u text date

theorem two_le_count_of_full {text : List Char} {date : Day}
    (h : DateText text date .yearMonthDay) : 2 ≤ text.count '-' := by
  cases h with
  | full =>
    rw [List.count_append, List.count_cons_self, List.count_append, List.count_cons_self]
    omega

/-- No date has two dashes in front of a full one. -/
theorem parseDate_two_dashes (hdoc : chrono.Documented day) {v text : List Char}
    (htext : 2 ≤ text.count '-') : parseDate chrono (v ++ '-' :: (u ++ '-' :: text)) = none := by
  cases hd : parseDate chrono (v ++ '-' :: (u ++ '-' :: text)) with
  | none => rfl
  | some d =>
    obtain ⟨date, format⟩ := d
    have hle := (dateText_of_parseDate hdoc hd).count_dash_le
    rw [List.count_append, List.count_cons_self, List.count_append, List.count_cons_self] at hle
    omega

/-- The version text of a text with a dash that is swallowed is the date. -/
theorem versionSplit_of_swallowed (hdoc : chrono.Documented day) {text : List Char} {date : Date}
    (h : Swallowed chrono day u text date) :
    versionSplit chrono (q ++ '-' :: (u ++ '-' :: text)) = some (q ++ '-' :: u, .date text) := by
  have hcount := two_le_count_of_full (dateText_of_parseDate hdoc h.full)
  have hlonger : ∀ x' v, q ++ '-' :: u = x' ++ '-' :: v →
      parseDate chrono (v ++ '-' :: text) = none := by
    intro x' v hx
    obtain hend | ⟨z, -, rfl⟩ := Text.isEnd_or_of_append_eq hx.symm
    · obtain rfl := (Text.isEnd_iff_of_notMem (notMem_white rfl h.white)).mp hend
      exact h.before
    · rw [List.append_assoc, List.cons_append]
      exact parseDate_two_dashes hdoc hcount
  rw [← List.cons_append, ← List.append_assoc]
  obtain hsplit | ⟨model, hmodel, -⟩ := versionSplit_full hdoc h.full hlonger
  · exact hsplit
  · -- white space is no word
    exact absurd (letter_of_preview hmodel.symm) (notMem_white rfl h.white)

theorem daysIn_neg (year : ℤ) (month : ℕ) : Day.daysIn (-year) month = Day.daysIn year month := by
  have hleap : (-year % 4 = 0 ∧ (-year % 100 ≠ 0 ∨ -year % 400 = 0)) ↔
      (year % 4 = 0 ∧ (year % 100 ≠ 0 ∨ year % 400 = 0)) := by omega
  unfold Day.daysIn
  split
  · simp only [hleap]
  all_goals rfl

/-- The date with the dash as the sign of its year. -/
theorem parseDate_swallowed (hdoc : chrono.Documented day) {text : List Char} {date : Date}
    (h : Swallowed chrono day u text date) :
    ∃ date', parseDate chrono (u ++ '-' :: (day date).write .yearMonthDay) =
      some (date', .yearMonthDay) ∧ day date' = { day date with year := -(day date).year } := by
  have htext := dateText_of_parseDate hdoc h.full
  generalize hd : day date = d at htext
  have hfour : 0 ≤ d.year ∧ d.year ≤ 9999 := hd ▸ h.unsigned
  have hexists : d.Exists := by
    cases htext with
    | full _ _ _ hdate => exact hdate
  obtain ⟨⟨hmin, hmax⟩, hmonth, hday, hdays⟩ := hexists
  -- the day exists in the negative year too, for leap years are those of the positive ones
  have hneg : ({ d with year := -d.year } : Day).Exists :=
    ⟨⟨by show -262143 ≤ -d.year; omega, by show -d.year ≤ 262142; omega⟩, hmonth, hday,
      (daysIn_neg d.year d.month).symm ▸ hdays⟩
  have hyear : IsYear (u ++ '-' :: Day.writeYear d.year) (-d.year) := by
    obtain ⟨-, -, hw⟩ | ⟨hlarge, -⟩ | ⟨hsmall, -⟩ := writeYear_cases d.year
    · have hminus := IsYear.minus h.white (padded_digits 4 d.year.natAbs)
      rw [value_padded, Int.natAbs_of_nonneg hfour.1] at hminus
      rw [hw]
      exact hminus
    · omega
    · omega
  obtain ⟨date', hdate', hday'⟩ := parseDate_full hdoc { d with year := -d.year } hyear
    (isTwo_padded (Day.Exists.month_lt hneg)) (isTwo_padded (Day.Exists.day_lt hneg)) hneg
  rw [List.append_assoc, List.cons_append] at hdate'
  exact ⟨date', hdate', hday'⟩

/-- The date with the dash is not written back. -/
theorem write_ne_of_swallowed {text : List Char} {date : Date}
    (h : Swallowed chrono day u text date) :
    ({ day date with year := -(day date).year } : Day).write .yearMonthDay ≠
      u ++ '-' :: (day date).write .yearMonthDay := by
  intro hwrite
  have hyear : Day.writeYear (-(day date).year) = u ++ '-' :: Day.writeYear (day date).year := by
    refine (List.append_left_inj ('-' :: (padded 2 (day date).month ++
      '-' :: padded 2 (day date).day))).mp ?_
    rw [List.append_assoc, List.cons_append]
    exact hwrite
  obtain ⟨hnonneg, hle⟩ := h.unsigned
  obtain ⟨-, -, hw⟩ | ⟨hlarge, -⟩ | ⟨hneg, hw⟩ := writeYear_cases (-(day date).year)
  · -- a year without a sign has no dash
    refine absurd ?_ (dash_notMem_padded 4 (-(day date).year).natAbs)
    rw [← hw, hyear]
    exact List.mem_append_right u List.mem_cons_self
  · omega
  -- the sign is a dash, so nothing can stand before it
  · obtain ⟨-, -, hw'⟩ | ⟨hlarge, -⟩ | ⟨hneg', -⟩ := writeYear_cases (day date).year
    · rw [hw, hw', Int.natAbs_neg] at hyear
      have hlength := congrArg List.length hyear
      rw [List.length_append, List.length_cons] at hlength
      have hnil : u = [] := List.length_eq_zero_iff.mp (by omega)
      exact h.unwritten.elim (fun hne => hne hnil) (by omega)
    · omega
    · omega

/-- **A text with a dash that is swallowed is not written the same again.** -/
theorem not_writesVersion_of_swallows (hdoc : chrono.Documented day)
    (h : Swallows chrono day s) : ¬WritesVersion chrono (reprint chrono s) := by
  obtain ⟨q, u, text, date, rfl, hswallowed⟩ := h
  have hcount := two_le_count_of_full (dateText_of_parseDate hdoc hswallowed.full)
  rw [reprint_of_date hdoc (versionSplit_of_swallowed hdoc hswallowed) hswallowed.full,
    List.append_assoc, List.cons_append]
  obtain ⟨date', hdate', hday'⟩ := parseDate_swallowed hdoc hswallowed
  have hwritten : 2 ≤ ((day date).write .yearMonthDay).count '-' := by
    show 2 ≤ (_ ++ '-' :: (_ ++ '-' :: _)).count '-'
    rw [List.count_append, List.count_cons_self, List.count_append, List.count_cons_self]
    omega
  have hback : ¬WritesDay chrono (u ++ '-' :: (day date).write .yearMonthDay) := by
    rw [writesDay_iff_write hdoc hdate', hday']
    exact write_ne_of_swallowed hswallowed
  -- the date with the dash is what is read now
  obtain hsplit | ⟨model, -, hsplit⟩ := versionSplit_full hdoc hdate'
    fun _ _ _ => parseDate_two_dashes hdoc hwritten
  · exact fun hwrites => hback (hwrites _ hsplit)
  · exact fun hwrites => hback (hwrites _ hsplit)

/-- With a dash for a sign and no white space, a full date is one the printer would write. -/
theorem write_neg {d : Day} (hnonneg : 0 ≤ d.year) (hle : d.year ≤ 9999) (hne : d.year ≠ 0) :
    ({ d with year := -d.year } : Day).write .yearMonthDay = '-' :: d.write .yearMonthDay := by
  have hw : Day.writeYear (-d.year) = '-' :: Day.writeYear d.year := by
    unfold Day.writeYear
    rw [if_pos (by omega), if_neg (by omega), if_neg (by omega), Int.natAbs_neg]
  show Day.writeYear (-d.year) ++ _ = '-' :: (Day.writeYear d.year ++ _)
  rw [hw]
  rfl

/-- A full date is not part of a longer one that is read as a day of the year. -/
theorem parseDate_before_full (hdoc : chrono.Documented day) {text : List Char} {date : Day}
    (htext : DateText text date .yearMonthDay)
    (h : ∀ d, parseDate chrono (u ++ '-' :: text) = some d → d.2 = .monthDay) :
    parseDate chrono (u ++ '-' :: text) = none := by
  cases hparse : parseDate chrono (u ++ '-' :: text) with
  | none => rfl
  | some d =>
    obtain ⟨date', format⟩ := d
    have hcount := two_le_count_of_full htext
    obtain rfl := (dateText_of_parseDate hdoc hparse).full_of_count (by
      rw [List.count_append, List.count_cons_self]
      omega)
    exact absurd (h _ hparse) (by simp)

/-- **A date that was read is written back**, unless a dash is swallowed. -/
theorem writesVersion_of_date (hdoc : chrono.Documented day) {model text : List Char}
    {date : Date} {format : DateFormat}
    (hsplit : versionSplit chrono s = some (model, .date text))
    (hdate : parseDate chrono text = some (date, format)) (hnot : ¬Swallows chrono day s) :
    WritesVersion chrono (model ++ '-' :: (day date).write format) := by
  obtain ⟨hs, -⟩ := splitsOff_of_versionSplit hsplit
  have htext := dateText_of_parseDate hdoc hdate
  obtain ⟨e, hdigit, hlast⟩ := write_last (day date) format
  refine writesVersion_of_ends hdigit
    (hlast.trans ((List.suffix_cons '-' _).trans (List.suffix_append model _))) ?_
  rintro x c ⟨date', format'⟩ hc hd
  have hread := dateText_of_parseDate hdoc hd
  rw [writesDay_iff_write hdoc hd]
  obtain hend | ⟨u, rfl, rfl⟩ := Text.isEnd_or_of_append_eq hc.symm
  · exact hread.write_of_isEnd htext.exists hend
  -- a longer date than the one that was written: was it there before?
  have hs' : s = x ++ '-' :: (u ++ '-' :: text) := by
    rw [hs, List.append_assoc]
    rfl
  have hlonger : ∀ d, parseDate chrono (u ++ '-' :: text) = some d → d.2 = .monthDay := by
    refine fun d => longest_of_versionSplit hsplit hs' ?_
    rw [List.length_append, List.length_cons]
    omega
  obtain ⟨rfl, hwhite, hunsigned, rfl, hdate'⟩ | ⟨rfl, hyear, hexists, hmonth, hday⟩ :=
    hread.before
  · have hunwritten : ¬(u ≠ [] ∨ (day date).year = 0) := fun h =>
      hnot ⟨x, u, text, date, hs', hwhite, hdate, hunsigned,
        parseDate_before_full hdoc htext hlonger, h⟩
    -- the dash is the sign that is written
    obtain ⟨hnil, hzero⟩ := not_or.mp hunwritten
    obtain rfl := not_not.mp hnil
    rw [hdate']
    exact write_neg hunsigned.1 hunsigned.2 hzero
  · -- the year stood there before, and the full date would have been read
    exfalso
    cases htext with
    | monthDay hm hd' _ =>
      obtain ⟨date'', hparse, -⟩ := parseDate_full hdoc (day date') hyear (hmonth ▸ hm)
        (hday ▸ hd') hexists
      exact absurd (hlonger _ hparse) (by simp)

/-- A preview of a date is written back. -/
theorem writesVersion_of_datedPreview (hdoc : chrono.Documented day) {after : List Char}
    {date : Date} {format : DateFormat} (model : List Char)
    (hdate : parseDate chrono after = some (date, format)) :
    WritesVersion chrono ((model ++ "-preview".toList) ++ '-' :: (day date).write format) := by
  obtain ⟨e, hdigit, hlast⟩ := write_last (day date) format
  refine writesVersion_of_ends hdigit
    (hlast.trans ((List.suffix_cons '-' _).trans (List.suffix_append _ _))) ?_
  rintro x c ⟨date', format'⟩ hc hd
  have hread := dateText_of_parseDate hdoc hd
  rw [writesDay_iff_write hdoc hd]
  obtain hend | ⟨u, hu, rfl⟩ := Text.isEnd_or_of_append_eq hc.symm
  · exact hread.write_of_isEnd (dateText_of_parseDate hdoc hdate).exists hend
  · -- a longer candidate has the word in it
    exact absurd (List.mem_append_left _ (letter_of_preview hu)) hread.letter_notMem

/-- **The names with a version that are written the same again** are those in which no dash
is swallowed. -/
theorem reprint_iff (hdoc : chrono.Documented day) (s : List Char) :
    reprint chrono (reprint chrono s) = reprint chrono s ↔ ¬Swallows chrono day s := by
  show displayParsed chrono (parseModelAndVersion chrono (reprint chrono s) '-') =
    reprint chrono s ↔ _
  rw [displayParsed_iff]
  constructor
  · exact fun hwrites hswallows => not_writesVersion_of_swallows hdoc hswallows hwrites
  -- by the rule that read the version the first time
  intro hnot
  cases hsplit : versionSplit chrono s with
  | none =>
    rw [reprint_of_none hsplit]
    intro p hp
    rw [hsplit] at hp
    cases hp
  | some p =>
    obtain ⟨model, v⟩ := p
    obtain ⟨-, hsome⟩ := splitsOff_of_versionSplit hsplit
    obtain ⟨version, hversion⟩ := Option.isSome_iff_exists.mp hsome
    cases v with
    | datedPreview after =>
      obtain ⟨d, hdate, -⟩ := Option.map_eq_some_iff.mp hversion
      rw [reprint_of_datedPreview hdoc hsplit hdate]
      exact writesVersion_of_datedPreview hdoc model hdate
    | preview =>
      obtain rfl := Option.some.inj hversion
      rw [reprint_of_some hsplit rfl]
      exact writesVersion_of_keyword (f := 'w') hdoc (Or.inr rfl) ⟨"previe".toList, rfl⟩ rfl
    | latest =>
      obtain rfl := Option.some.inj hversion
      rw [reprint_of_some hsplit rfl]
      exact writesVersion_of_keyword (f := 't') hdoc (Or.inl rfl) ⟨"lates".toList, rfl⟩ rfl
    | date text =>
      obtain ⟨d, hdate, -⟩ := Option.map_eq_some_iff.mp hversion
      rw [reprint_of_date hdoc hsplit hdate]
      exact writesVersion_of_date hdoc hsplit hdate hnot
    | keyword text =>
      rw [reprint_of_some hsplit hversion]
      obtain ⟨-, rfl⟩ | ⟨-, rfl⟩ := version_keyword_cases hversion
      · exact writesVersion_of_keyword (f := 't') hdoc (Or.inl rfl) ⟨"lates".toList, rfl⟩ rfl
      · exact writesVersion_of_keyword (f := 'w') hdoc (Or.inr rfl) ⟨"previe".toList, rfl⟩ rfl

/-! ### Ids of Bedrock -/

/-- An id that is printed is parsed, and printed the same. -/
def BedrockModelId.Reprints (chrono : Chrono Date) (m : BedrockModelId Date) : Prop :=
  ∃ m', BedrockModelId.fromStr chrono (m.display chrono) = .ok m' ∧
    m'.display chrono = m.display chrono

/-- No dash is swallowed in the name and version of an id. -/
def KeepsDashes (chrono : Chrono Date) (day : Date → Day) (s : List Char) : Prop :=
  ∀ part ∈ bedrockModelPart s, ¬Swallows chrono day part

/-- What is printed is taken apart at the same places. -/
theorem BedrockModelId.fromStr_append (chrono : Chrono Date)
    {provider rest part after : List Char}
    (hprovider : Text.splitFirst '.' s = some (provider, rest))
    (hversion : Text.splitLast "-v".toList rest = some (part, after)) (part' : List Char) :
    BedrockModelId.fromStr chrono (provider ++ '.' :: (part' ++ '-' :: 'v' :: after)) =
      .ok ⟨provider, (parseModelAndVersion chrono part' '-').1,
        (parseModelAndVersion chrono part' '-').2, 'v' :: after⟩ := by
  have hfirst := Text.splitFirst_append (Text.notMem_of_splitFirst hprovider)
    (part' ++ '-' :: 'v' :: after)
  have hlast : Text.splitLast "-v".toList (part' ++ '-' :: 'v' :: after) = some (part', after) := by
    have hrest := hversion
    rw [Text.eq_of_splitLast hversion] at hrest
    exact Text.splitLast_of_append hrest part'
  unfold BedrockModelId.fromStr
  rw [hfirst]
  dsimp only
  rw [hlast]

/-- **The ids of Bedrock that are written the same again** are those in whose name and version
no dash is swallowed. -/
theorem reprints_iff (hdoc : chrono.Documented day) {m : BedrockModelId Date}
    (h : BedrockModelId.fromStr chrono s = .ok m) :
    m.Reprints chrono ↔ KeepsDashes chrono day s := by
  obtain ⟨provider, rest, part, after, hprovider, hversion, rfl⟩ :=
    BedrockModelId.exists_of_fromStr h
  have hpart : bedrockModelPart s = some part := by
    unfold bedrockModelPart
    rw [hprovider, Option.bind_some, hversion, Option.map_some]
  have hagain := BedrockModelId.fromStr_append chrono hprovider hversion (reprint chrono part)
  -- only the name with its version is printed differently
  unfold BedrockModelId.Reprints KeepsDashes
  rw [display_bedrockModelId, hpart]
  calc (∃ m', BedrockModelId.fromStr chrono (provider ++ '.' :: (reprint chrono part ++
          '-' :: 'v' :: after)) = .ok m' ∧
        m'.display chrono = provider ++ '.' :: (reprint chrono part ++ '-' :: 'v' :: after))
      ↔ provider ++ '.' :: (reprint chrono (reprint chrono part) ++ '-' :: 'v' :: after) =
          provider ++ '.' :: (reprint chrono part ++ '-' :: 'v' :: after) := by
        rw [hagain]
        simp only [Except.ok.injEq, exists_eq_left', display_bedrockModelId]
        rfl
    _ ↔ reprint chrono (reprint chrono part) = reprint chrono part := by
        rw [List.append_cancel_left_eq, List.cons.injEq, and_iff_right rfl,
          List.append_cancel_right_eq]
    _ ↔ ¬Swallows chrono day part := reprint_iff hdoc part
    _ ↔ _ := by simp

end AiGateway
