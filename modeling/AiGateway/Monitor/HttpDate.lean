import AiGateway.Monitor.System
import AiGateway.Types.Written
import Mathlib.Algebra.Order.BigOperators.Group.List

/-!
# The two forms of Retry-After

A provider that limits its clients says when to come back: in a number of seconds, or at
a date, which is written like `Wed, 21 Oct 2026 07:28:00 GMT`. `AsksFor` is what a value
of either form asks for.

The code reads dates with a format that has `GMT` for a word and leaves the offset from
UTC out of it. The date library needs an offset to tell the instant of a date, so it reads
no date by that format (`extractRetryAfter_eq`), and a provider that names a date is tried
again after the default wait (`restoreWait_of_isComingDate`).

`understood_iff` has all the values that are misread: the dates to come, and the numbers
with a sign, which the parser of numbers lets through.
-/

namespace AiGateway

/-! ### Dates -/

/-- The days of the years before a year, from the year 0 on. -/
def daysBeforeYear (year : ℤ) : ℤ :=
  365 * year + (year + 3) / 4 - (year + 99) / 100 + (year + 399) / 400

/-- The days of the months before a month. -/
def daysBeforeMonth (year : ℤ) (month : ℕ) : ℕ :=
  ((List.range (month - 1)).map fun m => Day.daysIn year (m + 1)).sum

/-- The days from the first of January 1970 to a date. -/
def Day.sinceEpoch (d : Day) : ℤ :=
  daysBeforeYear d.year + daysBeforeMonth d.year d.month + d.day - (daysBeforeYear 1970 + 1)

def weekdayName : ℕ → List Char
  | 0 => "Mon".toList
  | 1 => "Tue".toList
  | 2 => "Wed".toList
  | 3 => "Thu".toList
  | 4 => "Fri".toList
  | 5 => "Sat".toList
  | _ => "Sun".toList

def monthName : ℕ → List Char
  | 1 => "Jan".toList
  | 2 => "Feb".toList
  | 3 => "Mar".toList
  | 4 => "Apr".toList
  | 5 => "May".toList
  | 6 => "Jun".toList
  | 7 => "Jul".toList
  | 8 => "Aug".toList
  | 9 => "Sep".toList
  | 10 => "Oct".toList
  | 11 => "Nov".toList
  | _ => "Dec".toList

/-- An instant that can be written as an IMF-fixdate. A minute may end in a leap second. -/
structure ImfFixdate where
  date : Day
  hour : ℕ
  minute : ℕ
  second : ℕ
  exists_date : date.Exists
  year_nonneg : 0 ≤ date.year
  year_le : date.year ≤ 9999
  hour_lt : hour < 24
  minute_lt : minute < 60
  second_le : second ≤ 60

namespace ImfFixdate

/-- Monday is the first day of the week, and the epoch began on a Thursday. -/
def weekday (d : ImfFixdate) : ℕ := ((d.date.sinceEpoch + 3) % 7).toNat

/-- The IMF-fixdate of an instant. -/
def write (d : ImfFixdate) : List Char :=
  weekdayName d.weekday ++ ", ".toList ++
    Day.padded 2 d.date.day ++ ' ' :: monthName d.date.month ++
    ' ' :: Day.padded 4 d.date.year.natAbs ++
    ' ' :: Day.padded 2 d.hour ++ ':' :: Day.padded 2 d.minute ++
    ':' :: Day.padded 2 d.second ++ " GMT".toList

/-- The seconds from the epoch to the instant. -/
def timestamp (d : ImfFixdate) : ℤ :=
  d.date.sinceEpoch * 86400 + d.hour * 3600 + d.minute * 60 + d.second

/-- It begins with the name of a day. -/
theorem exists_write_eq_cons (d : ImfFixdate) :
    ∃ c cs, d.write = c :: cs ∧ c.isDigit = false ∧ c ≠ '+' := by
  have hname : ∀ n, ∃ c cs, weekdayName n = c :: cs ∧ c.isDigit = false ∧ c ≠ '+' := by
    intro n
    unfold weekdayName
    split <;> exact ⟨_, _, rfl, by decide, by decide⟩
  obtain ⟨c, cs, hcs, hdigit, hsign⟩ := hname d.weekday
  unfold write
  rw [hcs]
  exact ⟨c, _, rfl, hdigit, hsign⟩

theorem daysIn_le (year : ℤ) (month : ℕ) : Day.daysIn year month ≤ 31 := by
  unfold Day.daysIn
  split
  · split <;> omega
  all_goals omega

/-- The years of four digits are over long before the seconds run out of 64 bits. -/
theorem timestamp_le (d : ImfFixdate) : d.timestamp ≤ u64Max := by
  obtain ⟨-, ⟨-, hmonth⟩, -, hday⟩ := d.exists_date
  have hday' : d.date.day ≤ 31 := hday.trans (daysIn_le _ _)
  -- at most eleven months of 31 days
  have hmonths : daysBeforeMonth d.date.year d.date.month ≤ 11 * 31 := by
    have hsum := List.sum_le_card_nsmul
      ((List.range (d.date.month - 1)).map fun m => Day.daysIn d.date.year (m + 1)) 31
      (fun n hn => by
        obtain ⟨m, -, rfl⟩ := List.mem_map.mp hn
        exact daysIn_le _ _)
    rw [List.length_map, List.length_range, nsmul_eq_mul, Nat.cast_id] at hsum
    exact hsum.trans (Nat.mul_le_mul_right _ (by omega))
  -- and ten thousand years of 366
  have hyears : daysBeforeYear d.date.year ≤ 366 * 10000 := by
    have hnonneg := d.year_nonneg
    have hyear := d.year_le
    unfold daysBeforeYear
    omega
  have hepoch : 0 ≤ daysBeforeYear 1970 := by decide
  have hhour := d.hour_lt
  have hminute := d.minute_lt
  have hsecond := d.second_le
  unfold timestamp Day.sinceEpoch u64Max
  omega

end ImfFixdate

/-! ### What a value asks for -/

/-- A decimal number, written out. -/
def IsNumber (text : List Char) (n : ℕ) : Prop :=
  text ≠ [] ∧ (∀ c ∈ text, c.isDigit = true) ∧ Nat.ofDigitChars 10 text 0 = n

/-- A date that lies ahead. -/
def IsComingDate (now : ℕ) (text : List Char) : Prop :=
  ∃ d : ImfFixdate, d.write = text ∧ now < d.timestamp

/-- **What a value asks for**, at `now` seconds since the epoch: to wait for `n` seconds. -/
inductive AsksFor (now : ℕ) : List Char → U64 → Prop
  | seconds {text : List Char} {n : U64} : IsNumber text n.1 → AsksFor now text n
  | date {d : ImfFixdate} {n : U64} : now < d.timestamp → n.1 = (d.timestamp - now).toNat →
      AsksFor now d.write n

/-- **Retry-After is understood**: the code finds what the value asks for, and nothing where it
asks for nothing. -/
def Understood (parseHttpDate : List Char → Option DateTime) (now : ℕ)
    (header : Option (List UInt8)) : Prop :=
  ∀ n, extractRetryAfter parseHttpDate now header = some n ↔
    ∃ text, header.bind headerToStr = some text ∧ AsksFor now text n

/-! ### The date library -/

/-- The format the code reads dates with. -/
def retryAfterFormat : List Char := "%a, %d %b %Y %H:%M:%S GMT".toList

/-- A specifier, after its `%` and any modifiers, that gives the offset from UTC: the offset
itself, a whole timestamp, or the seconds since the epoch. -/
def isOffsetSpecifier : List Char → Bool
  | [] => false
  | c :: cs => "z+s".toList.contains c || "-_0:#".toList.contains c && isOffsetSpecifier cs

/-- A format gives the offset from UTC. -/
def suppliesOffset : List Char → Bool
  | [] => false
  | '%' :: '%' :: cs => suppliesOffset cs
  | '%' :: cs => isOffsetSpecifier cs || suppliesOffset cs
  | _ :: cs => suppliesOffset cs

/-- A word like `GMT` is text to the library. -/
theorem suppliesOffset_retryAfterFormat : suppliesOffset retryAfterFormat = false := by rfl

/-- `DateTime::parse_from_str` needs the offset. -/
def NeedsOffset (parseFromStr : List Char → List Char → Option DateTime) : Prop :=
  ∀ text format, suppliesOffset format = false → parseFromStr text format = none

/-! ### Reading -/

theorem ofDigits_of_parseDigits {cs : List Char} {acc n : U64} (h : parseDigits acc cs = some n) :
    (∀ c ∈ cs, c.isDigit = true) ∧ Nat.ofDigitChars 10 cs acc.1 = n.1 := by
  induction cs generalizing acc with
  | nil =>
    obtain rfl := Option.some.inj h
    exact ⟨by simp, Nat.ofDigitChars_nil⟩
  | cons c cs ih =>
    rw [parseDigits] at h
    split at h
    · next hdigit =>
      dsimp only at h
      split at h
      · next hfits =>
        obtain ⟨hdigits, hvalue⟩ := ih h
        refine ⟨List.forall_mem_cons.mpr ⟨hdigit, hdigits⟩, ?_⟩
        rw [Nat.ofDigitChars_cons, mul_comm]
        exact hvalue
      · cases h
    · cases h

/-- Digits are read as the number they spell. -/
theorem parseDigits_eq_some_iff {cs : List Char} {n : U64} (hne : cs ≠ []) :
    parseDigits ⟨0, Nat.zero_le _⟩ cs = some n ↔ IsNumber cs n.1 := by
  constructor
  · intro h
    exact ⟨hne, ofDigits_of_parseDigits h⟩
  · rintro ⟨-, hdigits, hvalue⟩
    have hle : Nat.ofDigitChars 10 cs 0 ≤ u64Max := hvalue ▸ n.2
    rw [parseDigits_eq hdigits ⟨0, Nat.zero_le _⟩ hle]
    exact congrArg some (Subtype.ext hvalue)

/-- A number is read with a sign before it or without. -/
theorem parseU64_eq_some_iff {cs : List Char} {n : U64} :
    parseU64 cs = some n ↔
      IsNumber cs n.1 ∨ ∃ digits, cs = '+' :: digits ∧ IsNumber digits n.1 := by
  -- the two forms exclude each other, as a sign is no digit
  have hsign : ∀ {digits}, ¬IsNumber ('+' :: digits) n.1 := fun h =>
    absurd (h.2.1 '+' List.mem_cons_self) (by decide)
  by_cases hplus : ∃ digits, cs = '+' :: digits
  · obtain ⟨digits, rfl⟩ := hplus
    rw [or_iff_right hsign]
    cases digits with
    | nil =>
      -- a sign without a number is neither
      refine iff_of_false (fun h => by cases h) ?_
      rintro ⟨digits, heq, hne, -⟩
      exact hne (List.cons.inj heq).2.symm
    | cons c digits =>
      have hread : parseU64 ('+' :: c :: digits) =
          parseDigits ⟨0, Nat.zero_le _⟩ (c :: digits) := rfl
      rw [hread, parseDigits_eq_some_iff (by simp)]
      exact ⟨fun h => ⟨_, rfl, h⟩, fun ⟨_, h, hn⟩ => (List.cons.inj h).2 ▸ hn⟩
  · rw [or_iff_left fun ⟨digits, h, _⟩ => hplus ⟨digits, h⟩]
    cases cs with
    | nil => exact iff_of_false (fun h => by cases h) (fun h => h.1 rfl)
    | cons c cs =>
      have hc : c ≠ '+' := fun h => hplus ⟨cs, by rw [h]⟩
      have hread : parseU64 (c :: cs) = parseDigits ⟨0, Nat.zero_le _⟩ (c :: cs) := by
        unfold parseU64
        split
        · next h => cases h
        · next h => exact absurd (List.cons.inj h).1 hc
        · next h => exact absurd (List.cons.inj h).1 hc
        · rfl
      rw [hread, parseDigits_eq_some_iff (by simp)]

section Library

variable {parseFromStr : List Char → List Char → Option DateTime}

/-- **No date is read**, so what is left of the parser is its first form. -/
theorem extractRetryAfter_eq (hoffset : NeedsOffset parseFromStr) (now : ℕ)
    (header : Option (List UInt8)) :
    extractRetryAfter (fun text => parseFromStr text retryAfterFormat) now header =
      (header.bind headerToStr).bind parseU64 := by
  unfold extractRetryAfter
  cases header.bind headerToStr with
  | none => rfl
  | some text =>
    dsimp only
    rw [Option.bind_some, hoffset text retryAfterFormat suppliesOffset_retryAfterFormat]
    cases parseU64 text <;> rfl

/-- A date to come asks for the seconds until then. -/
theorem exists_asksFor_of_isComingDate {now : ℕ} {text : List Char} (h : IsComingDate now text) :
    ∃ n, AsksFor now text n := by
  obtain ⟨d, rfl, hnow⟩ := h
  have hle := d.timestamp_le
  exact ⟨⟨(d.timestamp - now).toNat, by omega⟩, .date hnow rfl⟩

/-- A date is not read as a number. -/
theorem parseU64_write (d : ImfFixdate) : parseU64 d.write = none := by
  obtain ⟨c, cs, hcs, hdigit, hsign⟩ := d.exists_write_eq_cons
  refine Option.eq_none_iff_forall_ne_some.mpr fun n hn => ?_
  rw [hcs, parseU64_eq_some_iff] at hn
  -- it begins with a letter, which is neither a digit nor a sign
  rcases hn with ⟨-, hdigits, -⟩ | ⟨digits, heq, -⟩
  · rw [hdigits c List.mem_cons_self] at hdigit
    cases hdigit
  · exact hsign (List.cons.inj heq).1

/-- **A provider that names a date is tried again too early**: after the wait for those that name
no time at all. -/
theorem restoreWait_of_isComingDate (hoffset : NeedsOffset parseFromStr)
    {response : TooManyRequests} {text : List Char}
    (htext : response.retryAfter.bind headerToStr = some text)
    (hdate : IsComingDate response.now text) :
    restoreWait (response.event fun text => parseFromStr text retryAfterFormat) =
      (Duration.fromSecs defaultWaitSeconds.1 defaultWaitSeconds.2).checkedAdd rateLimitBuffer := by
  have hnone : (response.event fun text => parseFromStr text retryAfterFormat).retryAfterSeconds =
      none := by
    obtain ⟨d, rfl, -⟩ := hdate
    show extractRetryAfter _ response.now response.retryAfter = none
    rw [extractRetryAfter_eq hoffset, htext, Option.bind_some, parseU64_write]
  have hwait : ∀ event : RateLimitEvent, event.retryAfterSeconds = none → restoreWait event =
      (Duration.fromSecs defaultWaitSeconds.1 defaultWaitSeconds.2).checkedAdd rateLimitBuffer := by
    rintro ⟨_, _⟩ rfl
    rfl
  exact hwait _ hnone

/-- **When Retry-After is understood.** Unless it names a date to come, or puts a sign before its
number. -/
theorem understood_iff (hoffset : NeedsOffset parseFromStr) (now : ℕ)
    (header : Option (List UInt8)) :
    Understood (fun text => parseFromStr text retryAfterFormat) now header ↔
      ∀ text, header.bind headerToStr = some text → ¬IsComingDate now text ∧
        ∀ digits (n : U64), text = '+' :: digits → ¬IsNumber digits n.1 := by
  unfold Understood
  rw [extractRetryAfter_eq hoffset]
  cases header.bind headerToStr with
  | none => simp
  | some text =>
    -- the code reads digits, with or without a plus; the header may ask in seconds or by a date
    simp only [Option.bind_some, Option.some.injEq, exists_eq_left', forall_eq',
      parseU64_eq_some_iff]
    constructor
    · intro h
      refine ⟨fun hdate => ?_, fun digits n heq hn => ?_⟩
      · -- the date asks for a wait, but the code reads a number only
        obtain ⟨n, hn⟩ := exists_asksFor_of_isComingDate hdate
        obtain ⟨d, rfl, -⟩ := hdate
        have hread := parseU64_eq_some_iff.mpr ((h n).mpr hn)
        rw [parseU64_write] at hread
        cases hread
      · -- the code reads the number, but a value that begins with a sign asks for nothing
        have hasks := (h n).mp (Or.inr ⟨digits, heq, hn⟩)
        subst heq
        generalize hvalue : '+' :: digits = value at hasks
        cases hasks with
        | seconds hnumber =>
          subst hvalue
          exact absurd (hnumber.2.1 '+' List.mem_cons_self) (by decide)
        | @date d _ hnow hwait =>
          obtain ⟨c, cs, hcs, -, hsign⟩ := d.exists_write_eq_cons
          exact hsign (List.cons.inj (hvalue.trans hcs)).1.symm
    · rintro ⟨hdate, hsigned⟩ n
      constructor
      · rintro (hnumber | ⟨digits, heq, hnumber⟩)
        · exact .seconds hnumber
        · exact absurd hnumber (hsigned digits n heq)
      · intro hasks
        cases hasks with
        | seconds hnumber => exact Or.inl hnumber
        | @date d _ hnow hwait => exact absurd ⟨d, rfl, hnow⟩ hdate

end Library

/-- A number of seconds is understood. -/
theorem understood_iff_seconds :
    Understood (fun text => (fun _ _ => none : List Char → List Char → Option DateTime) text
      retryAfterFormat) 1792480000 (some ("120".toList.map fun c => UInt8.ofNat c.toNat)) :=
  (understood_iff (fun _ _ _ => rfl) 1792480000 _).mpr fun text htext => by
    obtain rfl : "120".toList = text := Option.some.inj
      ((by rfl : (some ("120".toList.map fun c => UInt8.ofNat c.toNat)).bind headerToStr =
        some "120".toList).symm.trans htext)
    refine ⟨?_, ?_⟩
    · rintro ⟨d, hwrite, -⟩
      obtain ⟨c, cs, hcs, hdigit, -⟩ := d.exists_write_eq_cons
      obtain rfl : c = '1' := (List.cons.inj (hcs.symm.trans hwrite)).1
      cases hdigit
    · intro digits n heq
      cases heq

/-! ### A date that is not read -/

/-- A morning in October. -/
def octoberMorning : ImfFixdate where
  date := ⟨2026, 10, 21⟩
  hour := 7
  minute := 28
  second := 0
  exists_date := by decide
  year_nonneg := by decide
  year_le := by decide
  hour_lt := Nat.le_of_ble_eq_true rfl
  minute_lt := Nat.le_of_ble_eq_true rfl
  second_le := Nat.le_of_ble_eq_true rfl

/-- **A date is not understood.** The evening before, a provider asks to be left alone until the
morning. -/
theorem date_not_understood : ¬ ∀ parseFromStr, NeedsOffset parseFromStr →
    ∀ (now : ℕ) (header : Option (List UInt8)),
      Understood (fun text => parseFromStr text retryAfterFormat) now header := by
  intro h
  have hwrite : octoberMorning.write = "Wed, 21 Oct 2026 07:28:00 GMT".toList := by decide +kernel
  have htimestamp : octoberMorning.timestamp = 1792567680 := by decide +kernel
  have hasks : AsksFor 1792520000 "Wed, 21 Oct 2026 07:28:00 GMT".toList
      ⟨47680, Nat.le_of_ble_eq_true rfl⟩ := by
    rw [← hwrite]
    refine .date ?_ ?_
    · rw [htimestamp]
      decide
    · rw [htimestamp]
      rfl
  have hread := (h (fun _ _ => none) (fun _ _ _ => rfl) 1792520000
    (some ("Wed, 21 Oct 2026 07:28:00 GMT".toList.map fun c => UInt8.ofNat c.toNat)) _).mpr
    ⟨_, by decide +kernel, hasks⟩
  exact absurd hread (by decide +kernel)

end AiGateway
