import AiGateway.Types.Provider
import AiGateway.Framework.RustStd
import Mathlib.Tactic.Common

/-!
# The Retry-After header

`extract_retry_after` of `dispatcher/service.rs`, on the bytes an upstream sent,
and the event a rate limited response becomes. The parser of HTTP dates is the
parameter `parseHttpDate`.

`extractRetryAfter_gt_iff` is what the monitors need to know: only a number of
seconds, written out, can lie beyond every date.
-/

namespace AiGateway

/-- A `u64`. -/
abbrev U64 := { n : ℕ // n ≤ u64Max }

/-! ### Parsing -/

/-- `HeaderValue::to_str`: visible ASCII and tabs only. -/
def headerToStr (value : List UInt8) : Option (List Char) :=
  if value.all fun b => decide (32 ≤ b ∧ b < 127) || b = 9 then
    some (value.map fun b => Char.ofNat b.toNat)
  else none

/-- The digits of a `u64`, read with checked arithmetic. -/
def parseDigits (acc : U64) : List Char → Option U64
  | [] => some acc
  | c :: cs =>
    if c.isDigit then
      let value := acc.1 * 10 + (c.toNat - '0'.toNat)
      if h : value ≤ u64Max then parseDigits ⟨value, h⟩ cs else none
    else none

/-- `str::parse::<u64>`: at least one digit, after an optional sign. -/
def parseU64 : List Char → Option U64
  | [] => none
  | ['+'] => none
  | '+' :: cs => parseDigits ⟨0, Nat.zero_le _⟩ cs
  | cs => parseDigits ⟨0, Nat.zero_le _⟩ cs

/-- Digits that spell a `u64` are read as it. -/
theorem parseDigits_eq {cs : List Char} (hdigit : ∀ c ∈ cs, c.isDigit) (acc : U64)
    (hle : Nat.ofDigitChars 10 cs acc.1 ≤ u64Max) :
    parseDigits acc cs = some ⟨Nat.ofDigitChars 10 cs acc.1, hle⟩ := by
  -- what has been read never gets smaller
  have hgrow : ∀ (cs : List Char) (n : ℕ), n ≤ Nat.ofDigitChars 10 cs n := by
    intro cs
    induction cs with
    | nil => exact fun n => le_of_eq Nat.ofDigitChars_nil.symm
    | cons c cs ih =>
      intro n
      rw [Nat.ofDigitChars_cons]
      exact le_trans (by omega) (ih _)
  induction cs generalizing acc with
  | nil => rfl
  | cons c cs ih =>
    obtain ⟨hc, hcs⟩ := List.forall_mem_cons.mp hdigit
    simp only [Nat.ofDigitChars_cons, mul_comm 10] at hle ⊢
    have hvalue : acc.1 * 10 + (c.toNat - '0'.toNat) ≤ u64Max := (hgrow cs _).trans hle
    rw [parseDigits, if_pos hc]
    dsimp only
    rw [dif_pos hvalue]
    exact ih hcs ⟨_, hvalue⟩ hle

/-- Where there are digits only, there is no sign. -/
theorem parseU64_of_digits {cs : List Char} (hne : cs ≠ []) (hdigit : ∀ c ∈ cs, c.isDigit) :
    parseU64 cs = parseDigits ⟨0, Nat.zero_le _⟩ cs := by
  have hsign : '+' ∉ cs := fun hmem => absurd (hdigit '+' hmem) (by decide)
  unfold parseU64
  split
  · exact absurd rfl hne
  · exact absurd List.mem_cons_self hsign
  · exact absurd List.mem_cons_self hsign
  · rfl

/-- **A number that is written out is read again.** -/
theorem parseU64_toDigits (n : U64) : parseU64 (Nat.toDigits 10 n.1) = some n := by
  have hdigit : ∀ c ∈ Nat.toDigits 10 n.1, c.isDigit := fun c hc =>
    Nat.isDigit_of_mem_toDigits (by decide) (by decide) hc
  have hvalue : Nat.ofDigitChars 10 (Nat.toDigits 10 n.1) 0 = n.1 := Nat.ofDigitChars_ten_toDigits
  rw [parseU64_of_digits Nat.toDigits_ne_nil hdigit,
    parseDigits_eq hdigit ⟨0, Nat.zero_le _⟩ (by rw [hvalue]; exact n.2)]
  exact congrArg some (Subtype.ext hvalue)

/-- A point in time, of which the code uses the seconds since the epoch. -/
structure DateTime where
  timestamp : ℤ
  min_le : -8334601228800 ≤ timestamp
  le_max : timestamp ≤ 8210266876799

/-- The seconds from `now` to a date; none for a date that has passed. A date
before the epoch counts as the epoch. -/
def secondsUntil (date : DateTime) (now : ℕ) : Option U64 :=
  let target := date.timestamp.toNat
  if now < target then
    some ⟨target - now, by
      have hmax := date.le_max
      unfold u64Max
      omega⟩
  else none

variable (parseHttpDate : List Char → Option DateTime)

/-- `extract_retry_after`, at `now` seconds since the epoch. -/
def extractRetryAfter (now : ℕ) (header : Option (List UInt8)) : Option U64 :=
  match header.bind headerToStr with
  | none => none
  | some retryAfterStr =>
    match parseU64 retryAfterStr with
    | some seconds => some seconds
    | none =>
      match parseHttpDate retryAfterStr with
      | some date => secondsUntil date now
      | none => none

/-! ### What it can return -/

theorem secondsUntil_le {date : DateTime} {now : ℕ} {r : U64} (h : secondsUntil date now = some r) :
    r.1 ≤ 8210266876799 := by
  have hmax := date.le_max
  unfold secondsUntil at h
  dsimp only at h
  split at h
  · obtain rfl := Option.some.inj h
    dsimp only
    omega
  · cases h

/-- The header spells out a number of seconds above `bound`. -/
def SpellsAbove (bound : ℕ) (header : Option (List UInt8)) : Prop :=
  ∃ cs r, header.bind headerToStr = some cs ∧ parseU64 cs = some r ∧ bound < r.1

/-- **Dates are never far.** A waiting time beyond the last date is one the
header spells out. -/
theorem extractRetryAfter_gt_iff {bound : ℕ} (hbound : 8210266876799 ≤ bound) (now : ℕ)
    (header : Option (List UInt8)) :
    (∃ r, extractRetryAfter parseHttpDate now header = some r ∧ bound < r.1) ↔
      SpellsAbove bound header := by
  unfold SpellsAbove
  constructor
  · rintro ⟨r, hr, hlt⟩
    unfold extractRetryAfter at hr
    -- the header is text, a number is returned as it is, and a date lies before the last one
    cases hstr : header.bind headerToStr with
    | none => rw [hstr] at hr; cases hr
    | some cs =>
      rw [hstr] at hr
      dsimp only at hr
      cases hnum : parseU64 cs with
      | some seconds =>
        rw [hnum] at hr
        obtain rfl := Option.some.inj hr
        exact ⟨cs, seconds, rfl, hnum, hlt⟩
      | none =>
        rw [hnum] at hr
        dsimp only at hr
        cases hdate : parseHttpDate cs with
        | none => rw [hdate] at hr; cases hr
        | some date =>
          rw [hdate] at hr
          exact absurd (secondsUntil_le hr) (by omega)
  · rintro ⟨cs, r, hstr, hnum, hlt⟩
    refine ⟨r, ?_, hlt⟩
    unfold extractRetryAfter
    rw [hstr]
    dsimp only
    rw [hnum]

/-! ### The event -/

/-- `RateLimitEvent`. -/
structure RateLimitEvent where
  apiEndpoint : ApiEndpoint
  retryAfterSeconds : Option U64

/-- A response with status 429, as far as the event made from it depends on it:
the endpoint, the header, and the clock, in seconds since the epoch. -/
structure TooManyRequests where
  apiEndpoint : ApiEndpoint
  retryAfter : Option (List UInt8)
  now : ℕ

/-- The event of a 429. -/
def TooManyRequests.event (response : TooManyRequests) : RateLimitEvent where
  apiEndpoint := response.apiEndpoint
  retryAfterSeconds := extractRetryAfter parseHttpDate response.now response.retryAfter

end AiGateway
