import CloudPlay.ControlPlaneModels
import CloudPlay.RoundedQuotient

/-!
# Billing units

`control_plane/services/billing.py`. A period is charged by started units:
whole seconds for minute, hour, day and week, calendar months of the billing
zone for month. The zone is a fixed offset from UTC. The calendar is the
proleptic Gregorian one of Python's `datetime`, which finds year and month of
a day number by cutting off cycles of 400, 100, 4 and 1 years. A `datetime` lies in
the years 1 to 9999, and a month cannot be charged where that range is left.
-/

set_option autoImplicit false

namespace CloudPlay.BillingRules
open ControlPlaneModels

structure BillingResult (R : Type*) where
  billedUnits : ℕ
  amount : R
  deriving DecidableEq, Repr

/-- `_UNIT_SECONDS`; a month has no entry. -/
def unitSeconds : BillingUnit → Option ℤ
  | .minute => some 60
  | .hour => some 3600
  | .day => some 86400
  | .week => some 604800
  | .month => none

def ceilDiv (numerator denominator : ℤ) : ℤ := (numerator+denominator-1)/denominator

def microseconds : ℤ := 1000000

/-- `int((ended_at - started_at).total_seconds())` of a period that does not
run backwards. The seconds are a double. -/
def wholeSeconds (startedAt endedAt : Instant) : ℤ :=
  RoundedQuotient.truncQuotient (endedAt-startedAt) microseconds

/-- `_DAYS_BEFORE_MONTH` of a year that is not a leap year. -/
def daysBeforeMonth : ℤ → ℤ
  | 1 => 0
  | 2 => 31
  | 3 => 59
  | 4 => 90
  | 5 => 120
  | 6 => 151
  | 7 => 181
  | 8 => 212
  | 9 => 243
  | 10 => 273
  | 11 => 304
  | _ => 334

structure YearMonth where
  year : ℤ
  month : ℤ
  deriving DecidableEq, Repr

/-- Year and month of a proleptic Gregorian ordinal, day 1 being the first of
January of year 1. The month is first estimated and then lowered by one when
its first day lies after the given day. -/
def ord2ym (ordinal : ℤ) : YearMonth :=
  let n := ordinal-1
  let n400 := n/146097
  let n := n%146097
  let n100 := n/36524
  let n := n%36524
  let n4 := n/1461
  let n := n%1461
  let n1 := n/365
  let n := n%365
  let year := n400*400+n100*100+n4*4+n1+1
  if n1 = 4 ∨ n100 = 4 then ⟨year-1,12⟩
  else
    let month := (n+50)/32
    let leap : ℤ := if n1 = 3 ∧ (n4 ≠ 24 ∨ n100 = 3) ∧ 2 < month then 1 else 0
    if n < daysBeforeMonth month+leap then ⟨year,month-1⟩ else ⟨year,month⟩

def epochOrdinal : ℤ := 719163

/-- `timezone.localtime` in a zone `tz` microseconds ahead of UTC. -/
def localYearMonth (tz t : Instant) : YearMonth :=
  ord2ym ((t+tz)/(86400*microseconds)+epochOrdinal)

/-- `year * 12 + month` of the local date. -/
def monthIndex (tz t : Instant) : ℤ :=
  (localYearMonth tz t).year*12+(localYearMonth tz t).month

/-- The units of a period with `startedAt ≤ endedAt`. The end is exclusive: a
month is counted up to the last microsecond before it. -/
def billedUnits (tz : Instant) (unit : BillingUnit) (startedAt endedAt : Instant) : ℕ :=
  match unitSeconds unit with
  | some seconds => (max 1 (ceilDiv (max (wholeSeconds startedAt endedAt) 0) seconds)).toNat
  | none => (max 1 (monthIndex tz (endedAt-1)-monthIndex tz startedAt+1)).toNat

/-- The first and the last instant of `datetime`. -/
def minDatetime : Instant := (1-epochOrdinal)*(86400*microseconds)

def maxDatetime : Instant := (3652060-epochOrdinal)*(86400*microseconds)-1

/-- `localtime` raises OverflowError for an instant that is out of the range of `datetime`
in UTC or in the zone. -/
def localtimeFits (tz t : Instant) : Bool :=
  minDatetime ≤ t && t ≤ maxDatetime && minDatetime ≤ t+tz && t+tz ≤ maxDatetime

/-- The instants of the months of a period. -/
def monthsFit (tz s e : Instant) : Bool := localtimeFits tz s && localtimeFits tz (e-1)

/-- `compute_billing` where it does not raise. -/
def computeBilling {R : Type*} [Semiring R] (tz : Instant) (startedAt endedAt : Option Instant)
    (unit : BillingUnit) (unitPrice : R) : BillingResult R :=
  match startedAt, endedAt with
  | some s, some e =>
    if e < s then ⟨0,0⟩
    else ⟨billedUnits tz unit s e,unitPrice*(billedUnits tz unit s e : R)⟩
  | _, _ => ⟨0,0⟩

/-- `compute_billing` with its OverflowError. -/
def computeBilling? {R : Type*} [Semiring R] (tz : Instant) (startedAt endedAt : Option Instant)
    (unit : BillingUnit) (unitPrice : R) : Option (BillingResult R) :=
  match startedAt, endedAt with
  | some s, some e =>
    if s ≤ e ∧ unit = .month ∧ monthsFit tz s e = false then none
    else some (computeBilling tz startedAt endedAt unit unitPrice)
  | _, _ => some (computeBilling tz startedAt endedAt unit unitPrice)

theorem computeBilling_fits {R : Type*} [Semiring R] {tz s e : Instant} {unit : BillingUnit}
    (unitPrice : R) (h : s ≤ e) (hfits : unit = .month → monthsFit tz s e = true) :
    computeBilling? tz (some s) (some e) unit unitPrice =
      some ⟨billedUnits tz unit s e,unitPrice*(billedUnits tz unit s e : R)⟩ := by
  have hfit : ¬ (s ≤ e ∧ unit = .month ∧ monthsFit tz s e = false) := by
    rintro ⟨-, hunit, hf⟩
    rw [hfits hunit] at hf
    cases hf
  simp only [computeBilling?, if_neg hfit, computeBilling, if_neg (not_lt.mpr h)]

theorem computeBilling_backwards {R : Type*} [Semiring R] (tz s e : Instant)
    (unit : BillingUnit) (p : R) (h : e < s) :
    computeBilling tz (some s) (some e) unit p = ⟨0,0⟩ := by
  simp [computeBilling, h]

theorem billedUnits_pos (tz : Instant) (unit : BillingUnit) (s e : Instant) :
    1 ≤ billedUnits tz unit s e := by
  unfold billedUnits
  split <;> omega

/-- A month that begins with the year 1 in a zone behind UTC. -/
example : computeBilling? (-3600000000) (some minDatetime) (some (minDatetime+1)) .month (1 : ℤ) =
    none := by decide

example : ord2ym 719163 = ⟨1970,1⟩ := by decide
example : ord2ym 730179 = ⟨2000,2⟩ := by decide
example : ord2ym 730180 = ⟨2000,3⟩ := by decide

end CloudPlay.BillingRules
