import CloudPlay.BillingSpecification
import CloudPlay.LeaseEnding

/-!
# Amounts that outgrow their columns

The amount of a lease is as wide as the price it is a multiple of, and nothing
checks the product before it is saved. How long a lease can run and still be ended
follows from its price. A lease that has run longer can never be ended, and no
ending of all leases of its node goes through. Instants lie in the range of `datetime`,
also a zone away.
-/

set_option autoImplicit false

namespace CloudPlay.AmountColumns
open ControlPlaneModels ControlPlaneDatabase LeaseLifecycle LeaseEnding BillingRules
open BillingSpecification GregorianMonths RoundedQuotient

/-- The range of a `PositiveIntegerField`. -/
def fitsInteger (n : ℕ) : Bool := n ≤ 2147483647

/-- `end_lease` saves the lease and its record. -/
def Endable (reason : String) (t : Instant) (l : Lease) (db : Database) : Prop :=
  ∃ l' db', endLease reason t l db = some (l',db') ∧ fitsInteger (l'.billedUnits.getD 0)

/-- The most units that fit the columns at a price. -/
def mostUnits (unitPrice : Money) : ℤ :=
  if unitPrice = 0 then 2147483647 else min 2147483647 ((1000000000000-1)/|unitPrice|)

/-- A period of at most `n` units: its seconds, also as the double has them, or its
months, the last of which ends before the month `n` after the first begins. -/
def Within (timeZone : Instant) (unit : BillingUnit) (startedAt endedAt : Instant) (n : ℤ) :
    Prop :=
  match unitSeconds unit with
  | some u => (endedAt-startedAt)/microseconds ≤ n*u ∧
      ¬ ((endedAt-startedAt)/microseconds = n*u ∧ roundsUp (endedAt-startedAt) microseconds)
  | none => endedAt ≤ monthBegins timeZone (monthIndex timeZone startedAt+n)

section Units
variable {timeZone s e n : ℤ} {unit : BillingUnit} {p : ℤ}

theorem seconds_within {u : ℤ} (hu : 0 < u) (hn : 1 ≤ n) (h : s ≤ e) :
    ((max 1 (ceilDiv (max (wholeSeconds s e) 0) u)).toNat : ℤ) ≤ n ↔
      (e-s)/microseconds ≤ n*u ∧
        ¬ ((e-s)/microseconds = n*u ∧ roundsUp (e-s) microseconds) := by
  have hpos : (0 : ℤ) < microseconds := by decide
  have hnonneg : 0 ≤ (e-s)/microseconds := Int.ediv_nonneg (by omega) hpos.le
  have hle : (e-s)/microseconds ≤ wholeSeconds s e := le_truncQuotient hpos
  rw [Int.toNat_of_nonneg (by omega), max_eq_left (by omega : 0 ≤ wholeSeconds s e), max_le_iff,
    ceilDiv_le_iff hu]
  calc 1 ≤ n ∧ wholeSeconds s e ≤ n*u ↔ wholeSeconds s e ≤ n*u := and_iff_right hn
    _ ↔ _ := truncQuotient_le_iff hpos

theorem before_month_iff {i t : ℤ} : monthIndex timeZone t < i ↔ t < monthBegins timeZone i := by
  rw [← not_le, ← not_le, ← le_localDay_iff]
  have hmonth := inMonth_iff.mpr (rfl : monthIndex timeZone t = monthIndex timeZone t)
  constructor
  · intro h hle
    have hlt := firstDay_strictMono.lt_iff_lt.mp (hle.trans_lt hmonth.2)
    exact h (Int.lt_add_one_iff.mp hlt)
  · intro h hle
    exact h ((firstDay_strictMono.monotone hle).trans hmonth.1)

theorem months_within (hn : 1 ≤ n) :
    ((max 1 (monthIndex timeZone (e-1)-monthIndex timeZone s+1)).toNat : ℤ) ≤ n ↔
      e ≤ monthBegins timeZone (monthIndex timeZone s+n) := by
  have hlast : monthIndex timeZone (e-1) < monthIndex timeZone s+n ↔
      e-1 < monthBegins timeZone (monthIndex timeZone s+n) := before_month_iff
  omega

theorem units_within (hn : 1 ≤ n) (h : s ≤ e) :
    (billedUnits timeZone unit s e : ℤ) ≤ n ↔ Within timeZone unit s e n := by
  unfold billedUnits Within
  cases hunit : unitSeconds unit with
  | some u => exact seconds_within (unitSeconds_pos hunit) hn h
  | none => exact months_within hn

theorem most_pos (hp : fitsColumn p = true) : 1 ≤ mostUnits p := by
  have hlt : |p| < 1000000000000 := of_decide_eq_true hp
  unfold mostUnits
  split
  · decide
  · rename_i hne
    have hone : 1 ≤ (1000000000000-1)/|p| := by
      rw [Int.le_ediv_iff_mul_le (abs_pos.mpr hne)]
      omega
    exact le_min (by decide) hone

/-- The product fits exactly when the units are not too many for the price. -/
theorem product_fits {k : ℕ} :
    fitsColumn (p*(k : ℤ)) = true ∧ fitsInteger k = true ↔ (k : ℤ) ≤ mostUnits p := by
  have habs : |(k : ℤ)| = k := abs_of_nonneg (Int.natCast_nonneg k)
  unfold fitsColumn fitsInteger mostUnits
  rw [decide_eq_true_iff, decide_eq_true_iff, abs_mul, habs]
  split
  · rename_i hzero
    rw [hzero, abs_zero, zero_mul]
    exact ⟨fun h => Nat.cast_le.mpr h.2,fun h => ⟨by decide,Nat.cast_le.mp h⟩⟩
  · rename_i hne
    have hproduct : |p| * (k : ℤ) < 1000000000000 ↔ (k : ℤ) ≤ (1000000000000-1)/|p| := by
      rw [Int.le_ediv_iff_mul_le (abs_pos.mpr hne), mul_comm]
      exact Int.le_sub_one_iff.symm
    rw [hproduct, le_min_iff, and_comm]
    exact and_congr_left fun _ => Nat.cast_le.symm

end Units

section Leases
variable {reason : String} {t : ℤ} {l : Lease} {db : Database}

theorem endable_iff (hopen : l.endedAt = none) : Endable reason t l db ↔
    fitsColumn (charge l t db.timeZone).amount = true ∧
      fitsInteger (charge l t db.timeZone).billedUnits = true := by
  constructor
  · rintro ⟨l', db', hend, hunits⟩
    rcases endLease_cases reason t hend with ⟨hover, -⟩ | ⟨-, rfl, -⟩
    · rw [hopen] at hover
      cases hover
    · have hbillable : Billable t db.timeZone l := by
        by_contra hnot
        rw [endLease_unbillable hnot] at hend
        cases hend
      refine ⟨hbillable.resolve_left ?_,hunits⟩
      rw [hopen]
      exact Bool.false_ne_true
  · rintro ⟨hamount, hunits⟩
    obtain ⟨l', db', hend⟩ := endLease_billable reason (Or.inr hamount : Billable t db.timeZone l)
    refine ⟨l',db',hend,?_⟩
    rcases endLease_cases reason t hend with ⟨hover, -⟩ | ⟨-, rfl, -⟩
    · rw [hopen] at hover
      cases hover
    · exact hunits

theorem charge_started {s : ℤ} (hstart : l.startedAt = some s) (h : s ≤ t) (timeZone : ℤ) :
    charge l t timeZone = ⟨billedUnits timeZone l.billingUnit s t,
      l.unitPrice.getD 0*(billedUnits timeZone l.billingUnit s t : ℤ)⟩ := by
  simp only [charge, hstart, computeBilling, not_lt.mpr h, if_false]

theorem amount_grows {s t' : ℤ} (hstart : l.startedAt = some s) (hst : s ≤ t) (htt : t ≤ t')
    (timeZone : ℤ) (hover : fitsColumn (charge l t timeZone).amount = false) :
    fitsColumn (charge l t' timeZone).amount = false := by
  rw [charge_started hstart hst] at hover
  rw [charge_started hstart (hst.trans htt)]
  have hunits : (billedUnits timeZone l.billingUnit s t : ℤ) ≤
      (billedUnits timeZone l.billingUnit s t' : ℤ) :=
    Nat.cast_le.mpr (billedUnits_mono timeZone l.billingUnit s htt)
  have habs : |l.unitPrice.getD 0*(billedUnits timeZone l.billingUnit s t : ℤ)| ≤
      |l.unitPrice.getD 0*(billedUnits timeZone l.billingUnit s t' : ℤ)| := by
    rw [abs_mul, abs_mul]
    apply mul_le_mul_of_nonneg_left _ (abs_nonneg _)
    exact abs_le_abs_of_nonneg (Int.natCast_nonneg _) hunits
  have hlarge := not_lt.mp (of_decide_eq_false hover)
  exact decide_eq_false (not_lt.mpr (hlarge.trans habs))

/-- Once the amount of an engaged lease has outgrown its column, its node can never be
marked offline again. -/
theorem outgrown_blocks {s t' : ℤ} {n : Node} (hn : db.nodes.get? l.deviceId = some n)
    (hl : l ∈ db.leases) (hengaged : l.engaged = true) (hopen : l.endedAt = none)
    (hstart : l.startedAt = some s) (hst : s ≤ t) (htt : t ≤ t')
    (hover : fitsColumn (charge l t db.timeZone).amount = false) :
    markNodeOfflineAndEndLeases l.deviceId reason t' db = none := by
  rw [markOffline_eq_none_iff, hn]
  refine ⟨by simp,fun hcovered => ?_⟩
  have hgrown := amount_grows hstart hst htt db.timeZone hover
  have hbillable := hcovered l hl rfl hengaged
  simp [Billable, hopen, hgrown] at hbillable

end Leases

/-- A started lease can be ended exactly as long as it has not run for more units than
its price leaves room for. -/
theorem endable_within (db : Database) (l : Lease) (hopen : l.endedAt = none) (s t : Instant)
    (hstart : l.startedAt = some s) (hst : s ≤ t)
    (hprice : fitsColumn (l.unitPrice.getD 0) = true) (reason : String) :
    Endable reason t l db ↔
      Within db.timeZone l.billingUnit s t (mostUnits (l.unitPrice.getD 0)) := by
  rw [endable_iff hopen, charge_started hstart hst, product_fits]
  exact units_within (most_pos hprice) hst

def dearLease (unitPrice : Money) : Lease where
  leaseId := 1
  user := 1
  deviceId := "node-1"
  status := .active
  billingUnit := .hour
  unitPrice := some unitPrice
  startedAt := some 0
  createdAt := 0

/-- An hour and a half at 20 an hour. -/
theorem two_hours_end : Endable "USER_RELEASE" 5400000000 (dearLease 200000) (Database.empty 0) :=
  (endable_within (Database.empty 0) (dearLease 200000) rfl 0 5400000000 rfl (by decide) (by decide)
    "USER_RELEASE").mpr ⟨by decide,fun h => absurd h.1 (by decide)⟩

/-- At the highest price that can be entered not even a second unit fits. -/
theorem dear_hours_stay : fitsColumn ((dearLease 999999999999).unitPrice.getD 0) = true ∧
    ¬ Endable "USER_RELEASE" 5400000000 (dearLease 999999999999) (Database.empty 0) := by
  refine ⟨by decide,?_⟩
  rintro ⟨l', db', hend, -⟩
  have hraises : endLease "USER_RELEASE" 5400000000 (dearLease 999999999999) (Database.empty 0) =
      none := by
    rw [endLease, if_neg (by decide)]
    exact if_neg (by decide)
  rw [hraises] at hend
  cases hend

end CloudPlay.AmountColumns
