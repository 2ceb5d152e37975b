import CloudPlay.BillingRules
import CloudPlay.GregorianMonths
import Mathlib.Data.Set.Card

/-!
# What a period costs

The months of a period are those of the calendar that meet it. Whole seconds
are those of a double, which has them exactly for periods of up to 544 years.
-/

set_option autoImplicit false

namespace CloudPlay.BillingSpecification
open ControlPlaneModels BillingRules GregorianMonths RoundedQuotient

section Calendar
variable {year m r : ℤ}

def indexOf (ym : YearMonth) : ℤ := ym.year*12+ym.month

theorem yearOf_index (h1 : 1 ≤ m) (h12 : m ≤ 12) : yearOf (year*12+m) = year := by
  unfold yearOf
  omega

theorem monthOf_index (h1 : 1 ≤ m) (h12 : m ≤ 12) : monthOf (year*12+m) = m := by
  unfold monthOf
  omega

theorem firstDay_index (h1 : 1 ≤ m) (h12 : m ≤ 12) : firstDay (year*12+m) =
    daysBeforeYear year+daysBefore m+(if isLeap year ∧ 2 < m then 1 else 0)+1 := by
  rw [firstDay, yearOf_index h1 h12, monthOf_index h1 h12]

theorem daysBeforeMonth_eq (h1 : 1 ≤ m) (h12 : m ≤ 12) : daysBeforeMonth m = daysBefore m := by
  interval_cases m <;> rfl

/-- The month that `ord2ym` settles on within a year. -/
def settleMonth (leapYear : Prop) [Decidable leapYear] (n : ℤ) : ℤ :=
  let month := (n+50)/32
  let leap : ℤ := if leapYear ∧ 2 < month then 1 else 0
  if n < daysBeforeMonth month+leap then month-1 else month

theorem estimate_early (h1 : 2 ≤ m) (h12 : m ≤ 12) : daysBefore (m-1)+1 ≤ 32*m-50 := by
  interval_cases m <;> decide

theorem estimate_late (h1 : 1 ≤ m) (h12 : m < 12) : 32*m-19 < daysBefore (m+1) := by
  interval_cases m <;> decide

/-- The estimate is at most one month too late. -/
theorem settleMonth_spec (year : ℤ) (h0 : 0 ≤ r) (h364 : r ≤ 364) :
    let m := settleMonth (isLeap year) r
    (1 ≤ m ∧ m ≤ 12) ∧ firstDay (year*12+m) ≤ daysBeforeYear year+r+1 ∧
      daysBeforeYear year+r+1 < firstDay (year*12+m+1) := by
  have hspec : ∀ m, 1 ≤ m → m ≤ 12 →
      daysBefore m+(if isLeap year ∧ 2 < m then 1 else 0) ≤ r →
      (m < 12 → r < daysBefore (m+1)+(if isLeap year ∧ 2 < m+1 then 1 else 0)) →
      firstDay (year*12+m) ≤ daysBeforeYear year+r+1 ∧
        daysBeforeYear year+r+1 < firstDay (year*12+m+1) := by
    intro m h1 h12 hle hlt
    refine ⟨by rw [firstDay_index h1 h12]; omega,?_⟩
    by_cases hm : m < 12
    · have h := hlt hm
      rw [add_assoc (year*12) m 1, firstDay_index (by omega) (by omega)]
      omega
    · have hnext : year*12+m+1 = (year+1)*12+1 := by omega
      rw [hnext, firstDay_index (by decide) (by decide), daysBeforeYear_succ]
      have hfirst : daysBefore 1 = 0 := rfl
      split_ifs <;> omega
  obtain ⟨q, hq⟩ : ∃ q, (r+50)/32 = q := ⟨_,rfl⟩
  have hq1 : 1 ≤ q ∧ q ≤ 12 := by omega
  have hleap : ∀ m : ℤ, (if isLeap year ∧ 2 < m then (1 : ℤ) else 0) = 0 ∨
      (if isLeap year ∧ 2 < m then (1 : ℤ) else 0) = 1 := fun m => by split <;> simp
  simp only [settleMonth, hq, daysBeforeMonth_eq hq1.1 hq1.2]
  by_cases hlt : r < daysBefore q+(if isLeap year ∧ 2 < q then 1 else 0)
  · rw [if_pos hlt]
    have hq2 : 2 ≤ q := by
      by_contra hsmall
      obtain rfl : q = 1 := by omega
      rw [show daysBefore 1 = 0 from rfl, if_neg (fun h => absurd h.2 (by decide))] at hlt
      omega
    have hearly := estimate_early hq2 hq1.2
    have hprev := hleap (q-1)
    refine ⟨by omega,hspec (q-1) (by omega) (by omega) (by omega) ?_⟩
    rw [Int.sub_add_cancel]
    exact fun _ => hlt
  · rw [if_neg hlt]
    refine ⟨hq1,hspec q hq1.1 hq1.2 (by omega) fun h12 => ?_⟩
    have hlate := estimate_late hq1.1 h12
    have hnext := hleap (q+1)
    omega

/-- A day number cut into cycles of 400, 100, 4 and 1 years. -/
theorem cycles (n : ℤ) : ∃ n400 n100 n4 n1 r : ℤ,
    n400 = n/146097 ∧ n100 = n%146097/36524 ∧ n4 = n%146097%36524/1461 ∧
      n1 = n%146097%36524%1461/365 ∧ r = n%146097%36524%1461%365 ∧
    n = 146097*n400+36524*n100+1461*n4+365*n1+r ∧
    (0 ≤ n100 ∧ 0 ≤ n4 ∧ 0 ≤ n1 ∧ 0 ≤ r ∧ r < 365 ∧ 365*n1+r < 1461 ∧
      1461*n4+365*n1+r < 36524 ∧ 36524*n100+1461*n4+365*n1+r < 146097) := by
  refine ⟨_,_,_,_,_,rfl,rfl,rfl,rfl,rfl,?_,?_⟩ <;> omega

/-- The month `ord2ym` finds is the one the day lies in. -/
theorem ord2ym_spec (n : ℤ) :
    firstDay (indexOf (ord2ym n)) ≤ n ∧ n < firstDay (indexOf (ord2ym n)+1) := by
  obtain ⟨n400, n100, n4, n1, r, h400, h100, h4, h1, hr, hn, hb⟩ := cycles (n-1)
  simp only [ord2ym, ← h400, ← h100, ← h4, ← h1, ← hr]
  clear h400 h100 h4 h1 hr
  set year := n400*400+n100*100+n4*4+n1+1 with hyear
  by_cases hlast : n1 = 4 ∨ n100 = 4
  · have hnext : (year-1)*12+12+1 = year*12+1 := by omega
    have hday : n = daysBeforeYear year := by
      unfold daysBeforeYear
      omega
    have hstart := firstDay_succ ((year-1)*12+12)
    have hlength := monthLength_pos ((year-1)*12+12)
    have hjan : firstDay ((year-1)*12+12+1) = n+1 := by
      rw [hnext, firstDay_index (by decide) (by decide), hday,
        if_neg (fun h => absurd h.2 (by decide))]
      exact congrArg (· + 1) (by rw [show daysBefore 1 = 0 from rfl]; omega)
    rw [if_pos hlast]
    show firstDay ((year-1)*12+12) ≤ n ∧ n < firstDay ((year-1)*12+12+1)
    omega
  · have hday : n = daysBeforeYear year+r+1 := by
      unfold daysBeforeYear
      omega
    have hleap : isLeap year ↔ n1 = 3 ∧ (n4 ≠ 24 ∨ n100 = 3) := by
      unfold isLeap
      omega
    have hindex : indexOf (if n1 = 4 ∨ n100 = 4 then ⟨year-1,12⟩
        else if r < daysBeforeMonth ((r+50)/32)+
            (if n1 = 3 ∧ (n4 ≠ 24 ∨ n100 = 3) ∧ 2 < (r+50)/32 then 1 else 0)
          then ⟨year,(r+50)/32-1⟩ else ⟨year,(r+50)/32⟩) =
        year*12+settleMonth (isLeap year) r := by
      have hcond : (if n1 = 3 ∧ (n4 ≠ 24 ∨ n100 = 3) ∧ 2 < (r+50)/32 then (1 : ℤ) else 0) =
          if isLeap year ∧ 2 < (r+50)/32 then 1 else 0 :=
        if_congr (by rw [hleap, and_assoc]) rfl rfl
      rw [if_neg hlast, hcond]
      simp only [settleMonth, indexOf]
      split_ifs <;> rfl
    have hspec := (settleMonth_spec year hb.2.2.2.1 (by omega)).2
    rw [← hday] at hspec
    rw [hindex]
    exact hspec

end Calendar

section Months
variable {tz s e t : Instant} {i : ℤ}

/-- The number of the local day of an instant. -/
def localDay (tz t : Instant) : ℤ := (t+tz)/(86400*microseconds)+epochOrdinal

/-- The months that meet the half-open period. -/
def monthsMeeting (tz s e : Instant) : Set ℤ :=
  {i | ∃ t, s ≤ t ∧ t < e ∧ firstDay i ≤ localDay tz t ∧ localDay tz t < firstDay (i+1)}

theorem inMonth_iff :
    firstDay i ≤ localDay tz t ∧ localDay tz t < firstDay (i+1) ↔ monthIndex tz t = i := by
  have hspec := ord2ym_spec (localDay tz t)
  constructor
  · intro h
    exact month_unique hspec h
  · rintro rfl
    exact hspec

theorem localDay_mono (h : s ≤ e) : localDay tz s ≤ localDay tz e :=
  Int.add_le_add_right (Int.ediv_le_ediv (by decide) (Int.add_le_add_right h tz)) _

theorem monthIndex_mono (tz : Instant) (h : s ≤ e) : monthIndex tz s ≤ monthIndex tz e := by
  have hs := inMonth_iff.mpr (rfl : monthIndex tz s = monthIndex tz s)
  have he := inMonth_iff.mpr (rfl : monthIndex tz e = monthIndex tz e)
  have hlt := firstDay_strictMono.lt_iff_lt.mp ((hs.1.trans (localDay_mono h)).trans_lt he.2)
  omega

/-- The first instant of a month. -/
def monthBegins (tz : Instant) (i : ℤ) : Instant :=
  (firstDay i-epochOrdinal)*(86400*microseconds)-tz

theorem localDay_monthBegins (tz : Instant) (i : ℤ) :
    localDay tz (monthBegins tz i) = firstDay i := by
  unfold localDay monthBegins
  rw [Int.sub_add_cancel, Int.mul_ediv_cancel _ (by decide), Int.sub_add_cancel]

theorem monthIndex_monthBegins (tz : Instant) (i : ℤ) : monthIndex tz (monthBegins tz i) = i := by
  refine inMonth_iff.mp ?_
  rw [localDay_monthBegins]
  exact ⟨le_rfl,firstDay_strictMono (Int.lt_succ i)⟩

theorem le_localDay_iff : firstDay i ≤ localDay tz t ↔ monthBegins tz i ≤ t := by
  have hpos : (0 : ℤ) < 86400*microseconds := by decide
  unfold localDay monthBegins
  rw [← sub_le_iff_le_add, Int.le_ediv_iff_mul_le hpos]
  exact sub_le_iff_le_add.symm

/-- The months of a period are those from its first instant to its last. -/
theorem monthsMeeting_eq (h : s < e) :
    monthsMeeting tz s e = Set.Icc (monthIndex tz s) (monthIndex tz (e-1)) := by
  ext i
  constructor
  · rintro ⟨t, hs, he, ht⟩
    obtain rfl := inMonth_iff.mp ht
    exact ⟨monthIndex_mono tz hs,monthIndex_mono tz (Int.le_sub_one_of_lt he)⟩
  · rintro ⟨hs, he⟩
    rcases hs.lt_or_eq with hlt | heq
    · refine ⟨monthBegins tz i,?_,?_,inMonth_iff.mpr (monthIndex_monthBegins tz i)⟩
      · by_contra hbefore
        have hle := monthIndex_mono tz (not_le.mp hbefore).le
        rw [monthIndex_monthBegins] at hle
        omega
      · refine Int.lt_of_le_sub_one (le_localDay_iff.mp ?_)
        exact (firstDay_strictMono.monotone he).trans (inMonth_iff.mpr rfl).1
    · exact ⟨s,le_rfl,h,inMonth_iff.mpr heq⟩

theorem monthsMeeting_ncard (h : s < e) :
    ((monthsMeeting tz s e).ncard : ℤ) = monthIndex tz (e-1)-monthIndex tz s+1 := by
  have hle := monthIndex_mono tz (Int.le_sub_one_of_lt h)
  rw [monthsMeeting_eq h, ← Finset.coe_Icc, Set.ncard_coe_finset, Int.card_Icc]
  omega

theorem month_units (h : s ≤ e) :
    billedUnits tz .month s e = max 1 (monthsMeeting tz s e).ncard := by
  show (max 1 (monthIndex tz (e-1)-monthIndex tz s+1)).toNat = _
  rcases h.lt_or_eq with hlt | heq
  · rw [← monthsMeeting_ncard hlt]
    omega
  · have hempty : monthsMeeting tz s e = ∅ := by
      ext i
      refine iff_of_false ?_ (Set.notMem_empty i)
      rintro ⟨t, hs, he, -⟩
      exact absurd (hs.trans_lt he) (heq ▸ lt_irrefl s)
    have hle := monthIndex_mono tz (show e-1 ≤ s from heq ▸ Int.sub_le_self s (by decide))
    rw [hempty, Set.ncard_empty]
    omega

end Months

section Seconds
variable {s e : Instant} {n u : ℤ}

theorem ceilDiv_le_iff (hu : 0 < u) {k : ℤ} : ceilDiv n u ≤ k ↔ n ≤ k*u := by
  unfold ceilDiv
  rw [← Int.lt_add_one_iff, Int.ediv_lt_iff_lt_mul hu, add_mul]
  omega

/-- The units of a number of seconds are the least that cover them. -/
theorem seconds_units (hu : 0 < u) :
    IsLeast {k : ℕ | 1 ≤ k ∧ n ≤ k*u} (max 1 (ceilDiv (max n 0) u)).toNat := by
  have hnonneg : 0 ≤ ceilDiv (max n 0) u := by
    by_contra hneg
    have hle := (ceilDiv_le_iff (n := max n 0) (k := -1) hu).mp (by omega)
    omega
  constructor
  · refine ⟨by omega,?_⟩
    have hcover := (ceilDiv_le_iff (n := max n 0) (k := max 1 (ceilDiv (max n 0) u)) hu).mp
      (le_max_right _ _)
    rw [Int.toNat_of_nonneg (by omega)]
    omega
  · rintro k ⟨h1, hk⟩
    have hzero : 0 ≤ (k : ℤ)*u := Int.mul_nonneg (Int.natCast_nonneg k) hu.le
    have hle := (ceilDiv_le_iff (n := max n 0) (k := k) hu).mpr (by omega)
    omega

theorem wholeSeconds_eq (h : s ≤ e) (hshort : e-s < 2^34*microseconds) :
    wholeSeconds s e = (e-s)/microseconds := by
  refine truncQuotient_eq (by decide) ?_
  have hq : ((e-s)/microseconds).toNat < 2^34 := by
    have hlt : (e-s)/microseconds < 2^34 := (Int.ediv_lt_iff_lt_mul (by decide)).mpr hshort
    have hnonneg : 0 ≤ (e-s)/microseconds := Int.ediv_nonneg (Int.sub_nonneg.mpr h) (by decide)
    exact (Int.toNat_lt hnonneg).mpr (by exact_mod_cast hlt)
  have hlog : Nat.log2 ((e-s)/microseconds).toNat ≤ 33 := by
    by_cases hzero : ((e-s)/microseconds).toNat = 0
    · rw [hzero]
      decide
    · exact Nat.lt_succ_iff.mp ((Nat.log2_lt hzero).mpr hq)
  have hbits : 19 ≤ fractionBits ((e-s)/microseconds) := by
    unfold fractionBits
    split <;> omega
  calc microseconds < 2*2^19 := by decide
    _ ≤ 2*2^fractionBits ((e-s)/microseconds) :=
      Int.mul_le_mul_of_nonneg_left (pow_le_pow_right₀ (by decide) hbits) (by decide)

theorem wholeSeconds_mono {e' : Instant} (h : e ≤ e') : wholeSeconds s e ≤ wholeSeconds s e' :=
  truncQuotient_mono (by decide) (Int.sub_le_sub_right h s)

theorem units_mono (hu : 0 < u) {n' : ℤ} (h : n ≤ n') :
    (max 1 (ceilDiv (max n 0) u)).toNat ≤ (max 1 (ceilDiv (max n' 0) u)).toNat := by
  have hle : ceilDiv (max n 0) u ≤ ceilDiv (max n' 0) u := by
    refine (ceilDiv_le_iff hu).mpr ?_
    have hcover := (ceilDiv_le_iff (n := max n' 0) (u := u) hu).mp le_rfl
    omega
  omega

theorem unitSeconds_pos {unit : BillingUnit} (h : unitSeconds unit = some u) : 0 < u := by
  cases unit <;> cases h <;> decide

end Seconds

theorem billedUnits_mono (tz : Instant) (unit : BillingUnit) (s : Instant) {e e' : Instant}
    (h : e ≤ e') : billedUnits tz unit s e ≤ billedUnits tz unit s e' := by
  unfold billedUnits
  split
  · rename_i u hu
    exact units_mono (unitSeconds_pos hu) (wholeSeconds_mono h)
  · have hle := monthIndex_mono tz (Int.sub_le_sub_right h 1)
    omega

/-- What `compute_billing` charges for a period that does not run backwards and whose months
can be told: the least number of units that cover its seconds, or the months it meets, and
no less for a later end. -/
theorem billing_meets {R : Type*} [Semiring R] (tz s e : Instant) (hse : s ≤ e)
    (unit : BillingUnit) (unitPrice : R) (hfits : unit = .month → monthsFit tz s e = true) :
    ∃ result, computeBilling? tz (some s) (some e) unit unitPrice = some result ∧
      (∀ u, unitSeconds unit = some u →
        IsLeast {n : ℕ | 1 ≤ n ∧ wholeSeconds s e ≤ n*u} result.billedUnits) ∧
      ((e-s)/microseconds ≤ wholeSeconds s e ∧ wholeSeconds s e ≤ (e-s)/microseconds+1 ∧
        (e-s < 2^34*microseconds → wholeSeconds s e = (e-s)/microseconds)) ∧
      (unit = .month → result.billedUnits = max 1 (monthsMeeting tz s e).ncard) ∧
      result.amount = unitPrice*(result.billedUnits : R) ∧
      ∀ e', e ≤ e' → (unit = .month → monthsFit tz s e' = true) →
        ∃ later, computeBilling? tz (some s) (some e') unit unitPrice = some later ∧
          result.billedUnits ≤ later.billedUnits := by
  refine ⟨_,computeBilling_fits unitPrice hse hfits,fun u hu => ?_,⟨le_truncQuotient (by decide),
    truncQuotient_le (by decide),wholeSeconds_eq hse⟩,?_,rfl,fun e' he hfits' => ?_⟩
  · simp only [billedUnits, hu]
    exact seconds_units (unitSeconds_pos hu)
  · rintro rfl
    exact month_units hse
  · exact ⟨_,computeBilling_fits unitPrice (hse.trans he) hfits',billedUnits_mono tz unit s he⟩

/-- From the last day of February to the first instant of April. -/
theorem february_meets : ∃ result,
    computeBilling? 0 (some 951782400000000) (some 954547200000000) .month (9 : ℚ) = some result ∧
      result.billedUnits = max 1 (monthsMeeting 0 951782400000000 954547200000000).ncard := by
  obtain ⟨result, hresult, -, -, hmonths, -⟩ := billing_meets 0 951782400000000 954547200000000
    (by decide) .month (9 : ℚ) (fun _ => by decide)
  exact ⟨result,hresult,hmonths rfl⟩

/-- 286331154 minutes and not quite a second are charged as a minute more. -/
theorem rounded_up : ∃ result,
    computeBilling? 0 (some 0) (some 17179869240999999) .minute (1 : ℤ) = some result ∧
      ¬ IsLeast {n : ℕ | 1 ≤ n ∧ (17179869240999999-0)/microseconds ≤ n*60}
        result.billedUnits := by
  refine ⟨⟨286331155,286331155⟩,by decide,fun h => ?_⟩
  have hle := h.2 (show 286331154 ∈ _ from ⟨by decide,by decide⟩)
  exact absurd hle (by decide)

end CloudPlay.BillingSpecification
