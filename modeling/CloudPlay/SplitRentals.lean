import CloudPlay.BillingSpecification

/-!
# A period charged in two parts

Months of the parts are those of the whole, so splitting a monthly rental never
makes it cheaper. Seconds are cut off in each part, so two parts that are full
units and fractions of a second can cost a unit less than the whole.
-/

set_option autoImplicit false

namespace CloudPlay.SplitRentals
open ControlPlaneModels BillingRules BillingSpecification

section Months
variable {tz a b c : Instant}

theorem monthsMeeting_split :
    monthsMeeting tz a c ⊆ monthsMeeting tz a b ∪ monthsMeeting tz b c := by
  rintro i ⟨t, ha, hc, ht⟩
  rcases lt_or_ge t b with hb | hb
  · exact Or.inl ⟨t,ha,hb,ht⟩
  · exact Or.inr ⟨t,hb,hc,ht⟩

theorem monthsMeeting_finite (tz s e : Instant) : (monthsMeeting tz s e).Finite := by
  rcases lt_or_ge s e with h | h
  · rw [monthsMeeting_eq h]
    exact Set.finite_Icc _ _
  · refine Set.Finite.subset Set.finite_empty ?_
    rintro i ⟨t, hs, he, -⟩
    exact absurd (hs.trans_lt he) (not_lt.mpr h)

theorem month_split (hab : a ≤ b) (hbc : b ≤ c) :
    billedUnits tz .month a c ≤ billedUnits tz .month a b+billedUnits tz .month b c := by
  have hfinite := (monthsMeeting_finite tz a b).union (monthsMeeting_finite tz b c)
  have hcard : (monthsMeeting tz a c).ncard ≤
      (monthsMeeting tz a b).ncard+(monthsMeeting tz b c).ncard :=
    (Set.ncard_le_ncard monthsMeeting_split hfinite).trans (Set.ncard_union_le _ _)
  rw [month_units (hab.trans hbc), month_units hab, month_units hbc]
  omega

end Months

section Seconds
variable {u x y z : ℤ} {kx ky : ℕ}

def covers (u n : ℤ) : Set ℕ := {k : ℕ | 1 ≤ k ∧ n ≤ k*u}

theorem least_le_iff (hu : 0 < u) {k j : ℕ} (hk : IsLeast (covers u x) k) :
    k ≤ j ↔ 1 ≤ j ∧ x ≤ j*u := by
  constructor
  · intro h
    have hmul : (k : ℤ)*u ≤ j*u := Int.mul_le_mul_of_nonneg_right (by omega) hu.le
    exact ⟨hk.1.1.trans h,hk.1.2.trans hmul⟩
  · exact fun h => hk.2 h

/-- A whole number of units is covered without rest. -/
theorem least_exact (hu : 0 < u) (hk : IsLeast (covers u x) kx) (hdvd : u ∣ x) (hx : 0 < x) :
    (kx : ℤ)*u = x := by
  obtain ⟨p, rfl⟩ := hdvd
  have hp : 0 < p := (mul_pos_iff_of_pos_left hu).mp hx
  obtain ⟨n, rfl⟩ := Int.eq_ofNat_of_zero_le hp.le
  have hle : kx ≤ n := hk.2 ⟨by omega,(Int.mul_comm u n).le⟩
  have hmul : (kx : ℤ)*u ≤ n*u := Int.mul_le_mul_of_nonneg_right (by omega) hu.le
  rw [Int.mul_comm u n] at *
  exact le_antisymm hmul hk.1.2

theorem least_dvd (hk : IsLeast (covers u x) kx) (hu : 0 < u) (h : (kx : ℤ)*u = x) :
    u ∣ x ∧ 0 < x := by
  have hpos : 0 < (kx : ℤ)*u := Int.mul_pos (by have := hk.1.1; omega) hu
  exact ⟨⟨kx,by rw [← h, Int.mul_comm]⟩,h ▸ hpos⟩

/-- A second more than two numbers of seconds is covered by their units unless
both are whole numbers of units. -/
theorem carry_le_iff (hu : 0 < u) {k : ℕ} (hx : IsLeast (covers u x) kx)
    (hy : IsLeast (covers u y) ky) (hk : IsLeast (covers u (x+y+1)) k) :
    k ≤ kx+ky ↔ ¬ (u ∣ x ∧ 0 < x ∧ u ∣ y ∧ 0 < y) := by
  have hcover : k ≤ kx+ky ↔ x+y+1 ≤ (kx : ℤ)*u+ky*u := by
    rw [least_le_iff hu hk, Nat.cast_add, add_mul]
    exact and_iff_right (hx.1.1.trans (Nat.le_add_right kx ky))
  rw [hcover]
  constructor
  · rintro h ⟨hdx, hpx, hdy, hpy⟩
    rw [least_exact hu hx hdx hpx, least_exact hu hy hdy hpy] at h
    omega
  · intro h
    have hleft := hx.1.2
    have hright := hy.1.2
    by_contra hlt
    have hex : (kx : ℤ)*u = x := by omega
    have hey : (ky : ℤ)*u = y := by omega
    obtain ⟨hdx, hpx⟩ := least_dvd hx hu hex
    obtain ⟨hdy, hpy⟩ := least_dvd hy hu hey
    exact h ⟨hdx,hpx,hdy,hpy⟩

theorem sum_le (hu : 0 < u) {k : ℕ} (hx : IsLeast (covers u x) kx) (hy : IsLeast (covers u y) ky)
    (hk : IsLeast (covers u z) k) (hz : z ≤ x+y) : k ≤ kx+ky := by
  rw [least_le_iff hu hk, Nat.cast_add, add_mul]
  exact ⟨hx.1.1.trans (Nat.le_add_right kx ky),hz.trans (Int.add_le_add hx.1.2 hy.1.2)⟩

end Seconds

/-- The fractions of a second of the two parts make a second more. -/
def Carries (a b c : Instant) : Prop := microseconds ≤ (b-a)%microseconds+(c-b)%microseconds

instance (a b c : Instant) : Decidable (Carries a b c) :=
  inferInstanceAs (Decidable (microseconds ≤ (b-a)%microseconds+(c-b)%microseconds))

theorem seconds_split (a b c : Instant) : (c-a)/microseconds =
    (b-a)/microseconds+(c-b)/microseconds+(if Carries a b c then 1 else 0) := by
  have hsum : (c : ℤ)-a = (b-a)+(c-b) := by ring
  rw [hsum, Int.add_ediv (by decide)]
  exact congrArg _ (if_congr Iff.rfl rfl rfl)

theorem billedUnits_least {tz s e : Instant} {unit : BillingUnit} {u : ℤ}
    (hu : unitSeconds unit = some u) :
    IsLeast (covers u (wholeSeconds s e)) (billedUnits tz unit s e) := by
  simp only [billedUnits, hu]
  exact seconds_units (unitSeconds_pos hu)

section Splitting
variable {tz a b c : Instant} {unit : BillingUnit} {u : ℤ}

theorem units_split (hu : unitSeconds unit = some u)
    (h : wholeSeconds a c ≤ wholeSeconds a b+wholeSeconds b c) :
    billedUnits tz unit a c ≤ billedUnits tz unit a b+billedUnits tz unit b c :=
  sum_le (unitSeconds_pos hu) (billedUnits_least hu) (billedUnits_least hu)
    (billedUnits_least hu) h

theorem units_split_iff (hab : a ≤ b) (hbc : b ≤ c) (hshort : c-a < 2^34*microseconds)
    (hu : unitSeconds unit = some u) :
    billedUnits tz unit a c ≤ billedUnits tz unit a b+billedUnits tz unit b c ↔
      ¬ (Carries a b c ∧ u ∣ (b-a)/microseconds ∧ 0 < (b-a)/microseconds ∧
        u ∣ (c-b)/microseconds ∧ 0 < (c-b)/microseconds) := by
  have hleft : wholeSeconds a b = (b-a)/microseconds :=
    wholeSeconds_eq hab ((Int.sub_le_sub_right hbc a).trans_lt hshort)
  have hright : wholeSeconds b c = (c-b)/microseconds :=
    wholeSeconds_eq hbc ((Int.sub_le_sub_left hab c).trans_lt hshort)
  have hwhole : wholeSeconds a c = (c-a)/microseconds := wholeSeconds_eq (hab.trans hbc) hshort
  rw [seconds_split a b c] at hwhole
  by_cases hcarry : Carries a b c
  · have hone : wholeSeconds a c = wholeSeconds a b+wholeSeconds b c+1 := by
      rw [hwhole, hleft, hright, if_pos hcarry]
    have hk : IsLeast (covers u (wholeSeconds a b+wholeSeconds b c+1)) (billedUnits tz unit a c) :=
      hone ▸ billedUnits_least hu
    rw [carry_le_iff (unitSeconds_pos hu) (billedUnits_least hu) (billedUnits_least hu) hk,
      hleft, hright]
    exact not_congr (and_iff_right hcarry).symm
  · refine iff_of_true (units_split hu ?_) (fun h => hcarry h.1)
    rw [hwhole, hleft, hright, if_neg hcarry, Int.add_zero]

end Splitting

/-- The units charged for a period, if it can be charged. -/
def unitsOf {R : Type*} [Semiring R] (tz : Instant) (unit : BillingUnit) (unitPrice : R)
    (s e : Instant) : Option ℕ :=
  (computeBilling? tz (some s) (some e) unit unitPrice).map BillingResult.billedUnits

theorem unitsOf_eq {R : Type*} [Semiring R] {tz : Instant} {unit : BillingUnit} (unitPrice : R)
    {s e : Instant} (h : s ≤ e) (hfits : unit = .month → monthsFit tz s e = true) :
    unitsOf tz unit unitPrice s e = some (billedUnits tz unit s e) := by
  rw [unitsOf, computeBilling_fits unitPrice h hfits]
  rfl

/-- Splitting never makes a monthly rental cheaper, and another one exactly
when both parts are full units and their fractions make a second more. -/
theorem split_not_cheaper {R : Type*} [Semiring R] (tz a b c : Instant) (hab : a ≤ b)
    (hbc : b ≤ c) (unit : BillingUnit) (unitPrice : R)
    (hfits : unit = .month → monthsFit tz a b = true ∧ monthsFit tz b c = true) :
    ∃ whole first second, unitsOf tz unit unitPrice a c = some whole ∧
      unitsOf tz unit unitPrice a b = some first ∧
      unitsOf tz unit unitPrice b c = some second ∧
      (unit = .month → whole ≤ first+second) ∧
      ∀ u, unitSeconds unit = some u →
        (wholeSeconds a c ≤ wholeSeconds a b+wholeSeconds b c → whole ≤ first+second) ∧
        (c-a < 2^34*microseconds →
          (whole ≤ first+second ↔
            ¬ (Carries a b c ∧ u ∣ (b-a)/microseconds ∧ 0 < (b-a)/microseconds ∧
              u ∣ (c-b)/microseconds ∧ 0 < (c-b)/microseconds))) := by
  have hwhole : unit = .month → monthsFit tz a c = true := by
    intro hunit
    obtain ⟨hfirst, hsecond⟩ := hfits hunit
    rw [monthsFit, Bool.and_eq_true] at hfirst hsecond ⊢
    exact ⟨hfirst.1,hsecond.2⟩
  refine ⟨_,_,_,unitsOf_eq unitPrice (hab.trans hbc) hwhole,
    unitsOf_eq unitPrice hab fun hunit => (hfits hunit).1,
    unitsOf_eq unitPrice hbc fun hunit => (hfits hunit).2,?_,?_⟩
  · rintro rfl
    exact month_split hab hbc
  · exact fun u hu => ⟨units_split hu,fun hshort => units_split_iff hab hbc hshort hu⟩

/-- 90 seconds and half a minute more. -/
theorem minute_split : ∃ whole first second,
    unitsOf 0 .minute (1 : ℚ) 0 120000000 = some whole ∧
      unitsOf 0 .minute (1 : ℚ) 0 90000000 = some first ∧
      unitsOf 0 .minute (1 : ℚ) 90000000 120000000 = some second ∧ whole ≤ first+second := by
  obtain ⟨whole, first, second, hwhole, hfirst, hsecond, -, hseconds⟩ :=
    split_not_cheaper 0 0 90000000 120000000 (by decide) (by decide) .minute (1 : ℚ)
      (fun h => by cases h)
  exact ⟨whole,first,second,hwhole,hfirst,hsecond,(hseconds 60 rfl).1 (by decide)⟩

/-- Twice a minute and a half second are two minutes, at once they are three. -/
theorem split_cheaper : unitsOf 0 .minute (1 : ℤ) 0 121000000 = some 3 ∧
    unitsOf 0 .minute (1 : ℤ) 0 60500000 = some 1 ∧
    unitsOf 0 .minute (1 : ℤ) 60500000 121000000 = some 1 := by
  decide

end CloudPlay.SplitRentals
