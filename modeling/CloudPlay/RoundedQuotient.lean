import Mathlib.Algebra.Order.Group.Unbundled.Int
import Mathlib.Tactic.Linarith
import Mathlib.Tactic.Ring

/-!
# Quotients of integers in binary floating point

The quotient of two integers is rounded to 53 significant bits, ties to even,
and cut off to an integer. The result is the floor of the quotient or one more,
and it is the floor as long as the bits below the point tell the last multiple
of the divisor's inverse from the next integer.
-/

set_option autoImplicit false

namespace RoundedQuotient

def roundHalfEven (a b : ℤ) : ℤ :=
  let q := a/b
  let r := a%b
  if 2*r < b then q
  else if b < 2*r then q+1
  else if q%2 = 0 then q else q+1

section
variable {a a' b : ℤ}

theorem roundHalfEven_cases (a b : ℤ) :
    roundHalfEven a b = a/b ∧ 2*(a%b) ≤ b ∨ roundHalfEven a b = a/b+1 ∧ b ≤ 2*(a%b) := by
  simp only [roundHalfEven]
  split
  · exact Or.inl ⟨rfl,by omega⟩
  · split
    · exact Or.inr ⟨rfl,by omega⟩
    · split
      · exact Or.inl ⟨rfl,by omega⟩
      · exact Or.inr ⟨rfl,by omega⟩

theorem le_roundHalfEven (a b : ℤ) : a/b ≤ roundHalfEven a b := by
  rcases roundHalfEven_cases a b with ⟨h, -⟩ | ⟨h, -⟩ <;> omega

theorem roundHalfEven_le (a b : ℤ) : roundHalfEven a b ≤ a/b+1 := by
  rcases roundHalfEven_cases a b with ⟨h, -⟩ | ⟨h, -⟩ <;> omega

/-- Rounding keeps the order: of two quotients with one floor the larger has
the larger remainder. -/
theorem roundHalfEven_mono (hb : 0 < b) (h : a ≤ a') : roundHalfEven a b ≤ roundHalfEven a' b := by
  have hq : a/b ≤ a'/b := Int.ediv_le_ediv hb h
  rcases hq.lt_or_eq with hlt | heq
  · calc roundHalfEven a b ≤ a/b+1 := roundHalfEven_le a b
      _ ≤ a'/b := hlt
      _ ≤ roundHalfEven a' b := le_roundHalfEven a' b
  · have hr : a%b ≤ a'%b := by
      have ha := Int.mul_ediv_add_emod a b
      have ha' := Int.mul_ediv_add_emod a' b
      rw [← heq] at ha'
      omega
    simp only [roundHalfEven, heq]
    split_ifs <;> omega

/-- An integer is reached from below over half a divisor at most, and over just
half of one when it is even. -/
theorem le_roundHalfEven_iff {n m : ℤ} (hm : 0 < m) (hb : 0 < b) (ha : a = n*b-m) :
    n ≤ roundHalfEven a b ↔ 2*m < b ∨ 2*m = b ∧ 2 ∣ n := by
  have hfloor := Int.mul_ediv_add_emod a b
  have hr0 := Int.emod_nonneg a hb.ne'
  have hr := Int.emod_lt_of_pos a hb
  have hlt : a/b < n := (Int.ediv_lt_iff_lt_mul hb).mpr (by omega)
  rcases (Int.le_sub_one_of_lt hlt).lt_or_eq with hfar | hnear
  · have hround := roundHalfEven_le a b
    have hdist : b*(a/b) ≤ b*(n-2) := Int.mul_le_mul_of_nonneg_left (by omega) hb.le
    have hm' : b < m := by linarith
    exact iff_of_false (by omega) (by omega)
  · rw [hnear] at hfloor
    have hrem : a%b = b-m := by linarith
    simp only [roundHalfEven, hnear, hrem]
    split_ifs <;> omega

end

/-- The bits of the fraction that fit behind an integer part `n`. Without an
integer part there is room for one more, which suffices to stay below one. -/
def fractionBits (n : ℤ) : ℕ := if n = 0 then 53 else 52-Nat.log2 n.toNat

/-- `int(a / b)` for non-negative `a`. -/
def truncQuotient (a b : ℤ) : ℤ :=
  roundHalfEven (a*2^fractionBits (a/b)) b/2^fractionBits (a/b)

section
variable {a a' b : ℤ}

theorem scale_pos (f : ℕ) : (0 : ℤ) < 2^f := Int.pow_pos (by decide)

theorem scaled_ediv (hb : 0 < b) (f : ℕ) :
    a/b*2^f ≤ a*2^f/b ∧ a*2^f/b < (a/b+1)*2^f := by
  have hf := scale_pos f
  constructor
  · refine (Int.le_ediv_iff_mul_le hb).mpr ?_
    have h := Int.ediv_mul_le a hb.ne'
    nlinarith
  · refine (Int.ediv_lt_iff_lt_mul hb).mpr ?_
    have h := Int.lt_ediv_add_one_mul_self a hb
    nlinarith

theorem le_truncQuotient (hb : 0 < b) : a/b ≤ truncQuotient a b := by
  refine (Int.le_ediv_iff_mul_le (scale_pos _)).mpr ?_
  exact (scaled_ediv hb _).1.trans (le_roundHalfEven _ b)

theorem truncQuotient_le (hb : 0 < b) : truncQuotient a b ≤ a/b+1 := by
  have hf := scale_pos (fractionBits (a/b))
  have hround := roundHalfEven_le (a*2^fractionBits (a/b)) b
  have hscaled := (scaled_ediv (a := a) hb (fractionBits (a/b))).2
  refine Int.le_of_lt_add_one ((Int.ediv_lt_iff_lt_mul hf).mpr ?_)
  nlinarith

/-- Rounding up needs half a divisor, and less than that is missing only to the
last multiple before the next integer. -/
theorem roundHalfEven_lt (hb : 0 < b) (f : ℕ) (hbits : b < 2*2^f) :
    roundHalfEven (a*2^f) b < (a/b+1)*2^f := by
  have hscaled := (scaled_ediv (a := a) hb f).2
  rcases roundHalfEven_cases (a*2^f) b with ⟨h, -⟩ | ⟨h, hrem⟩
  · rw [h]
    exact hscaled
  · rw [h]
    refine lt_of_le_of_ne (Int.add_one_le_iff.mpr hscaled) fun heq => ?_
    have hf := scale_pos f
    have hlast : a+1 ≤ (a/b+1)*b := Int.lt_ediv_add_one_mul_self a hb
    have hx := Int.mul_ediv_add_emod (a*2^f) b
    have hquot : a*2^f/b = (a/b+1)*2^f-1 := by linarith
    have hle : (a+1)*2^f ≤ (a/b+1)*b*2^f := Int.mul_le_mul_of_nonneg_right hlast hf.le
    rw [hquot] at hx
    linarith

/-- The rounding does not reach the next integer. -/
theorem truncQuotient_eq (hb : 0 < b) (hbits : b < 2*2^fractionBits (a/b)) :
    truncQuotient a b = a/b :=
  le_antisymm (Int.le_of_lt_add_one
    ((Int.ediv_lt_iff_lt_mul (scale_pos _)).mpr (roundHalfEven_lt hb _ hbits)))
    (le_truncQuotient hb)

/-- The quotient lies so close below the next integer that it is rounded to it. -/
def roundsUp (a b : ℤ) : Prop :=
  2*((b-a%b)*2^fractionBits (a/b)) < b ∨
    2*((b-a%b)*2^fractionBits (a/b)) = b ∧ 2 ∣ (a/b+1)*2^fractionBits (a/b)

instance (a b : ℤ) : Decidable (roundsUp a b) := inferInstanceAs (Decidable (_ ∨ _))

theorem lt_truncQuotient_iff (hb : 0 < b) : a/b < truncQuotient a b ↔ roundsUp a b := by
  have hf := scale_pos (fractionBits (a/b))
  have hgap : 0 < b-a%b := Int.sub_pos.mpr (Int.emod_lt_of_pos a hb)
  have hbelow : a*2^fractionBits (a/b) =
      (a/b+1)*2^fractionBits (a/b)*b-(b-a%b)*2^fractionBits (a/b) := by
    have ha := Int.mul_ediv_add_emod a b
    calc a*2^fractionBits (a/b) = (b*(a/b)+a%b)*2^fractionBits (a/b) := by rw [ha]
      _ = _ := by ring
  calc a/b < truncQuotient a b ↔ a/b+1 ≤ truncQuotient a b := Int.lt_iff_add_one_le
    _ ↔ (a/b+1)*2^fractionBits (a/b) ≤ roundHalfEven (a*2^fractionBits (a/b)) b :=
      Int.le_ediv_iff_mul_le hf
    _ ↔ roundsUp a b := le_roundHalfEven_iff (Int.mul_pos hgap hf) hb hbelow

/-- The quotient stays below what its floor stays below, unless it is rounded up to it. -/
theorem truncQuotient_le_iff {n : ℤ} (hb : 0 < b) :
    truncQuotient a b ≤ n ↔ a/b ≤ n ∧ ¬ (a/b = n ∧ roundsUp a b) := by
  have hle := le_truncQuotient (a := a) hb
  have hge := truncQuotient_le (a := a) hb
  rw [← lt_truncQuotient_iff hb]
  omega

theorem truncQuotient_mono (hb : 0 < b) (h : a ≤ a') : truncQuotient a b ≤ truncQuotient a' b := by
  have hq : a/b ≤ a'/b := Int.ediv_le_ediv hb h
  rcases hq.lt_or_eq with hlt | heq
  · calc truncQuotient a b ≤ a/b+1 := truncQuotient_le hb
      _ ≤ a'/b := hlt
      _ ≤ truncQuotient a' b := le_truncQuotient hb
  · simp only [truncQuotient, heq]
    have hf := scale_pos (fractionBits (a'/b))
    refine Int.ediv_le_ediv hf (roundHalfEven_mono hb ?_)
    exact Int.mul_le_mul_of_nonneg_right h hf.le

end

end RoundedQuotient
