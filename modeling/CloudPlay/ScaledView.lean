import Mathlib.Algebra.Field.Basic
import Mathlib.Tactic.FieldSimp
import Mathlib.Tactic.Ring

/-!
# One axis of a scaled view

A view shows the point `v` of an axis at `center+offset+scale*(v-center)`. To change the
scale around a place of the view keeps the point shown there where it is, and every other
point moves away from it by the ratio of the scales.
-/

set_option autoImplicit false

namespace ScaledView

variable {K : Type*} [Field K] {center offset scale : K}

def place (center offset scale v : K) : K := center+offset+scale*(v-center)

def locate (center offset scale p : K) : K := center+(p-center-offset)/scale

theorem locate_place (hs : scale ≠ 0) (v : K) :
    locate center offset scale (place center offset scale v) = v := by
  unfold locate place
  field_simp
  ring

theorem place_locate (hs : scale ≠ 0) (p : K) :
    place center offset scale (locate center offset scale p) = p := by
  unfold locate place
  field_simp
  ring

/-- The offset that shows at `focal` what was shown there before the scale is changed. -/
def refocused (center offset scale scale' focal : K) : K :=
  focal-center-(locate center offset scale focal-center)*scale'

/-- Where a view that is scaled around `focal` and then shifted shows what was at `p`. -/
theorem place_refocused (hs : scale ≠ 0) (scale' focal shift p : K) :
    place center (refocused center offset scale scale' focal+shift) scale'
      (locate center offset scale p) = focal+shift+(p-focal)*(scale'/scale) := by
  unfold refocused place locate
  field_simp
  ring

/-- A view that follows a focal point keeps the point under it exactly when the scale or the
focal point stays. -/
theorem followed_iff (hs : scale ≠ 0) (scale' focal last : K) :
    place center (refocused center offset scale scale' focal+(focal-last)) scale'
      (locate center offset scale last) = focal ↔ focal = last ∨ scale' = scale := by
  rw [place_refocused hs]
  have hdiff : focal+(focal-last)+(last-focal)*(scale'/scale)-focal =
      (focal-last)*(scale-scale')/scale := by
    field_simp
    ring
  rw [← sub_eq_zero, hdiff, div_eq_zero_iff, or_iff_left hs, mul_eq_zero, sub_eq_zero, sub_eq_zero,
    eq_comm (a := scale)]

end ScaledView
