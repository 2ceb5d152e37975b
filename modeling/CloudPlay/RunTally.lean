import CloudPlay.TransitionRun
import Mathlib.Algebra.Order.Monoid.Defs

/-!
# Amounts that add up along a run

Each step of a run may take and give something. When no step takes more than it gives and
what the state still holds, no run does; what every step adds to a level, a run adds in all.
-/

set_option autoImplicit false

namespace RunTally
open TransitionRun

variable {σ ε M : Type*}

def tally [AddCommMonoid M] (step : ε → σ → σ) (amount : ε → σ → M) : List ε → σ → M
  | [], _ => 0
  | e::es, s => amount e s + tally step amount es (step e s)

section
variable [AddCommMonoid M] {step : ε → σ → σ}

theorem tally_add (amount other : ε → σ → M) (es : List ε) (s : σ) :
    tally step (fun e s => amount e s + other e s) es s =
      tally step amount es s + tally step other es s := by
  induction es generalizing s with
  | nil => rw [tally, tally, tally, add_zero]
  | cons e es ih => rw [tally, tally, tally, ih, add_add_add_comm]

/-- What no step can take in excess, no run can. -/
theorem tally_le [PartialOrder M] [IsOrderedAddMonoid M] {taken given : ε → σ → M}
    {level : σ → M} (h : ∀ e s, taken e s + level (step e s) ≤ level s + given e s)
    (es : List ε) (s : σ) :
    tally step taken es s + level (run step es s) ≤ level s + tally step given es s := by
  induction es generalizing s with
  | nil => simp [tally, run, add_comm]
  | cons e es ih =>
    calc tally step taken (e::es) s + level (run step (e::es) s)
        = taken e s + (tally step taken es (step e s) + level (run step es (step e s))) := by
          rw [tally, run, add_assoc]
      _ ≤ taken e s + (level (step e s) + tally step given es (step e s)) :=
          add_le_add_right (ih _) _
      _ = (taken e s + level (step e s)) + tally step given es (step e s) := by
          rw [add_assoc]
      _ ≤ (level s + given e s) + tally step given es (step e s) := add_le_add_left (h e s) _
      _ = level s + tally step given (e::es) s := by rw [tally, add_assoc]

end

/-- What each step adds to a level, a run adds in all. -/
theorem tally_telescopes [AddCommGroup M] {step : ε → σ → σ} {guard : ε → σ → Prop}
    {inv : σ → Prop} {amount : ε → σ → M} {level : σ → M}
    (hstep : ∀ e s, guard e s → inv s → inv (step e s))
    (h : ∀ e s, guard e s → inv s → amount e s = level (step e s)-level s) (es : List ε) (s : σ)
    (hg : Meets step guard es s) (hi : inv s) :
    tally step amount es s = level (run step es s)-level s := by
  induction es generalizing s with
  | nil => rw [tally, run, sub_self]
  | cons e es ih =>
    rw [tally, run, h e s hg.1 hi, ih _ hg.2 (hstep e s hg.1 hi), add_comm, sub_add_sub_cancel]

end RunTally
