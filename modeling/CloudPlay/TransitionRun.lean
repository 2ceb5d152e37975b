import Mathlib.Tactic.Basic
import Mathlib.Data.List.Basic

/-!
# Runs of a deterministic system

A system is a step function on events. A guard is a condition on a step and
the state it starts from, and a guarded run is one in which every step meets
it. Invariants are proved for one step and hold along every guarded run; a
map of states that commutes with steps commutes with runs.
-/

set_option autoImplicit false

namespace TransitionRun

variable {σ ε : Type*}

def run (step : ε → σ → σ) : List ε → σ → σ
  | [], s => s
  | e::es, s => run step es (step e s)

def Meets (step : ε → σ → σ) (guard : ε → σ → Prop) : List ε → σ → Prop
  | [], _ => True
  | e::es, s => guard e s ∧ Meets step guard es (step e s)

instance decidableMeets (step : ε → σ → σ) (guard : ε → σ → Prop)
    [∀ e s, Decidable (guard e s)] : (es : List ε) → (s : σ) → Decidable (Meets step guard es s)
  | [], _ => inferInstanceAs (Decidable True)
  | e::es, s => @instDecidableAnd _ _ _ (decidableMeets step guard es (step e s))

def Reachable (step : ε → σ → σ) (initial s : σ) : Prop := ∃ es, run step es initial = s

section
variable (step : ε → σ → σ)

theorem run_append (es fs : List ε) (s : σ) :
    run step (es ++ fs) s = run step fs (run step es s) := by
  induction es generalizing s with
  | nil => rfl
  | cons e es ih => exact ih _

theorem meets_append (guard : ε → σ → Prop) (es fs : List ε) (s : σ) :
    Meets step guard (es ++ fs) s ↔
      Meets step guard es s ∧ Meets step guard fs (run step es s) := by
  induction es generalizing s with
  | nil => simp [Meets, run]
  | cons e es ih => simp [Meets, run, ih, and_assoc]

/-- The invariant rule for runs whose steps meet a guard. -/
theorem run_invariant {guard : ε → σ → Prop} {inv : σ → Prop}
    (hstep : ∀ e s, guard e s → inv s → inv (step e s)) (es : List ε) (s : σ)
    (hg : Meets step guard es s) (hi : inv s) : inv (run step es s) := by
  induction es generalizing s with
  | nil => exact hi
  | cons e es ih => exact ih _ hg.2 (hstep e s hg.1 hi)

theorem reachable_invariant {inv : σ → Prop} {initial : σ}
    (hstep : ∀ e s, inv s → inv (step e s)) (hi : inv initial) {s : σ}
    (hs : Reachable step initial s) : inv s := by
  obtain ⟨es, rfl⟩ := hs
  induction es generalizing initial with
  | nil => exact hi
  | cons e es ih => exact ih (hstep e initial hi)

theorem meets_and {guard allowed : ε → σ → Prop} {es : List ε} {s : σ}
    (hg : Meets step guard es s) (ha : Meets step allowed es s) :
    Meets step (fun e s => guard e s ∧ allowed e s) es s := by
  induction es generalizing s with
  | nil => trivial
  | cons e es ih => exact ⟨⟨hg.1,ha.1⟩,ih hg.2 ha.2⟩

/-- A guarded run reaches each of its states by a guarded run. -/
theorem meets_of_append (guard : ε → σ → Prop) (es fs : List ε) (s : σ)
    (h : Meets step guard (es ++ fs) s) : Meets step guard es s :=
  ((meets_append step guard es fs s).mp h).1

/-- A guard is met by a run when it holds at every step of it. -/
theorem meets_iff (guard : ε → σ → Prop) (es : List ε) (s : σ) :
    Meets step guard es s ↔
      ∀ before e after, es = before ++ e::after → guard e (run step before s) := by
  constructor
  · rintro h before e after rfl
    exact ((meets_append step guard before (e::after) s).mp h).2.1
  · intro h
    induction es generalizing s with
    | nil => trivial
    | cons e es ih =>
      refine ⟨h [] e es rfl,ih _ fun before e' after hes => ?_⟩
      exact h (e::before) e' after (by rw [hes, List.cons_append])

/-- A guarded run meets whatever the invariant it keeps allows. -/
theorem meets_of_invariant {guard allowed : ε → σ → Prop} {inv : σ → Prop}
    (hstep : ∀ e s, guard e s → inv s → inv (step e s))
    (hallow : ∀ e s, guard e s → inv s → allowed e s) (es : List ε) (s : σ)
    (hg : Meets step guard es s) (hi : inv s) : Meets step allowed es s := by
  induction es generalizing s with
  | nil => trivial
  | cons e es ih => exact ⟨hallow e s hg.1 hi,ih _ hg.2 (hstep e s hg.1 hi)⟩

/-- What an invariant of every step allows is met by every run. -/
theorem meets_of_preserved {allowed : ε → σ → Prop} {inv : σ → Prop}
    (hstep : ∀ e s, inv s → inv (step e s)) (hallow : ∀ e s, inv s → allowed e s) (es : List ε)
    (s : σ) (hi : inv s) : Meets step allowed es s := by
  induction es generalizing s with
  | nil => trivial
  | cons e es ih => exact ⟨hallow e s hi,ih _ (hstep e s hi)⟩

/-- Two guards that agree wherever an invariant holds, and that keep it, admit the
same runs. -/
theorem meets_iff_of_invariant {guard allowed : ε → σ → Prop} {inv : σ → Prop}
    (hagree : ∀ e s, inv s → (guard e s ↔ allowed e s))
    (hstep : ∀ e s, allowed e s → inv s → inv (step e s)) (es : List ε) (s : σ) (hi : inv s) :
    Meets step guard es s ↔ Meets step allowed es s := by
  induction es generalizing s with
  | nil => rfl
  | cons e es ih =>
    rw [Meets, Meets, hagree e s hi]
    apply and_congr_right
    intro ha
    exact ih _ (hstep e s ha hi)

/-- A view of the states follows a specification all along a run exactly when it
does at every step. -/
theorem always_follows_iff {τ : Type*} (spec : ε → τ → τ) (view : σ → τ) (es : List ε) (s : σ) :
    (∀ before after, es = before ++ after →
        view (run step before s) = run spec before (view s)) ↔
      Meets step (fun e s => view (step e s) = spec e (view s)) es s := by
  induction es generalizing s with
  | nil =>
    apply iff_of_true _ trivial
    intro before after h
    rw [(List.append_eq_nil_iff.mp h.symm).1]
    rfl
  | cons e es ih =>
    rw [Meets, ← ih]
    constructor
    · intro h
      have hnow : view (step e s) = spec e (view s) := h [e] es rfl
      refine ⟨hnow,fun before after hes => ?_⟩
      rw [hnow]
      exact h (e::before) after (by rw [hes, List.cons_append])
    · rintro ⟨hnow, hrest⟩ before after hes
      cases before with
      | nil => rfl
      | cons e' before =>
        rw [List.cons_append] at hes
        obtain ⟨rfl, htail⟩ := List.cons.inj hes
        rw [run, run, hrest before after htail, hnow]

/-- When the guard is exactly what keeps a property, the property holds in all
states of a run exactly when the run meets the guard. -/
theorem always_iff_meets {guard : ε → σ → Prop} {inv : σ → Prop}
    (hstep : ∀ e s, inv s → (inv (step e s) ↔ guard e s)) (es : List ε) (s : σ) (hi : inv s) :
    (∀ before after, es = before ++ after → inv (run step before s)) ↔
      Meets step guard es s := by
  constructor
  · intro h
    refine (meets_iff step guard es s).mpr fun before e after hes => ?_
    have hnow := h before (e::after) hes
    have hnext := h (before ++ [e]) after (by simp [hes])
    rw [run_append] at hnext
    exact (hstep e _ hnow).mp hnext
  · rintro h before after rfl
    have hg := ((meets_append step guard before after s).mp h).1
    exact run_invariant step (fun e s hg hi => (hstep e s hi).mpr hg) before s hg hi

variable {τ ε' : Type*} {step} {step' : ε' → τ → τ} {view : τ → σ} {rename : ε' → ε}

/-- A map of states that commutes with steps commutes with runs. -/
theorem run_map (h : ∀ e t, step (rename e) (view t) = view (step' e t)) (es : List ε') (t : τ) :
    run step (es.map rename) (view t) = view (run step' es t) := by
  induction es generalizing t with
  | nil => rfl
  | cons e es ih =>
    rw [List.map_cons, run, h, ih]
    rfl

theorem meets_map (h : ∀ e t, step (rename e) (view t) = view (step' e t))
    (guard : ε → σ → Prop) (es : List ε') (t : τ) :
    Meets step guard (es.map rename) (view t) ↔
      Meets step' (fun e t => guard (rename e) (view t)) es t := by
  induction es generalizing t with
  | nil => rfl
  | cons e es ih => rw [List.map_cons, Meets, h, ih, Meets]

end

end TransitionRun
