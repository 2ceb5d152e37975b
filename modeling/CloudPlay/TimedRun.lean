import CloudPlay.TransitionRun

/-!
# Runs with a clock

Time passes between the other steps of a system. What has to happen by some moment is
due then, and in a timely run the clock never passes a moment at which something is
still due. So nothing is ever late, and what stays due for the whole of a run bounds
the time that the run takes.
-/

set_option autoImplicit false

namespace TimedRun
open TransitionRun

/-- A system with a clock. Only the passing of time moves the clock, and no step leaves
something that was due before it. -/
structure Timed (σ ε : Type*) where
  now : σ → ℕ
  pass : ℕ → σ → σ
  act : ε → σ → σ
  Due : σ → ℕ → Prop
  now_pass : ∀ d s, now (pass d s) = now s+d
  due_pass : ∀ d s t, Due (pass d s) t ↔ Due s t
  now_act : ∀ e s, now (act e s) = now s
  due_act : ∀ e s t, Due (act e s) t → Due s t ∨ now s ≤ t

inductive Event (ε : Type*)
  | pass (d : ℕ)
  | act (e : ε)

namespace Timed
variable {σ ε : Type*} (T : Timed σ ε)

def step : Event ε → σ → σ
  | .pass d, s => T.pass d s
  | .act e, s => T.act e s

/-- Time waits for what is due, and a step is taken when it is allowed. -/
def Timely (allowed : ε → σ → Prop) : Event ε → σ → Prop
  | .pass d, s => ∀ t, T.Due s t → T.now s+d ≤ t
  | .act e, s => allowed e s

def Punctual (s : σ) : Prop := ∀ t, T.Due s t → T.now s ≤ t

variable {T} {allowed : ε → σ → Prop}

theorem punctual_step (e : Event ε) (s : σ) (ht : T.Timely allowed e s) (h : T.Punctual s) :
    T.Punctual (T.step e s) := by
  intro t hdue
  cases e with
  | pass d =>
    rw [step, T.now_pass]
    exact ht t ((T.due_pass d s t).mp hdue)
  | act e =>
    rw [step, T.now_act]
    rcases T.due_act e s t hdue with hdue | hle
    · exact h t hdue
    · exact hle

theorem punctual_run (es : List (Event ε)) (s : σ) (hm : Meets T.step (T.Timely allowed) es s)
    (h : T.Punctual s) : T.Punctual (run T.step es s) :=
  run_invariant T.step punctual_step es s hm h

/-- The invariant rule for timely runs: the steps may be taken not to be late. -/
theorem timely_invariant {inv : σ → Prop}
    (hpass : ∀ d s, T.Punctual (T.pass d s) → inv s → inv (T.pass d s))
    (hact : ∀ e s, allowed e s → T.Punctual s → inv s → inv (T.act e s))
    (es : List (Event ε)) (s : σ) (hm : Meets T.step (T.Timely allowed) es s)
    (hs : T.Punctual s) (hi : inv s) : inv (run T.step es s) := by
  have hboth (e : Event ε) (s : σ) (ht : T.Timely allowed e s) (h : T.Punctual s ∧ inv s) :
      T.Punctual (T.step e s) ∧ inv (T.step e s) := by
    have hnext := punctual_step e s ht h.1
    refine ⟨hnext,?_⟩
    cases e with
    | pass d => exact hpass d s hnext h.2
    | act e => exact hact e s ht h.1 h.2
  exact (run_invariant T.step hboth es s hm ⟨hs,hi⟩).2

/-- What was to happen by a time has happened in a run that lasts longer. -/
theorem ends_by {t : ℕ} {ended : Prop} (es : List (Event ε)) (s : σ)
    (hm : Meets T.step (T.Timely allowed) es s) (hs : T.Punctual s)
    (hdue : (∃ u ≤ t, T.Due (run T.step es s) u) ∨ ended) (hlate : t < T.now (run T.step es s)) :
    ended := by
  rcases hdue with ⟨u, hu, hdue⟩ | hended
  · have hnow : T.now (run T.step es s) ≤ u := punctual_run es s hm hs u hdue
    omega
  · exact hended

end Timed
end TimedRun
