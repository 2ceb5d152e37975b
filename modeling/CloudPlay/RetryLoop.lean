import Mathlib.Tactic.Basic
import Mathlib.Data.Nat.Notation

/-!
# Loops that try again

A loop tries while its counter is below a bound, and ends with the first answer.
A counter that goes up makes it give up after as many tries as the bound has room
for. When the counter stays where it is, the loop ends exactly when there is an
answer, however late.
-/

set_option autoImplicit false

namespace RetryLoop

/-- `answer i` is what the i-th try brings; `none` is to try again. -/
structure Loop (α : Type*) where
  bound : ℕ
  next : ℕ → ℕ
  answer : ℕ → Option α

/-- How a loop ends; without an answer it gave up. -/
structure End (α : Type*) where
  tries : ℕ
  answer : Option α

namespace Loop
variable {α : Type*} (l : Loop α)

/-- The loop at a counter, after some tries, for as many rounds as there is fuel. -/
def run : ℕ → ℕ → ℕ → Option (End α)
  | 0, _, _ => none
  | fuel+1, counter, tries =>
    if counter < l.bound then
      match l.answer tries with
      | some a => some ⟨tries+1,some a⟩
      | none => run fuel (l.next counter) (tries+1)
    else some ⟨tries,none⟩

/-- The i-th try is the first that brings an answer. -/
def First (i : ℕ) (a : α) : Prop := l.answer i = some a ∧ ∀ j < i, l.answer j = none

variable {l} {fuel counter tries : ℕ} {e : End α}

/-- A counter that goes up ends the loop. -/
theorem run_counting (hnext : ∀ c, c < l.next c) (hfuel : l.bound-counter < fuel) :
    ∃ e, l.run fuel counter tries = some e ∧ e.tries ≤ tries+(l.bound-counter) := by
  induction fuel generalizing counter tries with
  | zero => omega
  | succ fuel ih =>
    rw [run]
    split
    · rename_i hlt
      have hup := hnext counter
      cases l.answer tries with
      | some a =>
        refine ⟨_,rfl,?_⟩
        show tries+1 ≤ tries+(l.bound-counter)
        omega
      | none =>
        have hroom : l.bound-l.next counter < fuel := by omega
        obtain ⟨e, he, htries⟩ := @ih (l.next counter) (tries+1) hroom
        exact ⟨e,he,by omega⟩
    · exact ⟨_,rfl,Nat.le_add_right _ _⟩

/-- With a counter that stays the loop goes on until there is an answer. -/
theorem run_staying (hnext : l.next counter = counter) (hlt : counter < l.bound) :
    l.run fuel counter tries = some e ↔
      ∃ i < fuel, ∃ a, l.answer (tries+i) = some a ∧ (∀ j < i, l.answer (tries+j) = none) ∧
        e = ⟨tries+i+1,some a⟩ := by
  induction fuel generalizing tries with
  | zero => simp [run]
  | succ fuel ih =>
    rw [run, if_pos hlt, hnext]
    cases ha : l.answer tries with
    | some a =>
      constructor
      · intro h
        exact ⟨0,Nat.succ_pos _,a,ha,(fun _ hj => absurd hj (Nat.not_lt_zero _)),
          (Option.some.inj h).symm⟩
      · rintro ⟨i, -, b, hb, hbefore, rfl⟩
        cases i with
        | zero =>
          rw [Nat.add_zero, ha] at hb
          rw [Option.some.inj hb, Nat.add_zero]
        | succ i =>
          have hnone := hbefore 0 (Nat.succ_pos i)
          rw [Nat.add_zero, ha] at hnone
          cases hnone
    | none =>
      have hshift (k : ℕ) : tries+1+k = tries+(k+1) := by omega
      show l.run fuel counter (tries+1) = some e ↔ _
      rw [ih]
      simp only [hshift]
      constructor
      · rintro ⟨i, hi, a, hanswer, hbefore, rfl⟩
        refine ⟨i+1,Nat.succ_lt_succ hi,a,hanswer,fun j hj => ?_,rfl⟩
        cases j with
        | zero => exact ha
        | succ j => exact hbefore j (Nat.lt_of_succ_lt_succ hj)
      · rintro ⟨i, hi, a, hanswer, hbefore, rfl⟩
        cases i with
        | zero =>
          rw [Nat.add_zero, ha] at hanswer
          cases hanswer
        | succ i =>
          exact ⟨i,Nat.lt_of_succ_lt_succ hi,a,hanswer,
            fun j hj => hbefore (j+1) (Nat.succ_lt_succ hj),rfl⟩

theorem run_first (hnext : l.next counter = counter) (hlt : counter < l.bound) :
    l.run fuel counter 0 = some e ↔ ∃ i < fuel, ∃ a, l.First i a ∧ e = ⟨i+1,some a⟩ := by
  rw [run_staying hnext hlt]
  simp only [First, Nat.zero_add, and_assoc]

end Loop

end RetryLoop
