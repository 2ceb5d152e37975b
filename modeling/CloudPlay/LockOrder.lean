import CloudPlay.TransactionProgram
import Mathlib.Logic.Relation
import Mathlib.Order.Basic

/-!
# Deadlocks of row locks

A thread waits from the moment it has asked for a locked row in vain. A
deadlock is a cycle of threads each waiting for a row that the next one holds.
When whoever has to wait holds only rows below the one it waits for, in some
order of the rows, the rows waited for go up along every chain of waiting
threads, so no chain comes back to its beginning.
-/

set_option autoImplicit false

namespace LockOrder
open TransactionProgram TransitionRun

variable {σ ρ α τ : Type*} [Preorder τ]

def WaitsFor (s : System σ ρ α) (i j : ℕ) : Prop :=
  i ≠ j ∧ ∃ t t' r, s.threads[i]? = some t ∧ s.threads[j]? = some t' ∧
    t.waits = some r ∧ r ∈ t'.held

def Deadlocked (s : System σ ρ α) : Prop := ∃ i, Relation.TransGen (WaitsFor s) i i

def Upwards (rank : ρ → τ) (s : System σ ρ α) : Prop :=
  ∀ t ∈ s.threads, ∀ r ∈ t.waits, ∀ h ∈ t.held, rank h < rank r

/-- Along a chain of waiting threads the rows waited for go up. -/
theorem chain_upwards {rank : ρ → τ} {s : System σ ρ α} (h : Upwards rank s) {i j : ℕ}
    (hchain : Relation.TransGen (WaitsFor s) i j) :
    ∃ t t' r, s.threads[i]? = some t ∧ t.waits = some r ∧ s.threads[j]? = some t' ∧
      ∀ r' ∈ t'.waits, rank r < rank r' := by
  induction hchain with
  | single hij =>
    obtain ⟨-, t, t', r, hi, hj, hr, hheld⟩ := hij
    exact ⟨t,t',r,hi,hr,hj,fun r' hr' => h t' (List.mem_of_getElem? hj) r' hr' r hheld⟩
  | tail _ hjk ih =>
    obtain ⟨t, t', r, hi, hr, hj, hup⟩ := ih
    obtain ⟨-, u, u', q, hj', hk, hq, hheld⟩ := hjk
    obtain rfl := Option.some.inj (hj.symm.trans hj')
    refine ⟨t,u',r,hi,hr,hk,fun r' hr' => ?_⟩
    exact (hup q hq).trans (h u' (List.mem_of_getElem? hk) r' hr' q hheld)

theorem not_deadlocked {rank : ρ → τ} {s : System σ ρ α} (h : Upwards rank s) :
    ¬Deadlocked s := by
  rintro ⟨i, hcycle⟩
  obtain ⟨t, t', r, hi, hr, hi', hup⟩ := chain_upwards h hcycle
  obtain rfl := Option.some.inj (hi.symm.trans hi')
  exact lt_irrefl _ (hup r hr)

theorem upwards_begin (rank : ρ → τ) (ps : List (Prog σ ρ α)) (c : σ) :
    Upwards rank (begin ps c) := by
  intro t ht r hr
  obtain ⟨p, -, rfl⟩ := List.mem_map.mp ht
  cases hr

section Steps
variable [DecidableEq ρ]

/-- A row for which a thread has to wait is above the rows it holds. -/
def WaitsUpwards (rank : ρ → τ) : Move → System σ ρ α → Prop
  | .run i, s => ∀ t ∈ s.threads[i]?, ∀ r ∈ s.blocks i t, ∀ h ∈ t.held, rank h < rank r
  | .abort _, _ => True

instance [DecidableLT τ] (rank : ρ → τ) (m : Move) (s : System σ ρ α) :
    Decidable (WaitsUpwards rank m s) :=
  match m with
  | .run i => inferInstanceAs (Decidable (∀ t ∈ s.threads[i]?, ∀ r ∈ s.blocks i t, ∀ h ∈ t.held,
      rank h < rank r))
  | .abort _ => inferInstanceAs (Decidable True)

theorem advance_waits {t : Thread σ ρ α} (h : t.waits = none) (c : σ) :
    (t.advance c).2.waits = none := by
  obtain ⟨prog, inside, held, redo, waits⟩ := t
  obtain rfl : waits = none := h
  cases prog <;> simp only [Thread.advance] <;> (repeat' split) <;> rfl

theorem upwards_step (rank : ρ → τ) (m : Move) (s : System σ ρ α) (hg : WaitsUpwards rank m s)
    (h : Upwards rank s) : Upwards rank (step m s) := by
  have hset : ∀ (i : ℕ) (next : σ × Thread σ ρ α),
      (∀ r ∈ next.2.waits, ∀ h ∈ next.2.held, rank h < rank r) →
      Upwards rank (s.replace i next) := by
    intro i next hnext t ht
    rcases List.mem_or_eq_of_mem_set ht with ht | rfl
    · exact h t ht
    · exact hnext
  cases m with
  | abort i =>
    simp only [step]
    split
    · exact hset i _ (by simp [start])
    · exact h
  | run i =>
    simp only [step]
    split
    · exact h
    · rename_i t hi
      split
      · rename_i r hr
        refine hset i _ fun r' hr' => ?_
        obtain rfl : r = r' := Option.some.inj hr'
        exact hg t hi r hr
      · refine hset i _ fun r hr => ?_
        rw [advance_waits rfl] at hr
        cases hr

end Steps

end LockOrder
