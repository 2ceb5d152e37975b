import CloudPlay.TransactionProgram

/-!
# What the writes of a program can do

When every write of a program has a property that holds of no change at all
and of two changes made one after the other, whatever the thread commits has
it, at every moment and between any other threads.
-/

set_option autoImplicit false

namespace TransactionWrites
open TransactionProgram

variable {σ ρ α : Type*} {P : (σ → σ) → Prop}

def Writes (P : (σ → σ) → Prop) : Prog σ ρ α → Prop
  | .done _ => True
  | .fail => True
  | .read k => ∀ v, Writes P (k v)
  | .lock _ k => ∀ v, Writes P (k v)
  | .write _ _ _ u k onError => P u ∧ Writes P k ∧ Writes P onError
  | .enter k => Writes P k
  | .commit k => Writes P k

/-- A property of changes that are made one after the other. -/
structure Composes (P : (σ → σ) → Prop) : Prop where
  id : P id
  comp : ∀ u v, P u → P v → P (u ∘ v)

structure WritesOnly (P : (σ → σ) → Prop) (t : Thread σ ρ α) : Prop where
  prog : Writes P t.prog
  redo : P t.redo

theorem writesOnly_start (hP : Composes P) {p : Prog σ ρ α} (h : Writes P p) :
    WritesOnly P (start p) := ⟨h,hP.id⟩

variable [DecidableEq ρ]

/-- One statement commits a change with the property. -/
theorem advance_writes (hP : Composes P) {t : Thread σ ρ α} (h : WritesOnly P t) (c : σ) :
    WritesOnly P (t.advance c).2 ∧ ∃ u, P u ∧ (t.advance c).1 = u c := by
  obtain ⟨prog, inside, held, redo, waits⟩ := t
  obtain ⟨hprog, hredo⟩ := h
  have hnone : ∃ u : σ → σ, P u ∧ c = u c := ⟨_,hP.id,rfl⟩
  cases prog with
  | done result => exact ⟨⟨trivial,hredo⟩,hnone⟩
  | fail => exact ⟨⟨trivial,hP.id⟩,hnone⟩
  | read k => exact ⟨⟨hprog _,hredo⟩,hnone⟩
  | lock rows k =>
    simp only [Thread.advance]
    split
    · split
      · exact ⟨⟨hprog,hredo⟩,hnone⟩
      · exact ⟨⟨hprog _,hredo⟩,hnone⟩
    · exact ⟨⟨trivial,hP.id⟩,hnone⟩
  | write expects rows ok u k onError =>
    obtain ⟨hu, hk, herr⟩ := hprog
    simp only [Thread.advance]
    split
    · split
      · exact ⟨⟨⟨hu,hk,herr⟩,hredo⟩,hnone⟩
      · split
        · exact ⟨⟨hk,hP.comp u redo hu hredo⟩,hnone⟩
        · exact ⟨⟨herr,hredo⟩,hnone⟩
    · split
      · exact ⟨⟨hk,hredo⟩,u,hu,rfl⟩
      · exact ⟨⟨herr,hredo⟩,hnone⟩
  | enter k => exact ⟨⟨hprog,hP.id⟩,hnone⟩
  | commit k => exact ⟨⟨hprog,hP.id⟩,redo,hredo,rfl⟩

/-- A move of a thread that writes only such changes, or of no thread at all. -/
theorem step_writes (hP : Composes P) {s : System σ ρ α} {m : Move}
    (h : ∀ i, m = .run i → ∀ t, s.threads[i]? = some t → WritesOnly P t) :
    ∃ u, P u ∧ (step m s).committed = u s.committed := by
  have hnone : ∃ u : σ → σ, P u ∧ s.committed = u s.committed := ⟨_,hP.id,rfl⟩
  cases m with
  | abort i =>
    simp only [step]
    split <;> exact hnone
  | run i =>
    simp only [step]
    split
    · exact hnone
    · rename_i t ht
      split
      · exact hnone
      · have hwaits : WritesOnly P { t with waits := none } :=
          ⟨(h i rfl t ht).prog,(h i rfl t ht).redo⟩
        exact (advance_writes hP hwaits s.committed).2

/-- A move of one thread leaves the others as they are. -/
theorem step_thread {s : System σ ρ α} {m : Move} {j : ℕ} (hrun : m ≠ .run j)
    (habort : m ≠ .abort j) :
    (step m s).threads[j]? = s.threads[j]? := by
  cases m with
  | abort i =>
    have hne : j ≠ i := fun he => habort (he ▸ rfl)
    simp only [step]
    split
    · exact replace_other hne _
    · rfl
  | run i =>
    have hne : j ≠ i := fun he => hrun (he ▸ rfl)
    simp only [step]
    split
    · rfl
    · split <;> exact replace_other hne _

/-- The threads under consideration keep writing only such changes. -/
theorem threads_write (hP : Composes P) {s : System σ ρ α} {m : Move} {among : ℕ → Prop}
    (h : ∀ j t, s.threads[j]? = some t → among j → WritesOnly P t) :
    ∀ j t, (step m s).threads[j]? = some t → among j → WritesOnly P t := by
  have hreplaced {i : ℕ} {c' : σ} {t' : Thread σ ρ α} (ht' : among i → WritesOnly P t') (j : ℕ)
      (t : Thread σ ρ α) (ht : (s.replace i (c',t')).threads[j]? = some t) (hj : among j) :
      WritesOnly P t := by
    rcases replace_threads ht with ⟨rfl, rfl⟩ | ⟨-, hold⟩
    · exact ht' hj
    · exact h j t hold hj
  cases m with
  | abort i =>
    simp only [step]
    split
    · exact hreplaced fun _ => writesOnly_start hP trivial
    · exact h
  | run i =>
    simp only [step]
    split
    · exact h
    · rename_i t ht
      have hwaits (w : Option ρ) (hi : among i) : WritesOnly P { t with waits := w } :=
        ⟨(h i t ht hi).prog,(h i t ht hi).redo⟩
      split
      · exact hreplaced fun hi => hwaits _ hi
      · exact hreplaced fun hi => (advance_writes hP (hwaits none hi) s.committed).1

end TransactionWrites
