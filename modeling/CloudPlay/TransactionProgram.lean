import CloudPlay.TransitionRun

/-!
# Interleaved transactions over a shared store

A program is a tree of database statements. A read sees the committed store
and the writes of its own transaction; a locking read takes its rows one by
one and then reads; row locks are held to the end of the transaction; outside
of a transaction a write commits at once, unless a row of it is locked.
Uncommitted writes wait in the thread, so a rollback forgets them. A write may
carry an expectation about the store that it finds. Execution ignores it; a
run is fresh when every expectation is met.
-/

set_option autoImplicit false

namespace TransactionProgram
open TransitionRun

inductive Prog (σ ρ α : Type*) where
  | done (result : α)
  | fail
  | read (k : σ → Prog σ ρ α)
  | lock (rows : σ → List ρ) (k : σ → Prog σ ρ α)
  | write (expects : σ → Bool) (rows : List ρ) (ok : σ → Bool) (u : σ → σ)
      (k onError : Prog σ ρ α)
  | enter (k : Prog σ ρ α)
  | commit (k : Prog σ ρ α)

variable {σ ρ α : Type*}

/-- The program run to its end without interruption, from the visible and the
committed store: the store it leaves, and its result unless it raises. -/
def Prog.solo : Prog σ ρ α → Bool → σ → σ → σ × Option α
  | .done result, _, _, c => (c,some result)
  | .fail, _, _, c => (c,none)
  | .read k, inside, v, c => (k v).solo inside v c
  | .lock _ k, inside, v, c => if inside then (k v).solo inside v c else (c,none)
  | .write _ _ ok u k onError, inside, v, c =>
    if ok v then k.solo inside (u v) (if inside then c else u v) else onError.solo inside v c
  | .enter k, _, _, c => k.solo true c c
  | .commit k, _, v, _ => k.solo false v v

def Prog.exec (p : Prog σ ρ α) (c : σ) : σ × Option α := p.solo false c c

/-- The rows of the writes that the program commits when it runs alone; `pending` are those
of the open transaction. -/
def Prog.journal : Prog σ ρ α → Bool → List ρ → σ → σ → List ρ
  | .done _, _, _, _, _ => []
  | .fail, _, _, _, _ => []
  | .read k, inside, pending, v, c => (k v).journal inside pending v c
  | .lock _ k, inside, pending, v, c => if inside then (k v).journal inside pending v c else []
  | .write _ rows ok u k onError, inside, pending, v, c =>
    if ok v then
      if inside then k.journal inside (pending ++ rows) (u v) c
      else rows ++ k.journal inside pending (u v) (u v)
    else onError.journal inside pending v c
  | .enter k, _, _, _, c => k.journal true [] c c
  | .commit k, _, pending, v, _ => pending ++ k.journal false [] v v

def Prog.written (p : Prog σ ρ α) (c : σ) : List ρ := p.journal false [] c c

/-- `redo` are the uncommitted writes, and `waits` is the row the thread has
asked for in vain. -/
structure Thread (σ ρ α : Type*) where
  prog : Prog σ ρ α
  inside : Bool := false
  held : List ρ := []
  redo : σ → σ := id
  waits : Option ρ := none

def start (p : Prog σ ρ α) : Thread σ ρ α := { prog := p }

/-- What the thread makes of the committed store when it runs on alone. -/
def Thread.finish (t : Thread σ ρ α) (c : σ) : σ × Option α :=
  t.prog.solo t.inside (t.redo c) c

def Thread.result (t : Thread σ ρ α) : Option α :=
  match t.prog with
  | .done result => some result
  | _ => none

/-- Outside of a transaction nothing is held back. -/
def Thread.Settled (t : Thread σ ρ α) : Prop := t.inside = false → t.redo = id ∧ t.held = []

structure System (σ ρ α : Type*) where
  committed : σ
  threads : List (Thread σ ρ α)

def begin (ps : List (Prog σ ρ α)) (c : σ) : System σ ρ α := ⟨c,ps.map start⟩

/-- A thread executes its next statement, or something outside ends it. -/
inductive Move where
  | run (i : ℕ)
  | abort (i : ℕ)

def System.replace (s : System σ ρ α) (i : ℕ) (next : σ × Thread σ ρ α) : System σ ρ α :=
  ⟨next.1,s.threads.set i next.2⟩

theorem replace_threads {s : System σ ρ α} {i : ℕ} {c' : σ} {t' : Thread σ ρ α} {j : ℕ}
    {u : Thread σ ρ α} (h : (s.replace i (c',t')).threads[j]? = some u) :
    (j = i ∧ u = t') ∨ (j ≠ i ∧ s.threads[j]? = some u) := by
  rw [System.replace, List.getElem?_set] at h
  by_cases hji : i = j
  · rw [if_pos hji] at h
    split at h
    · exact Or.inl ⟨hji.symm,(Option.some.inj h).symm⟩
    · cases h
  · rw [if_neg hji] at h
    exact Or.inr ⟨fun he => hji he.symm,h⟩

theorem replace_self {s : System σ ρ α} {i : ℕ} {t : Thread σ ρ α} (h : s.threads[i]? = some t)
    (next : σ × Thread σ ρ α) : (s.replace i next).threads[i]? = some next.2 := by
  rw [System.replace, List.getElem?_set_self']
  simp [h]

theorem replace_other {s : System σ ρ α} {i j : ℕ} (hne : j ≠ i) (next : σ × Thread σ ρ α) :
    (s.replace i next).threads[j]? = s.threads[j]? :=
  List.getElem?_set_ne hne.symm

theorem settled_start (p : Prog σ ρ α) : (start p).Settled := fun _ => ⟨rfl,rfl⟩

section Execution
variable [DecidableEq ρ]

/-- The first of the rows that the thread does not hold yet. -/
def Thread.missing (t : Thread σ ρ α) (rows : List ρ) : Option ρ :=
  rows.find? (fun r => r ∉ t.held)

/-- The rows the next statement takes at once. -/
def Thread.needs (t : Thread σ ρ α) (c : σ) : List ρ :=
  match t.prog with
  | .lock rows _ => if t.inside then (t.missing (rows (t.redo c))).toList else []
  | .write _ rows _ _ _ _ => if t.inside then (t.missing rows).toList else rows
  | _ => []

/-- A statement that still misses a row takes it and stays. -/
def Thread.advance (t : Thread σ ρ α) (c : σ) : σ × Thread σ ρ α :=
  match t.prog with
  | .done _ => (c,t)
  | .fail => (c,start .fail)
  | .read k => (c,{ t with prog := k (t.redo c) })
  | .lock rows k =>
    if t.inside then
      match t.missing (rows (t.redo c)) with
      | some r => (c,{ t with held := r::t.held })
      | none => (c,{ t with prog := k (t.redo c) })
    else (c,start .fail)
  | .write _ rows ok u k onError =>
    if t.inside then
      match t.missing rows with
      | some r => (c,{ t with held := r::t.held })
      | none =>
        if ok (t.redo c) then (c,{ t with prog := k, redo := u ∘ t.redo })
        else (c,{ t with prog := onError })
    else if ok c then (u c,{ t with prog := k }) else (c,{ t with prog := onError })
  | .enter k => (c,{ prog := k, inside := true })
  | .commit k => (t.redo c,start k)

/-- A row that another thread has locked. -/
def System.taken (s : System σ ρ α) (i : ℕ) (r : ρ) : Bool :=
  (s.threads.eraseIdx i).any (fun t => r ∈ t.held)

/-- The row for which the next statement of a thread has to wait. -/
def System.blocks (s : System σ ρ α) (i : ℕ) (t : Thread σ ρ α) : Option ρ :=
  (t.needs s.committed).find? (s.taken i)

def step : Move → System σ ρ α → System σ ρ α
  | .run i, s =>
    match s.threads[i]? with
    | none => s
    | some t =>
      match s.blocks i t with
      | some r => s.replace i (s.committed,{ t with waits := some r })
      | none => s.replace i ({ t with waits := none }.advance s.committed)
  | .abort i, s => if i < s.threads.length then s.replace i (s.committed,start .fail) else s

/-- A write with all its rows finds what it expects. -/
def Thread.Expects (t : Thread σ ρ α) (c : σ) : Prop :=
  match t.prog with
  | .write expects rows ok _ _ _ =>
    (t.inside = true → t.missing rows = none) → ok (t.redo c) = true → expects (t.redo c) = true
  | _ => True

instance decidableExpects : (t : Thread σ ρ α) → (c : σ) → Decidable (t.Expects c)
  | ⟨.write expects rows ok u k onError,inside,held,redo,waits⟩, c =>
    inferInstanceAs (Decidable ((inside = true →
      Thread.missing ⟨.write expects rows ok u k onError,inside,held,redo,waits⟩ rows = none) →
        ok (redo c) = true → expects (redo c) = true))
  | ⟨.done _,_,_,_,_⟩, _ => isTrue trivial
  | ⟨.fail,_,_,_,_⟩, _ => isTrue trivial
  | ⟨.read _,_,_,_,_⟩, _ => isTrue trivial
  | ⟨.lock _ _,_,_,_,_⟩, _ => isTrue trivial
  | ⟨.enter _,_,_,_,_⟩, _ => isTrue trivial
  | ⟨.commit _,_,_,_,_⟩, _ => isTrue trivial

def Fresh : Move → System σ ρ α → Prop
  | .run i, s => ∀ t ∈ s.threads[i]?, s.blocks i t = none → t.Expects s.committed
  | .abort _, _ => True

instance decidableFresh : (m : Move) → (s : System σ ρ α) → Decidable (Fresh m s)
  | .run i, s =>
    inferInstanceAs (Decidable (∀ t ∈ s.threads[i]?, s.blocks i t = none → t.Expects s.committed))
  | .abort _, _ => isTrue trivial

theorem Thread.missing_eq_none (t : Thread σ ρ α) (rows : List ρ) :
    t.missing rows = none ↔ rows ⊆ t.held := by
  simp [Thread.missing, List.find?_eq_none, List.subset_def]

/-- A statement leaves the thread settled and does not change what it comes to
when it runs on alone. -/
theorem advance_finish {t : Thread σ ρ α} (h : t.Settled) (c : σ) :
    (t.advance c).2.Settled ∧ (t.advance c).2.finish (t.advance c).1 = t.finish c := by
  obtain ⟨prog, inside, held, redo, waits⟩ := t
  cases prog with
  | done result => exact ⟨h,rfl⟩
  | fail => exact ⟨settled_start _,rfl⟩
  | read k => exact ⟨h,rfl⟩
  | lock rows k =>
    cases inside with
    | false => exact ⟨settled_start _,by simp [Thread.advance, Thread.finish, Prog.solo, start]⟩
    | true =>
      simp only [Thread.advance, if_true]
      split
      · exact ⟨fun hout => by simp at hout,rfl⟩
      · exact ⟨fun hout => by simp at hout,by simp [Thread.finish, Prog.solo]⟩
  | write expects rows ok u k onError =>
    cases inside with
    | false =>
      obtain ⟨hredo, hheld⟩ := h rfl
      simp only at hredo hheld
      subst hredo hheld
      cases hok : ok c <;>
        simp [Thread.advance, Thread.finish, Prog.solo, Thread.Settled, hok]
    | true =>
      simp only [Thread.advance, if_true]
      split
      · exact ⟨fun hout => by simp at hout,rfl⟩
      · cases hok : ok (redo c) <;>
          simp [Thread.finish, Prog.solo, Thread.Settled, hok]
  | enter k => exact ⟨fun hout => (by cases hout),rfl⟩
  | commit k => exact ⟨settled_start _,rfl⟩

/-- A thread among no others. -/
theorem step_single {t : Thread σ ρ α} (h : t.Settled) (c : σ) :
    ∃ t' : Thread σ ρ α, step (.run 0) ⟨c,[t]⟩ = ⟨(t.advance c).1,[t']⟩ ∧ t'.Settled ∧
      t'.finish (t.advance c).1 = t.finish c := by
  have hnone : (System.blocks ⟨c,[t]⟩ 0 t) = none := by
    simp [System.blocks, System.taken]
  have hset : { t with waits := none }.Settled := h
  have hsame : ({ t with waits := none }.advance c).1 = (t.advance c).1 := by
    obtain ⟨prog, inside, held, redo, waits⟩ := t
    cases prog <;> simp only [Thread.advance] <;> (repeat' split) <;> rfl
  refine ⟨({ t with waits := none }.advance c).2,?_,(advance_finish hset c).1,?_⟩
  · simp [step, hnone, System.replace, hsame]
  · rw [← hsame]
    exact (advance_finish hset c).2

/-- However far a transaction among no others has run, it comes to the same. -/
theorem alone (p : Prog σ ρ α) (c : σ) (n : ℕ) :
    ∃ c' t, run step (List.replicate n (.run 0)) (begin [p] c) = ⟨c',[t]⟩ ∧
      t.finish c' = p.exec c := by
  have hrun : ∀ (n : ℕ) (c : σ) (t : Thread σ ρ α), t.Settled → ∃ c' t',
      run step (List.replicate n (.run 0)) ⟨c,[t]⟩ = ⟨c',[t']⟩ ∧ t'.finish c' = t.finish c := by
    intro n
    induction n with
    | zero => exact fun c t _ => ⟨c,t,rfl,rfl⟩
    | succ n ih =>
      intro c t ht
      obtain ⟨t', hstep, hset, hfin⟩ := step_single ht c
      obtain ⟨c'', t'', hrest, hfin'⟩ := ih _ t' hset
      exact ⟨c'',t'',by rw [List.replicate_succ, run, hstep, hrest],hfin'.trans hfin⟩
  exact hrun n c (start p) (settled_start p)

end Execution

end TransactionProgram
