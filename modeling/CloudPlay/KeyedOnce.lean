import CloudPlay.TransactionProgram
import Mathlib.Data.Set.Basic

/-!
# Work behind an idempotency key

Programs that look an answer up, create a batch of things in one transaction
and store the answer in the statement after it. When no such transaction is
committed while the answer is stored or still to be stored by another program,
and no program is cut off between the two, a run creates at most one batch, and
every answer given is the stored one.
-/

set_option autoImplicit false

namespace KeyedOnce
open TransactionProgram TransitionRun

/-- What is stored under the key and what has been created, the answer of a
result, and the batches a program may create. -/
structure Keyed (σ α β γ : Type*) where
  stored : σ → Option β
  created : σ → Set γ
  answer : α → Option β
  batch : Set γ → Prop

variable {σ ρ α β γ : Type*}

def isWrite : Prog σ ρ α → Bool
  | .write .. => true
  | _ => false

/-- The batch is committed, its answer not yet stored. -/
def Unsaved (t : Thread σ ρ α) : Prop := t.inside = false ∧ isWrite t.prog = true

/-- The next statement commits a batch. -/
def Creates (t : Thread σ ρ α) : Prop :=
  match t.prog with
  | .commit k => isWrite k = true
  | _ => False

instance (t : Thread σ ρ α) : Decidable (Unsaved t) := inferInstanceAs (Decidable (_ ∧ _))

instance : (t : Thread σ ρ α) → Decidable (Creates t)
  | ⟨.commit k,_,_,_,_⟩ => inferInstanceAs (Decidable (isWrite k = true))
  | ⟨.done _,_,_,_,_⟩ => isFalse id
  | ⟨.fail,_,_,_,_⟩ => isFalse id
  | ⟨.read _,_,_,_,_⟩ => isFalse id
  | ⟨.lock _ _,_,_,_,_⟩ => isFalse id
  | ⟨.write .., _,_,_,_⟩ => isFalse id
  | ⟨.enter _,_,_,_,_⟩ => isFalse id

/-- A batch is committed only when nothing is stored and no other batch waits
for its answer to be stored, and a program is not cut off there. -/
def InTurn (stored : σ → Option β) : Move → System σ ρ α → Prop
  | .run i, s => ∀ t ∈ s.threads[i]?, Creates t →
    stored s.committed = none ∧ ∀ t' ∈ s.threads, ¬Unsaved t'
  | .abort i, s => ∀ t ∈ s.threads[i]?, ¬Unsaved t

instance (stored : σ → Option β) :
    (m : Move) → (s : System σ ρ α) → Decidable (InTurn stored m s)
  | .run i, s => inferInstanceAs (Decidable (∀ t ∈ s.threads[i]?, Creates t → _ ∧ _))
  | .abort i, s => inferInstanceAs (Decidable (∀ t ∈ s.threads[i]?, ¬Unsaved t))

section Lawful
variable (K : Keyed σ α β γ)

/-- What is stored stays. -/
def Later (c c' : σ) : Prop := ∀ b, K.stored c = some b → K.stored c' = some b

def Lawful : Prog σ ρ α → Bool → (σ → σ) → σ → Prop
  | .done x, _, _, c => ∀ b ∈ K.answer x, K.stored c = some b
  | .fail, _, _, _ => True
  | .read k, inside, redo, c => ∀ c', Later K c c' →
    (inside = false → isWrite (k (redo c')) = false) ∧ Lawful (k (redo c')) inside redo c'
  | .lock _ k, inside, redo, c => inside = true → ∀ c', Later K c c' →
    Lawful (k (redo c')) inside redo c'
  | .write _ _ ok u k onError, inside, redo, c =>
    (inside = true → ∀ c', Later K c c' →
      (ok (redo c') = true → Lawful k true (u ∘ redo) c') ∧
      (ok (redo c') = false → Lawful onError true redo c')) ∧
    (inside = false → isWrite k = false ∧ isWrite onError = false ∧ ∀ c', Later K c c' →
      (ok c' = true → Later K c' (u c') ∧ (K.stored (u c')).isSome ∧
        K.created (u c') ⊆ K.created c' ∧ Lawful k false redo (u c')) ∧
      (ok c' = false → (K.stored c').isSome ∧ Lawful onError false redo c'))
  | .enter k, _, _, c => ∀ c', Later K c c' → Lawful k true id c'
  | .commit k, _, redo, c => ∀ c', Later K c c' →
    K.stored (redo c') = K.stored c' ∧ Lawful k false id (redo c') ∧
    (isWrite k = false → K.created (redo c') ⊆ K.created c') ∧
    (isWrite k = true → ∃ b, K.batch b ∧ K.created (redo c') ⊆ K.created c' ∪ b)

def LawfulThread (t : Thread σ ρ α) (c : σ) : Prop := Lawful K t.prog t.inside t.redo c

variable {K} {c c' c'' : σ}

theorem Later.refl (c : σ) : Later K c c := fun _ h => h

theorem Later.trans (h : Later K c c') (h' : Later K c' c'') : Later K c c'' :=
  fun b hb => h' b (h b hb)

theorem later_of_eq (h : K.stored c' = K.stored c) : Later K c c' := fun _ hb => h.trans hb

theorem Lawful.later {p : Prog σ ρ α} {inside : Bool} {redo : σ → σ}
    (h : Lawful K p inside redo c) (hl : Later K c c') : Lawful K p inside redo c' := by
  cases p with
  | done x => exact fun b hb => hl b (h b hb)
  | fail => trivial
  | read k => exact fun c'' h' => h c'' (hl.trans h')
  | lock rows k => exact fun hin c'' h' => h hin c'' (hl.trans h')
  | write expects rows test u k e =>
    refine ⟨fun hin c'' h' => h.1 hin c'' (hl.trans h'),fun hout => ?_⟩
    obtain ⟨hk, he, hrest⟩ := h.2 hout
    exact ⟨hk,he,fun c'' h' => hrest c'' (hl.trans h')⟩
  | enter k => exact fun c'' h' => h c'' (hl.trans h')
  | commit k => exact fun c'' h' => h c'' (hl.trans h')

end Lawful

section Effects
variable {K : Keyed σ α β γ} {c : σ} {t : Thread σ ρ α}

/-- What one statement of a lawful program does to the store: nothing of
account, or it commits a batch, or it stores the answer, or finds one. -/
inductive Effect (K : Keyed σ α β γ) (t t' : Thread σ ρ α) (c c' : σ) : Prop
  | quiet : (Unsaved t' ↔ Unsaved t) → K.stored c' = K.stored c →
    K.created c' ⊆ K.created c → Effect K t t' c c'
  | batch {b : Set γ} : Creates t → Unsaved t' → K.stored c' = K.stored c → K.batch b →
    K.created c' ⊆ K.created c ∪ b → Effect K t t' c c'
  | saved : Unsaved t → ¬Unsaved t' → Later K c c' → (K.stored c').isSome →
    K.created c' ⊆ K.created c → Effect K t t' c c'

theorem unsaved_inside (h : t.inside = true) : ¬Unsaved t := fun hu => by simp [hu.1] at h

theorem unsaved_start {p : Prog σ ρ α} : Unsaved (start p) ↔ isWrite p = true := by
  simp [Unsaved, start]

/-- What a thread has waited for does not matter. -/
theorem Effect.waited {w : Option ρ} {t' : Thread σ ρ α} {c' : σ}
    (h : Effect K { t with waits := w } t' c c') : Effect K t t' c c' := by
  cases h with
  | quiet hsame hstored hsub => exact .quiet hsame hstored hsub
  | batch hc hnew hstored hb hsub => exact .batch hc hnew hstored hb hsub
  | saved hold hnew hlater hsome hsub => exact .saved hold hnew hlater hsome hsub

/-- Whatever has been created since the start is one batch, and nothing until
a batch is committed. -/
structure Once (K : Keyed σ α β γ) (start : Set γ) (s : System σ ρ α) : Prop where
  lawful : ∀ t ∈ s.threads, LawfulThread K t s.committed
  single : ∀ (i j : ℕ) (t t' : Thread σ ρ α), s.threads[i]? = some t → s.threads[j]? = some t' →
    Unsaved t → Unsaved t' → i = j
  unsaved : ∀ t ∈ s.threads, Unsaved t → K.stored s.committed = none
  oneBatch : K.created s.committed ⊆ start ∨
    ∃ b, K.batch b ∧ K.created s.committed ⊆ start ∪ b
  fresh : K.stored s.committed = none → (∀ t ∈ s.threads, ¬Unsaved t) →
    K.created s.committed ⊆ start

theorem once_begin {ps : List (Prog σ ρ α)} (h : ∀ p ∈ ps, Lawful K p false id c)
    (hread : ∀ p ∈ ps, isWrite p = false) : Once K (K.created c) (begin ps c) := by
  have hun (t : Thread σ ρ α) (ht : t ∈ (begin ps c).threads) : ¬Unsaved t := by
    obtain ⟨p, hp, rfl⟩ := List.mem_map.mp ht
    simp [unsaved_start, hread p hp]
  refine ⟨fun t ht => ?_,fun i j t t' hi _ hu _ => ?_,fun t ht hu => absurd hu (hun t ht),
    Or.inl subset_rfl,fun _ _ => subset_rfl⟩
  · obtain ⟨p, hp, rfl⟩ := List.mem_map.mp ht
    exact h p hp
  · exact absurd hu (hun t (List.mem_of_getElem? hi))

/-- The threads after one of them has moved. -/
theorem mem_replace {s : System σ ρ α} {i : ℕ} {c' : σ} {t' u : Thread σ ρ α}
    (hu : u ∈ (s.replace i (c',t')).threads) :
    u = t' ∨ ∃ j, j ≠ i ∧ s.threads[j]? = some u := by
  obtain ⟨j, hj⟩ := List.getElem?_of_mem hu
  rcases replace_threads hj with ⟨-, he⟩ | ⟨hne, hj⟩
  · exact Or.inl he
  · exact Or.inr ⟨j,hne,hj⟩

theorem mem_replace_self {s : System σ ρ α} {i : ℕ} {c' : σ} {t t' : Thread σ ρ α}
    (hi : s.threads[i]? = some t) : t' ∈ (s.replace i (c',t')).threads := by
  have hlt := (List.getElem?_eq_some_iff.mp hi).1
  exact List.mem_of_getElem? (List.getElem?_set_self hlt)

theorem mem_replace_ne {s : System σ ρ α} {i j : ℕ} {c' : σ} {t' u : Thread σ ρ α} (hne : j ≠ i)
    (hj : s.threads[j]? = some u) : u ∈ (s.replace i (c',t')).threads := by
  have hsame : (s.replace i (c',t')).threads[j]? = some u :=
    (List.getElem?_set_ne hne.symm).trans hj
  exact List.mem_of_getElem? hsame

section Replace
variable {start : Set γ} {s : System σ ρ α} {i : ℕ} {t t' : Thread σ ρ α} {c' : σ}

theorem Once.lawful_replace (h : Once K start s) (hlawful : LawfulThread K t' c')
    (hlater : Later K s.committed c') :
    ∀ u ∈ (s.replace i (c',t')).threads, LawfulThread K u c' := by
  intro u hu
  rcases mem_replace hu with rfl | ⟨j, -, hj⟩
  · exact hlawful
  · exact (h.lawful u (List.mem_of_getElem? hj)).later hlater

theorem unsaved_replace (hnew : Unsaved t' → Unsaved t) (hi : s.threads[i]? = some t) {j : ℕ}
    {u : Thread σ ρ α} (hj : (s.replace i (c',t')).threads[j]? = some u) (hu : Unsaved u) :
    ∃ v, s.threads[j]? = some v ∧ Unsaved v := by
  rcases replace_threads hj with ⟨rfl, rfl⟩ | ⟨-, hj⟩
  · exact ⟨t,hi,hnew hu⟩
  · exact ⟨u,hj,hu⟩

theorem Once.single_replace (h : Once K start s) (hnew : Unsaved t' → Unsaved t)
    (hi : s.threads[i]? = some t) (j k : ℕ) (u v : Thread σ ρ α)
    (hj : (s.replace i (c',t')).threads[j]? = some u)
    (hk : (s.replace i (c',t')).threads[k]? = some v) (hu : Unsaved u) (hv : Unsaved v) :
    j = k := by
  obtain ⟨u', hj', hu'⟩ := unsaved_replace hnew hi hj hu
  obtain ⟨v', hk', hv'⟩ := unsaved_replace hnew hi hk hv
  exact h.single j k u' v' hj' hk' hu' hv'

theorem Once.oneBatch_sub (h : Once K start s) (hsub : K.created c' ⊆ K.created s.committed) :
    K.created c' ⊆ start ∨ ∃ b, K.batch b ∧ K.created c' ⊆ start ∪ b := by
  rcases h.oneBatch with hnone | ⟨b, hb, hone⟩
  · exact Or.inl (hsub.trans hnone)
  · exact Or.inr ⟨b,hb,hsub.trans hone⟩

theorem Once.quiet (h : Once K start s) (hi : s.threads[i]? = some t)
    (hlawful : LawfulThread K t' c') (hsame : Unsaved t' ↔ Unsaved t)
    (hstored : K.stored c' = K.stored s.committed) (hsub : K.created c' ⊆ K.created s.committed) :
    Once K start (s.replace i (c',t')) where
  lawful := h.lawful_replace hlawful (later_of_eq hstored)
  single := h.single_replace hsame.mp hi
  unsaved u hmem hu := by
    obtain ⟨j, hj⟩ := List.getElem?_of_mem hmem
    obtain ⟨v, hv, hun⟩ := unsaved_replace hsame.mp hi hj hu
    exact hstored.trans (h.unsaved v (List.mem_of_getElem? hv) hun)
  oneBatch := h.oneBatch_sub hsub
  fresh hnone hall := by
    refine hsub.trans (h.fresh (hstored.symm.trans hnone) fun u hmem hu => ?_)
    obtain ⟨j, hj⟩ := List.getElem?_of_mem hmem
    by_cases hji : j = i
    · have htu : t = u := Option.some.inj (hi.symm.trans (hji ▸ hj))
      exact hall t' (mem_replace_self hi) (hsame.mpr (htu ▸ hu))
    · exact hall u (mem_replace_ne hji hj) hu

theorem Once.batch (h : Once K start s) (hi : s.threads[i]? = some t)
    (hlawful : LawfulThread K t' c') (hnew : Unsaved t')
    (hstored : K.stored c' = K.stored s.committed) (hnone : K.stored s.committed = none)
    (hall : ∀ u ∈ s.threads, ¬Unsaved u) {b : Set γ} (hb : K.batch b)
    (hsub : K.created c' ⊆ K.created s.committed ∪ b) : Once K start (s.replace i (c',t')) where
  lawful := h.lawful_replace hlawful (later_of_eq hstored)
  single j k u v hj hk hu hv := by
    rcases replace_threads hj with ⟨hji, -⟩ | ⟨-, hj⟩
    · rcases replace_threads hk with ⟨hki, -⟩ | ⟨-, hk⟩
      · exact hji.trans hki.symm
      · exact absurd hv (hall v (List.mem_of_getElem? hk))
    · exact absurd hu (hall u (List.mem_of_getElem? hj))
  unsaved _ _ _ := hstored.trans hnone
  oneBatch := Or.inr ⟨b,hb,hsub.trans (Set.union_subset_union_left b (h.fresh hnone hall))⟩
  fresh _ hno := absurd hnew (hno t' (mem_replace_self hi))

theorem Once.saved (h : Once K start s) (hi : s.threads[i]? = some t)
    (hlawful : LawfulThread K t' c') (hold : Unsaved t) (hnew : ¬Unsaved t')
    (hlater : Later K s.committed c') (hsome : (K.stored c').isSome)
    (hsub : K.created c' ⊆ K.created s.committed) : Once K start (s.replace i (c',t')) where
  lawful := h.lawful_replace hlawful hlater
  single := h.single_replace (fun _ => hold) hi
  unsaved u hmem hu := by
    obtain ⟨j, hj⟩ := List.getElem?_of_mem hmem
    rcases replace_threads hj with ⟨-, rfl⟩ | ⟨hne, hj⟩
    · exact absurd hu hnew
    · exact absurd (h.single j i u t hj hi hu hold) hne
  oneBatch := h.oneBatch_sub hsub
  fresh hnone _ := absurd hnone (Option.isSome_iff_ne_none.mp hsome)

theorem Once.replace (h : Once K start s) (hi : s.threads[i]? = some t)
    (hlawful : LawfulThread K t' c') (heffect : Effect K t t' s.committed c')
    (hturn : Creates t → K.stored s.committed = none ∧ ∀ u ∈ s.threads, ¬Unsaved u) :
    Once K start (s.replace i (c',t')) := by
  cases heffect with
  | quiet hsame hstored hsub => exact h.quiet hi hlawful hsame hstored hsub
  | batch hc hnew hstored hb hsub =>
    obtain ⟨hnone, hall⟩ := hturn hc
    exact h.batch hi hlawful hnew hstored hnone hall hb hsub
  | saved hold hnew hlater hsome hsub => exact h.saved hi hlawful hold hnew hlater hsome hsub

end Replace

/-- Every answer is the one that is stored. -/
theorem Once.answers {start : Set γ} {s : System σ ρ α} (h : Once K start s) {x : α}
    (ht : t ∈ s.threads) (hx : t.result = some x) : ∀ b ∈ K.answer x,
      K.stored s.committed = some b := by
  have hlawful := h.lawful t ht
  obtain ⟨prog, inside, held, redo, waits⟩ := t
  cases prog with
  | done y => exact Option.some.inj hx ▸ hlawful
  | _ => cases hx

end Effects

section Runs
variable [DecidableEq ρ] {K : Keyed σ α β γ} {c : σ} {t : Thread σ ρ α}

theorem advance_lawful (h : LawfulThread K t c) :
    LawfulThread K (t.advance c).2 (t.advance c).1 ∧
    Effect K t (t.advance c).2 c (t.advance c).1 := by
  obtain ⟨prog, inside, held, redo, waits⟩ := t
  -- Only the commit of a batch and the write after it count; all else is quiet.
  have hquiet {t' : Thread σ ρ α} (hold : ¬Unsaved ⟨prog,inside,held,redo,waits⟩)
      (hnew : ¬Unsaved t') : Effect K ⟨prog,inside,held,redo,waits⟩ t' c c :=
    .quiet (by simp [hold, hnew]) rfl subset_rfl
  cases prog with
  | done x =>
    exact ⟨h,hquiet (by simp [Unsaved, isWrite]) (by simp [Thread.advance, Unsaved, isWrite])⟩
  | fail =>
    exact ⟨trivial,hquiet (by simp [Unsaved, isWrite])
      (by simp [Thread.advance, unsaved_start, isWrite])⟩
  | read k =>
    obtain ⟨hwrite, hk⟩ := h c (Later.refl c)
    refine ⟨hk,hquiet (by simp [Unsaved, isWrite]) (fun hu => ?_)⟩
    have hno : isWrite (k (redo c)) = true := hu.2
    simp [hwrite hu.1] at hno
  | lock rows k =>
    cases inside with
    | false =>
      exact ⟨trivial,hquiet (by simp [Unsaved, isWrite])
        (by simp [Thread.advance, unsaved_start, isWrite])⟩
    | true =>
      simp only [Thread.advance, if_true]
      split
      · exact ⟨h,hquiet (unsaved_inside rfl) (unsaved_inside rfl)⟩
      · exact ⟨h rfl c (Later.refl c),hquiet (unsaved_inside rfl) (unsaved_inside rfl)⟩
  | write expects rows test u k e =>
    cases inside with
    | true =>
      obtain ⟨hk, he⟩ := h.1 rfl c (Later.refl c)
      simp only [Thread.advance, if_true]
      split
      · exact ⟨h,hquiet (unsaved_inside rfl) (unsaved_inside rfl)⟩
      · split
        · rename_i htest
          exact ⟨hk htest,hquiet (unsaved_inside rfl) (unsaved_inside rfl)⟩
        · rename_i htest
          exact ⟨he (by simpa using htest),hquiet (unsaved_inside rfl) (unsaved_inside rfl)⟩
    | false =>
      obtain ⟨hwk, hwe, hrest⟩ := h.2 rfl
      obtain ⟨hsave, hfound⟩ := hrest c (Later.refl c)
      have hun : Unsaved (⟨.write expects rows test u k e,false,held,redo,waits⟩ :
          Thread σ ρ α) := ⟨rfl,rfl⟩
      simp only [Thread.advance, Bool.false_eq_true, if_false]
      split
      · rename_i htest
        obtain ⟨hlater, hsome, hsub, hk⟩ := hsave htest
        exact ⟨hk,.saved hun (by simp [Unsaved, hwk]) hlater hsome hsub⟩
      · rename_i htest
        obtain ⟨hsome, he⟩ := hfound (by simpa using htest)
        exact ⟨he,.saved hun (by simp [Unsaved, hwe]) (Later.refl c) hsome subset_rfl⟩
  | enter k => exact ⟨h c (Later.refl c),hquiet (by simp [Unsaved, isWrite]) (unsaved_inside rfl)⟩
  | commit k =>
    obtain ⟨hsame, hk, hnone, hbatch⟩ := h c (Later.refl c)
    refine ⟨hk,?_⟩
    cases hw : isWrite k with
    | false =>
      have hnew : ¬Unsaved (start k : Thread σ ρ α) := by simp [unsaved_start, hw]
      exact .quiet ⟨fun hu => absurd hu hnew,fun hu => by cases hu.2⟩ hsame (hnone hw)
    | true =>
      obtain ⟨b, hb, hsub⟩ := hbatch hw
      exact .batch hw (unsaved_start.mpr hw) hsame hb hsub

theorem once_step {start : Set γ} (m : Move) (s : System σ ρ α) (hturn : InTurn K.stored m s)
    (h : Once K start s) : Once K start (step m s) := by
  cases m with
  | abort i =>
    simp only [step]
    split
    · rename_i hlt
      have hi := List.getElem?_eq_getElem hlt
      have hold := hturn _ hi
      exact h.quiet hi trivial (by simp [unsaved_start, isWrite, hold]) rfl subset_rfl
    · exact h
  | run i =>
    simp only [step]
    split
    · exact h
    · rename_i t hi
      have hlawful := h.lawful t (List.mem_of_getElem? hi)
      split
      · exact h.quiet hi hlawful Iff.rfl rfl subset_rfl
      · obtain ⟨hnext, heffect⟩ := @advance_lawful σ ρ α β γ _ K s.committed
          { t with waits := none } hlawful
        exact h.replace hi hnext heffect.waited (hturn t hi)

theorem once_run {start : Set γ} (ms : List Move) (s : System σ ρ α)
    (h : Meets step (InTurn K.stored) ms s) (hs : Once K start s) :
    Once K start (run step ms s) := by
  induction ms generalizing s with
  | nil => exact hs
  | cons m ms ih => exact ih _ h.2 (once_step m s h.1 hs)

end Runs

end KeyedOnce
