import CloudPlay.TransactionProgram

/-!
# Rely and guarantee for row locks

A discipline says what the contents of a row may be and how they may change.
While a thread holds rows it can rely on these staying as they are, and on all
others to respect the discipline; when it commits it must respect it and leave
the rows it does not hold. A program is safe when it can go on from every
store it relies on. Safe threads that hold disjoint rows keep the discipline
in every fresh run.
-/

set_option autoImplicit false

namespace TransactionRely
open TransactionProgram TransitionRun

structure Discipline (σ ρ β : Type*) where
  look : ρ → σ → β
  good : ρ → β → Prop
  moves : ρ → β → β → Prop
  refl : ∀ r b, moves r b b
  trans : ∀ r a b c, moves r a b → moves r b c → moves r a c

variable {σ ρ β α : Type*}

def Discipline.Inv (D : Discipline σ ρ β) (c : σ) : Prop := ∀ r, D.good r (D.look r c)

def Discipline.Evolves (D : Discipline σ ρ β) (c c' : σ) : Prop :=
  ∀ r, D.moves r (D.look r c) (D.look r c')

/-- A change of the store by others than the holder of the rows. -/
structure Rely (D : Discipline σ ρ β) (held : List ρ) (c c' : σ) : Prop where
  inv : D.Inv c'
  evolves : D.Evolves c c'
  same : ∀ r ∈ held, D.look r c' = D.look r c

/-- A change of the store by the holder of the rows. -/
structure Guarantee (D : Discipline σ ρ β) (held : List ρ) (c c' : σ) : Prop where
  inv : D.Inv c'
  evolves : D.Evolves c c'
  same : ∀ r, r ∉ held → D.look r c' = D.look r c

/-- No row is held twice. -/
def Disjoint (s : System σ ρ α) : Prop :=
  ∀ (i j : ℕ) (t t' : Thread σ ρ α), s.threads[i]? = some t → s.threads[j]? = some t' → i ≠ j →
    ∀ r ∈ t.held, r ∉ t'.held

section Rules
variable {D : Discipline σ ρ β} {held rows : List ρ} {a b c : σ}

theorem Discipline.Evolves.refl (c : σ) : D.Evolves c c := fun r => D.refl r _

theorem Discipline.Evolves.trans (h : D.Evolves a b) (h' : D.Evolves b c) : D.Evolves a c :=
  fun r => D.trans r _ _ _ (h r) (h' r)

theorem Rely.refl (h : D.Inv c) : Rely D held c c :=
  ⟨h,Discipline.Evolves.refl c,fun _ _ => rfl⟩

theorem Rely.trans (h : Rely D held a b) (h' : Rely D held b c) : Rely D held a c :=
  ⟨h'.inv,h.evolves.trans h'.evolves,fun r hr => (h'.same r hr).trans (h.same r hr)⟩

theorem Rely.weaken (h : Rely D held a b) (hsub : rows ⊆ held) : Rely D rows a b :=
  ⟨h.inv,h.evolves,fun r hr => h.same r (hsub hr)⟩

theorem Guarantee.refl (h : D.Inv c) : Guarantee D held c c :=
  ⟨h,Discipline.Evolves.refl c,fun _ _ => rfl⟩

theorem Guarantee.rely (h : Guarantee D rows a b) (hd : ∀ r ∈ held, r ∉ rows) : Rely D held a b :=
  ⟨h.inv,h.evolves,fun r hr => h.same r (hd r hr)⟩

end Rules

section Safety
variable (D : Discipline σ ρ β)

/-- From here on the program keeps its guarantee, whatever it relies on happens
before each of its statements. A statement finds at least its own rows
locked. -/
def Safe : Prog σ ρ α → Bool → List ρ → (σ → σ) → σ → Prop
  | .done _, _, _, _, _ => True
  | .fail, _, _, _, _ => True
  | .read k, inside, held, redo, c => ∀ c', Rely D held c c' →
    Safe (k (redo c')) inside held redo c'
  | .lock rows k, inside, held, redo, c => inside = true → ∀ held' c', held ⊆ held' →
    Rely D held c c' → rows (redo c') ⊆ held' → Safe (k (redo c')) inside held' redo c'
  | .write expects rows ok u k onError, inside, held, redo, c => ∀ c', Rely D held c c' →
    (inside = true → ∀ held', held ⊆ held' → rows ⊆ held' →
      (ok (redo c') = true → expects (redo c') = true → Safe k inside held' (u ∘ redo) c') ∧
      (ok (redo c') = false → Safe onError inside held' redo c')) ∧
    (inside = false →
      (ok (redo c') = true → expects (redo c') = true →
        Guarantee D rows c' (u c') ∧ Safe k inside held redo (u c')) ∧
      (ok (redo c') = false → Safe onError inside held redo c'))
  | .enter k, _, held, _, c => ∀ c', Rely D held c c' → Safe k true [] id c'
  | .commit k, _, held, redo, c => ∀ c', Rely D held c c' →
    Guarantee D held c' (redo c') ∧ Safe k false [] id (redo c')

def SafeThread (t : Thread σ ρ α) (c : σ) : Prop := Safe D t.prog t.inside t.held t.redo c

structure Good (s : System σ ρ α) : Prop where
  inv : D.Inv s.committed
  disjoint : Disjoint s
  settled : ∀ t ∈ s.threads, t.Settled
  safe : ∀ t ∈ s.threads, SafeThread D t s.committed

variable {D}

/-- Safety survives what the thread relies on. -/
theorem SafeThread.stable {t : Thread σ ρ α} {c c' : σ} (h : SafeThread D t c)
    (hr : Rely D t.held c c') : SafeThread D t c' := by
  obtain ⟨prog, inside, held, redo, waits⟩ := t
  cases prog with
  | done => trivial
  | fail => trivial
  | read k => exact fun c'' h' => h c'' (hr.trans h')
  | lock rows k =>
    exact fun hin held' c'' hsub h' => h hin held' c'' hsub (hr.trans h')
  | write expects rows ok u k onError => exact fun c'' h' => h c'' (hr.trans h')
  | enter k => exact fun c'' h' => h c'' (hr.trans h')
  | commit k => exact fun c'' h' => h c'' (hr.trans h')

/-- One thread moves on; the others can rely on what it did. -/
theorem Good.replace {s : System σ ρ α} (h : Good D s) (i : ℕ) (t' : Thread σ ρ α) (c' : σ)
    (hinv : D.Inv c') (hset : t'.Settled) (hsafe : SafeThread D t' c')
    (hothers : ∀ j u, j ≠ i → s.threads[j]? = some u →
      Rely D u.held s.committed c' ∧ ∀ r ∈ t'.held, r ∉ u.held) :
    Good D (s.replace i (c',t')) := by
  refine ⟨hinv,?_,?_,?_⟩
  · intro j k u v hj hk hne r hr
    rcases replace_threads hj with ⟨rfl, rfl⟩ | ⟨hji, hju⟩
    · rcases replace_threads hk with ⟨rfl, rfl⟩ | ⟨hki, hkv⟩
      · exact absurd rfl hne
      · exact (hothers k v hki hkv).2 r hr
    · rcases replace_threads hk with ⟨rfl, rfl⟩ | ⟨hki, hkv⟩
      · exact fun hr' => (hothers j u hji hju).2 r hr' hr
      · exact h.disjoint j k u v hju hkv hne r hr
  · intro u hu
    obtain ⟨j, hj⟩ := List.getElem?_of_mem hu
    rcases replace_threads hj with ⟨rfl, rfl⟩ | ⟨-, hj⟩
    · exact hset
    · exact h.settled u (List.mem_of_getElem? hj)
  · intro u hu
    obtain ⟨j, hj⟩ := List.getElem?_of_mem hu
    rcases replace_threads hj with ⟨rfl, rfl⟩ | ⟨hji, hj⟩
    · exact hsafe
    · exact (h.safe u (List.mem_of_getElem? hj)).stable (hothers j u hji hj).1

theorem good_begin {ps : List (Prog σ ρ α)} {c : σ} (hinv : D.Inv c)
    (hsafe : ∀ p ∈ ps, Safe D p false [] id c) : Good D (begin ps c) := by
  refine ⟨hinv,?_,?_,?_⟩
  · intro i j t t' hi hj hne r hr
    obtain ⟨p, -, rfl⟩ := List.mem_map.mp (List.mem_of_getElem? hi)
    simp [start] at hr
  · intro t ht
    obtain ⟨p, -, rfl⟩ := List.mem_map.mp ht
    exact settled_start p
  · intro t ht
    obtain ⟨p, hp, rfl⟩ := List.mem_map.mp ht
    exact hsafe p hp

variable [DecidableEq ρ]

/-- One statement of a safe thread: it stays safe, takes no locks but the ones
it needs, and a change of the store is one it guarantees with its locks. -/
theorem advance_safe {t : Thread σ ρ α} {c : σ} (h : SafeThread D t c) (hset : t.Settled)
    (hinv : D.Inv c) (hexp : t.Expects c) :
    SafeThread D (t.advance c).2 (t.advance c).1 ∧
    (∀ r ∈ (t.advance c).2.held, r ∈ t.held ∨ r ∈ t.needs c) ∧
    ((t.advance c).1 = c ∨ Guarantee D (t.held ++ t.needs c) c (t.advance c).1) := by
  have hr : Rely D t.held c c := Rely.refl hinv
  obtain ⟨prog, inside, held, redo, waits⟩ := t
  cases prog with
  | done => exact ⟨trivial,fun r hr => Or.inl hr,Or.inl rfl⟩
  | fail => exact ⟨trivial,by simp [Thread.advance, start],Or.inl rfl⟩
  | read k => exact ⟨h c hr,fun r hr => Or.inl hr,Or.inl rfl⟩
  | lock rows k =>
    cases inside with
    | false => exact ⟨trivial,by simp [Thread.advance, start],Or.inl rfl⟩
    | true =>
      simp only [Thread.advance, Thread.needs, if_true]
      split
      · rename_i r hmiss
        refine ⟨?_,by simp +contextual [hmiss],Or.inl rfl⟩
        intro hin held' c' hsub h'
        have hcons := List.subset_cons_self r held
        exact h hin held' c' (List.Subset.trans hcons hsub) (h'.weaken hcons)
      · rename_i hmiss
        have hrows := (Thread.missing_eq_none _ _).mp hmiss
        exact ⟨h rfl held c (List.Subset.refl _) hr hrows,fun r hr => Or.inl hr,Or.inl rfl⟩
  | write expects rows ok u k onError =>
    cases inside with
    | true =>
      simp only [Thread.advance, Thread.needs, if_true]
      split
      · rename_i r hmiss
        refine ⟨?_,by simp +contextual [hmiss],Or.inl rfl⟩
        intro c' h'
        have hcons := List.subset_cons_self r held
        have hw := h c' (h'.weaken hcons)
        exact ⟨fun hin held' hsub => hw.1 hin held' (List.Subset.trans hcons hsub),
          fun hout => by cases hout⟩
      · rename_i hmiss
        have hrows := (Thread.missing_eq_none _ _).mp hmiss
        have hw := (h c hr).1 rfl held (List.Subset.refl _) hrows
        split
        · rename_i hok
          exact ⟨hw.1 hok (hexp (fun _ => hmiss) hok),fun r hr => Or.inl hr,Or.inl rfl⟩
        · rename_i hok
          exact ⟨hw.2 (by simpa using hok),fun r hr => Or.inl hr,Or.inl rfl⟩
    | false =>
      obtain ⟨hredo, -⟩ := hset rfl
      simp only at hredo
      subst hredo
      have hw := (h c hr).2 rfl
      simp only [Thread.advance, Thread.needs, Bool.false_eq_true, if_false]
      split
      · rename_i hok
        obtain ⟨hg, hsafe⟩ := hw.1 hok (hexp (fun hin => by cases hin) hok)
        refine ⟨hsafe,fun r hr => Or.inl hr,Or.inr ⟨hg.inv,hg.evolves,fun r hr => hg.same r ?_⟩⟩
        exact fun hmem => hr (List.mem_append_right held hmem)
      · rename_i hok
        exact ⟨hw.2 (by simpa using hok),fun r hr => Or.inl hr,Or.inl rfl⟩
  | enter k => exact ⟨h c hr,by simp [Thread.advance],Or.inl rfl⟩
  | commit k =>
    obtain ⟨hg, hsafe⟩ := h c hr
    refine ⟨hsafe,by simp [Thread.advance, start],Or.inr ⟨hg.inv,hg.evolves,fun r hr => ?_⟩⟩
    exact hg.same r fun hmem => hr (List.mem_append_left _ hmem)

/-- A row that is needed and free is not held by another thread. -/
theorem free_row {s : System σ ρ α} {i j : ℕ} {t t' : Thread σ ρ α} (hfree : s.blocks i t = none)
    (hj : s.threads[j]? = some t') (hne : j ≠ i) : ∀ r ∈ t.needs s.committed, r ∉ t'.held := by
  intro r hr hheld
  simp only [System.blocks, System.taken, List.find?_eq_none, List.any_eq_true,
    decide_eq_true_eq, not_exists, not_and] at hfree
  exact hfree r hr t' (List.mem_eraseIdx_iff_getElem?.mpr ⟨j,hne,hj⟩) hheld

theorem good_step (m : Move) (s : System σ ρ α) (hf : Fresh m s) (h : Good D s) :
    Good D (step m s) ∧ D.Evolves s.committed (step m s).committed := by
  cases m with
  | abort i =>
    simp only [step]
    split
    · refine ⟨h.replace i (start .fail) s.committed h.inv (settled_start _) trivial ?_,
        Discipline.Evolves.refl _⟩
      exact fun j u _ _ => ⟨Rely.refl h.inv,by simp [start]⟩
    · exact ⟨h,Discipline.Evolves.refl _⟩
  | run i =>
    simp only [step]
    split
    · exact ⟨h,Discipline.Evolves.refl _⟩
    · rename_i t hi
      have hmem := List.mem_of_getElem? hi
      split
      · rename_i r _
        refine ⟨h.replace i { t with waits := some r } s.committed h.inv (h.settled t hmem)
          (h.safe t hmem) ?_,Discipline.Evolves.refl _⟩
        exact fun j u hji hj => ⟨Rely.refl h.inv,h.disjoint i j t u hi hj hji.symm⟩
      · rename_i hfree
        have hset := h.settled t hmem
        obtain ⟨hsafe, hheld, hchange⟩ := @advance_safe _ _ _ _ D _ { t with waits := none }
          s.committed (h.safe t hmem) hset h.inv (hf t hi hfree)
        have hapart (j : ℕ) (u : Thread σ ρ α) (hji : j ≠ i) (hj : s.threads[j]? = some u) :
            ∀ r, r ∈ t.held ∨ r ∈ t.needs s.committed → r ∉ u.held := by
          rintro r (hr | hr)
          · exact h.disjoint i j t u hi hj hji.symm r hr
          · exact free_row hfree hj hji r hr
        have hset' := (advance_finish (t := { t with waits := none }) hset s.committed).1
        have hg : Guarantee D (t.held ++ t.needs s.committed) s.committed
            ({ t with waits := none }.advance s.committed).1 := by
          rcases hchange with hsame | hg
          · exact hsame.symm ▸ Guarantee.refl h.inv
          · exact hg
        refine ⟨h.replace i _ _ hg.inv hset' hsafe ?_,hg.evolves⟩
        intro j u hji hj
        refine ⟨hg.rely fun r hr hmem => ?_,fun r hr => hapart j u hji hj r (hheld r hr)⟩
        exact hapart j u hji hj r (List.mem_append.mp hmem) hr

theorem good_run (ms : List Move) (s : System σ ρ α) (h : Meets step Fresh ms s)
    (hs : Good D s) :
    Good D (run step ms s) ∧ D.Evolves s.committed (run step ms s).committed := by
  induction ms generalizing s with
  | nil => exact ⟨hs,Discipline.Evolves.refl _⟩
  | cons m ms ih =>
    obtain ⟨hgood, hev⟩ := good_step m s h.1 hs
    obtain ⟨hrest, hev'⟩ := ih _ h.2 hgood
    exact ⟨hrest,hev.trans hev'⟩

/-- Programs that are safe from a store that keeps the discipline keep it
whenever their statements are interleaved freshly, at every moment and from
any moment to a later one. -/
theorem discipline_run {ps : List (Prog σ ρ α)} {c : σ} (hinv : D.Inv c)
    (hsafe : ∀ p ∈ ps, Safe D p false [] id c) {before after : List Move}
    (h : Meets step Fresh (before ++ after) (begin ps c)) :
    D.Inv (run step before (begin ps c)).committed ∧
    D.Evolves (run step before (begin ps c)).committed
      (run step (before ++ after) (begin ps c)).committed := by
  rw [meets_append] at h
  have hgood := (good_run before _ h.1 (good_begin hinv hsafe)).1
  rw [run_append]
  exact ⟨hgood.inv,(good_run after _ h.2 hgood).2⟩

end Safety

section Updates
variable {D : Discipline σ ρ β} {held : List ρ} {redo u : σ → σ} {c c' : σ}

/-- What the update makes of a row depends on that row alone. -/
def RowLocal (D : Discipline σ ρ β) (u : σ → σ) : Prop :=
  ∀ r a b, D.look r a = D.look r b → D.look r (u a) = D.look r (u b)

/-- The writes so far could be committed. -/
structure Clean (D : Discipline σ ρ β) (held : List ρ) (redo : σ → σ) (c : σ) : Prop where
  rowLocal : RowLocal D redo
  kept : ∀ c', Rely D held c c' → Guarantee D held c' (redo c')

theorem clean_id : Clean D held id c :=
  ⟨fun _ _ _ h => h,fun _ h => Guarantee.refl h.inv⟩

theorem Clean.stable (h : Clean D held redo c) (hr : Rely D held c c') : Clean D held redo c' :=
  ⟨h.rowLocal,fun c'' h' => h.kept c'' (hr.trans h')⟩

theorem Clean.more {held' : List ρ} (h : Clean D held redo c) (hsub : held ⊆ held') :
    Clean D held' redo c := by
  refine ⟨h.rowLocal,fun c' h' => ?_⟩
  have hg := h.kept c' (h'.weaken hsub)
  exact ⟨hg.inv,hg.evolves,fun r hr => hg.same r fun hmem => hr (hsub hmem)⟩

/-- An update the discipline does not see. -/
theorem Clean.unseen (h : Clean D held redo c) (hu : ∀ r a, D.look r (u a) = D.look r a) :
    Clean D held (u ∘ redo) c := by
  refine ⟨fun r a b hab => ?_,fun c' h' => ?_⟩
  · simpa [hu] using h.rowLocal r a b hab
  · have hg := h.kept c' h'
    refine ⟨fun r => ?_,fun r => ?_,fun r hr => ?_⟩
    · simpa [hu] using hg.inv r
    · simpa [hu] using hg.evolves r
    · simpa [hu] using hg.same r hr

theorem guarantee_unseen (h : D.Inv c) (hu : ∀ r, D.look r (u c) = D.look r c) :
    Guarantee D held c (u c) := by
  refine ⟨fun r => ?_,fun r => ?_,fun r _ => hu r⟩
  · exact hu r ▸ h r
  · rw [hu r]
    exact D.refl r _

/-- An update of one held row. -/
theorem Clean.update {r : ρ} (h : Clean D held redo c) (hr : r ∈ held) (hu : RowLocal D u)
    (hothers : ∀ r' a, r' ≠ r → D.look r' (u a) = D.look r' a)
    (hgood : D.good r (D.look r (u (redo c))))
    (hmoves : D.moves r (D.look r (redo c)) (D.look r (u (redo c)))) :
    Clean D held (u ∘ redo) c := by
  refine ⟨fun q a b hab => hu q _ _ (h.rowLocal q a b hab),fun c' h' => ?_⟩
  have hg := h.kept c' h'
  have hrow : D.look r (redo c') = D.look r (redo c) := h.rowLocal r c' c (h'.same r hr)
  have hnew : D.look r (u (redo c')) = D.look r (u (redo c)) := hu r _ _ hrow
  refine ⟨fun q => ?_,fun q => ?_,fun q hq => ?_⟩
  · by_cases hqr : q = r
    · subst hqr
      exact hnew.symm ▸ hgood
    · exact (hothers q _ hqr).symm ▸ hg.inv q
  · by_cases hqr : q = r
    · subst hqr
      have hmove := hmoves
      rw [← hrow, ← hnew] at hmove
      exact D.trans q _ _ _ (hg.evolves q) hmove
    · rw [Function.comp_apply, hothers q _ hqr]
      exact hg.evolves q
  · have hqr : q ≠ r := fun he => hq (he ▸ hr)
    exact (hothers q _ hqr).trans (hg.same q hq)

end Updates

section Phases
variable (D : Discipline σ ρ β)

/-- Safe outside of a transaction, from every store that keeps the discipline. -/
def Calm (p : Prog σ ρ α) : Prop := ∀ c, D.Inv c → Safe D p false [] id c

/-- Safe inside of a transaction whose writes so far could be committed. -/
def Steady (p : Prog σ ρ α) : Prop :=
  ∀ held redo c, D.Inv c → Clean D held redo c → Safe D p true held redo c

variable {D} {k e : Prog σ ρ α}

theorem calm_done (result : α) : Calm D (.done result : Prog σ ρ α) := fun _ _ => trivial

theorem calm_read {k : σ → Prog σ ρ α} (h : ∀ s, Calm D (k s)) : Calm D (.read k) :=
  fun _ _ c' hr => h c' c' hr.inv

theorem calm_enter (h : Steady D k) : Calm D (.enter k) :=
  fun _ _ c' hr => h [] id c' hr.inv clean_id

theorem calm_write {expects : σ → Bool} {rows : List ρ} {test : σ → Bool} {u : σ → σ}
    (hu : ∀ r a, D.look r (u a) = D.look r a) (hk : Calm D k) (he : Calm D e) :
    Calm D (.write expects rows test u k e) := by
  intro c hinv c' hr
  refine ⟨fun hin => (by cases hin),fun _ => ⟨fun _ _ => ?_,fun _ => he c' hr.inv⟩⟩
  have hg : Guarantee D rows c' (u c') := guarantee_unseen hr.inv fun r => hu r c'
  exact ⟨hg,hk _ hg.inv⟩

theorem steady_commit (h : Calm D k) : Steady D (.commit k) := by
  intro held redo c _ hclean c' hr
  have hg := hclean.kept c' hr
  exact ⟨hg,h _ hg.inv⟩

theorem steady_read {k : σ → Prog σ ρ α} (h : ∀ s, Steady D (k s)) : Steady D (.read k) :=
  fun held redo _ _ hclean c' hr => h (redo c') held redo c' hr.inv (hclean.stable hr)

theorem steady_lock {rows : σ → List ρ} {k : σ → Prog σ ρ α} (h : ∀ s, Steady D (k s)) :
    Steady D (.lock rows k) :=
  fun _ redo _ _ hclean _ held' c' hsub hr _ =>
    h (redo c') held' redo c' hr.inv ((hclean.stable hr).more hsub)

theorem steady_write {expects : σ → Bool} {rows : List ρ} {test : σ → Bool} {u : σ → σ}
    (hu : ∀ r a, D.look r (u a) = D.look r a) (hk : Steady D k) (he : Steady D e) :
    Steady D (.write expects rows test u k e) := by
  intro held redo c _ hclean c' hr
  refine ⟨fun _ held' hsub _ => ⟨fun _ _ => ?_,fun _ => ?_⟩,fun hout => by cases hout⟩
  · exact hk held' _ c' hr.inv (((hclean.stable hr).more hsub).unseen hu)
  · exact he held' redo c' hr.inv ((hclean.stable hr).more hsub)

/-- What the writes so far make of a held row stays. -/
theorem Clean.row {held : List ρ} {redo : σ → σ} {c c' : σ} {r : ρ} (h : Clean D held redo c)
    (hr : Rely D held c c') (hmem : r ∈ held) : D.look r (redo c') = D.look r (redo c) :=
  h.rowLocal r c' c (hr.same r hmem)

theorem Clean.good {held : List ρ} {redo : σ → σ} {c : σ} (h : Clean D held redo c)
    (hinv : D.Inv c) : D.Inv (redo c) := (h.kept c (Rely.refl hinv)).inv

end Phases

end TransactionRely
