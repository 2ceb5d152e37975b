import CloudPlay.ControlPlanePrograms
import CloudPlay.RentalTables

/-!
# The stages of a rental

Until it has locked its nodes a rental has decided nothing; from then on to
its commit it is bound to these nodes; after that it changes neither nodes nor
leases. What it is bound to is a function of the tables that commutes with
whatever happens to other nodes.
-/

set_option autoImplicit false

namespace CloudPlay.RentalStages
open KeyedTable ControlPlaneModels ControlPlaneSerializers ControlPlaneDatabase ControlPlaneViews
open ControlPlanePrograms RentalTables TransactionProgram

section
variable (user : User) (req : RentRequest) (draw : ℕ → Uuid × String)

/-- What follows when the rows are locked. -/
def rentLocked (now : Instant) (db : Database) : Program :=
  let nodes := freeNodes db req.region req.gpuTier req.count
  if nodes.length < req.count then
    .commit (answered (errorResponse "NO_CAPACITY" "no capacity"
      (.capacity req.count nodes.length) 409))
  else query (fun db =>
    allocate user.id req.billingUnit (getPrice db req.region req.gpuTier req.billingUnit) now
      draw 0 nodes (fun leases =>
        .commit (rememberKey user .rent req.clientRequestId (rentedBody leases))))

def rentLocking (now : Instant) : Program :=
  forUpdate (fun db => nodeRows (freeNodes db req.region req.gpuTier req.count))
    (rentLocked user req draw now)

theorem rentTransaction_eq (now : Instant) :
    rentTransaction user req draw now = .enter (rentLocking user req draw now) := rfl

/-- The statements up to the locking read. `known` is the answer stored under
the key of the request. -/
inductive Early (known : Option Body) : Program → Bool → Prop
  | lookup : Early known (lookup user .rent req.clientRequestId
      (timezoneNow (rentTransaction user req draw))) false
  | clock : known = none → Early known (timezoneNow (rentTransaction user req draw)) false
  | opening (now : Instant) : known = none →
      Early known (rentTransaction user req draw now) false
  | locking (now : Instant) : known = none → Early known (rentLocking user req draw now) true

/-- Whatever was created, the last statement of the transaction is its commit. -/
def Commits (k : List Lease → Program) : Prop :=
  ∀ ls, ∃ body, k ls = .commit (rememberKey user .rent req.clientRequestId body)

/-- The statements from the locking read to the commit, with what they will
make of the tables. -/
inductive Bound (ids : List String) :
    Program → (Store → Store) → (Database → Database) → Prop
  | refused (r : Response) {redo : Store → Store} : (∀ s, redo s = s) →
      Bound ids (.commit (answered r)) redo (fun db => db)
  | pricing {now : Instant} {nodes : List Node} {k : List Lease → Program}
      {redo : Store → Store} : (∀ n ∈ nodes, n.deviceId ∈ ids) → Commits user req k →
      (∀ s, redo s = s) →
      Bound ids (query (fun db => allocate user.id req.billingUnit
          (getPrice db req.region req.gpuTier req.billingUnit) now draw 0 nodes k)) redo
        (fun db => allocated user.id req.billingUnit
          (getPrice db req.region req.gpuTier req.billingUnit) now draw 0 nodes (fun db => db) db)
  | loop {price : Money} {now : Instant} {i : ℕ} {nodes : List Node} {k : List Lease → Program}
      {e : Database → Database} {redo : Store → Store} : (∀ n ∈ nodes, n.deviceId ∈ ids) →
      Commits user req k → (∀ s, redo s = s.with (e s.db)) →
      (∀ V, Apart ids V → ∀ db, e (V db) = V (e db)) →
      (∀ db d, ((e db).nodes.get? d).isSome = (db.nodes.get? d).isSome) →
      Bound ids (allocate user.id req.billingUnit price now draw i nodes k) redo
        (allocated user.id req.billingUnit price now draw i nodes e)
  | assigning {price : Money} {now : Instant} {i : ℕ} {nodes : List Node}
      {k : List Lease → Program} {e : Database → Database} {redo : Store → Store} {d : String} :
      d ∈ ids → (∀ n ∈ nodes, n.deviceId ∈ ids) → Commits user req k →
      (∀ s, redo s = s.with (e s.db)) → (∀ V, Apart ids V → ∀ db, e (V db) = V (e db)) →
      (∀ db d, ((e db).nodes.get? d).isSome = (db.nodes.get? d).isSome) →
      Bound ids (saveNodeStatus anyState d .assigned
          (allocate user.id req.billingUnit price now draw i nodes k)) redo
        (allocated user.id req.billingUnit price now draw i nodes
          (fun db => (e db).setNodeStatus d .assigned))

abbrev RentThread := Thread Store Row (Option Response)

def IsEarly (known : Option Body) (t : RentThread) : Prop :=
  Early user req draw known t.prog t.inside ∧ ∀ s, t.redo s = s

structure IsBound (t : RentThread) (ids : List String) (outcome : Database → Database) : Prop where
  inside : t.inside = true
  held : ∀ d ∈ ids, Row.node d ∈ t.held
  bound : Bound user req draw ids t.prog t.redo outcome

/-- At most the key is still to be stored. -/
def IsOver (t : RentThread) : Prop :=
  (∃ x, t.prog = .done x) ∨ t.prog = .fail ∨
  t.inside = false ∧ ∃ body, t.prog = rememberKey user .rent req.clientRequestId body

end

section Steps
variable {user : User} {req : RentRequest} {draw : ℕ → Uuid × String} {t : RentThread} {c : Store}

theorem Bound.commutes {ids : List String} {p : Program} {redo : Store → Store}
    {outcome V : Database → Database} (h : Bound user req draw ids p redo outcome)
    (hV : Apart ids V) (db : Database) : outcome (V db) = V (outcome db) := by
  cases h with
  | refused => rfl
  | pricing hids =>
    have hprice : getPrice (V db) req.region req.gpuTier req.billingUnit =
        getPrice db req.region req.gpuTier req.billingUnit := by
      rw [getPrice, hV.prices, getPrice]
    simp only [hprice]
    exact allocated_apart hV hids fun _ => rfl
  | loop hids _ _ he => exact allocated_apart hV hids (he V hV)
  | assigning hd hids _ _ he =>
    refine allocated_apart hV hids fun db => ?_
    rw [he V hV, hV.setNodeStatus _ _ hd]

section Writes
variable {ids : List String} {e : Database → Database} {redo : Store → Store}

theorem created_writes (h : ∀ s, redo s = s.with (e s.db)) {l : Lease} : ∀ s,
    ((fun s : Store => s.with ((s.db.createLease l).getD s.db)) ∘ redo) s =
      s.with (((e s.db).createLease l).getD (e s.db)) := by
  intro s
  rw [Function.comp_apply, h]
  rfl

theorem assigned_writes {d : String} (h : ∀ s, redo s = s.with (e s.db)) : ∀ s,
    ((fun s : Store => s.with (s.db.updateNode d (fun n => { n with status := .assigned })
      (withStatus_deviceId .assigned))) ∘ redo) s =
      s.with ((e s.db).setNodeStatus d .assigned) := by
  intro s
  rw [Function.comp_apply, h]
  rfl

theorem created_commutes (he : ∀ V, Apart ids V → ∀ db, e (V db) = V (e db)) {l : Lease} :
    ∀ V, Apart ids V → ∀ db, ((e (V db)).createLease l).getD (e (V db)) =
      V (((e db).createLease l).getD (e db)) := by
  intro V hV db
  rw [he V hV, hV.createLease]
  cases (e db).createLease l <;> rfl

theorem created_isSome (h : ∀ db d, ((e db).nodes.get? d).isSome = (db.nodes.get? d).isSome)
    {l : Lease} : ∀ db d, ((((e db).createLease l).getD (e db)).nodes.get? d).isSome =
      (db.nodes.get? d).isSome := by
  intro db d
  cases hl : (e db).createLease l with
  | none => exact h db d
  | some db' =>
    rw [Option.getD_some, createLease_same hl]
    exact h db d

theorem assigned_commutes {d : String} (hd : d ∈ ids)
    (he : ∀ V, Apart ids V → ∀ db, e (V db) = V (e db)) :
    ∀ V, Apart ids V → ∀ db, (e (V db)).setNodeStatus d .assigned =
      V ((e db).setNodeStatus d .assigned) := by
  intro V hV db
  rw [he V hV, hV.setNodeStatus _ _ hd]

theorem assigned_isSome {d : String}
    (h : ∀ db d, ((e db).nodes.get? d).isSome = (db.nodes.get? d).isSome) :
    ∀ db d', (((e db).setNodeStatus d .assigned).nodes.get? d').isSome =
      (db.nodes.get? d').isSome := by
  intro db d'
  rw [Database.get?_setNodeStatus]
  split
  · rename_i hd
    rw [Option.isSome_map, hd]
    exact h db d
  · exact h db d'

end Writes

theorem rememberKey_tables (s : Store) (key : IdempotencyKey) :
    tables ((s.with ((s.db.createIdempotencyKey key).getD s.db)).db) = tables s.db := by
  unfold Database.createIdempotencyKey
  cases h : s.db.idempotencyKeys.insert? key <;> simp [Store.with, tables]

/-- When the rental is over, its last statement does not touch the tables. -/
theorem over_advance (h : IsOver user req t) :
    tables (t.advance c).1.db = tables c.db ∧ IsOver user req (t.advance c).2 := by
  obtain ⟨prog, inside, held, redo, waits⟩ := t
  rcases h with ⟨x, hx⟩ | hf | ⟨hin, body, hb⟩
  · simp only at hx
    subst hx
    exact ⟨rfl,Or.inl ⟨x,rfl⟩⟩
  · simp only at hf
    subst hf
    exact ⟨rfl,Or.inr (Or.inl rfl)⟩
  · simp only at hin hb
    subst hin
    cases hk : req.clientRequestId with
    | none =>
      rw [hk] at hb
      simp only [rememberKey] at hb
      subst hb
      exact ⟨rfl,Or.inl ⟨_,rfl⟩⟩
    | some key =>
      rw [hk] at hb
      simp only [rememberKey, save] at hb
      subst hb
      simp only [Thread.advance, Bool.false_eq_true, if_false]
      split
      · exact ⟨rememberKey_tables c _,Or.inl ⟨_,rfl⟩⟩
      · exact ⟨rfl,Or.inr (Or.inl rfl)⟩

/-- One statement of the transaction: it is still bound to the same outcome,
or it has raised without one, or the outcome is committed. -/
theorem bound_advance {ids : List String} {outcome : Database → Database}
    (h : IsBound user req draw t ids outcome)
    (hrows : ∀ d ∈ ids, (c.db.nodes.get? d).isSome) :
    ((t.advance c).1 = c ∧ ∃ outcome', IsBound user req draw (t.advance c).2 ids outcome' ∧
      outcome' c.db = outcome c.db) ∨
    ((t.advance c).1 = c ∧ IsOver user req (t.advance c).2 ∧ outcome c.db = c.db) ∨
    ((t.advance c).1.db = outcome c.db ∧ IsOver user req (t.advance c).2) := by
  obtain ⟨prog, inside, held, redo, waits⟩ := t
  obtain ⟨hin, hheld, hbound⟩ := h
  simp only at hin hheld hbound
  subst hin
  cases hbound with
  | refused r hredo =>
    exact Or.inr (Or.inr ⟨by simp [Thread.advance, hredo],Or.inl ⟨_,rfl⟩⟩)
  | pricing hids hk hredo =>
    refine Or.inl ⟨rfl,_,⟨rfl,hheld,.loop hids hk (fun s => (hredo s).trans rfl)
      (fun _ _ _ => rfl) (fun _ _ => rfl)⟩,?_⟩
    simp only [hredo]
  | @loop price now i nodes k e _ hids hk hredo he hsome =>
    cases nodes with
    | nil =>
      obtain ⟨body, hbody⟩ := hk []
      simp only [allocate, hbody]
      refine Or.inr (Or.inr ⟨by simp [Thread.advance, hredo, Store.with, allocated, rentNodes],?_⟩)
      exact Or.inr (Or.inr ⟨rfl,body,rfl⟩)
    | cons n nodes =>
      have hn := hids n List.mem_cons_self
      have hrest (q : Node) (hq : q ∈ nodes) := hids q (List.mem_cons_of_mem _ hq)
      simp only [Thread.advance, allocate, save, if_true]
      split
      · refine Or.inl ⟨rfl,_,⟨rfl,fun d hd => List.mem_cons_of_mem _ (hheld d hd),?_⟩,rfl⟩
        exact .loop hids hk hredo he hsome
      · have hseen : (redo c).db = e c.db := congrArg Store.db (hredo c)
        simp only [hseen]
        cases hl : (e c.db).createLease (newLease user.id req.billingUnit price now (draw i) n) with
        | none =>
          refine Or.inr (Or.inl ⟨rfl,Or.inr (Or.inl rfl),?_⟩)
          simp [allocated, rentNodes, hl]
        | some db₁ =>
          have hnext : Bound user req draw ids _ _ (allocated user.id req.billingUnit price now
              draw (i+1) nodes (fun db => (((e db).createLease (newLease user.id req.billingUnit
                price now (draw i) n)).getD (e db)).setNodeStatus n.deviceId .assigned)) :=
            .assigning hn hrest
              (fun ls => hk (newLease user.id req.billingUnit price now (draw i) n::ls))
              (created_writes hredo) (created_commutes he) (created_isSome hsome)
          refine Or.inl ⟨rfl,_,⟨rfl,hheld,hnext⟩,(allocated_cons hl ?_).symm⟩
          rw [hl, Option.getD_some]
  | @assigning price now i nodes k e _ d hd hids hk hredo he hsome =>
    simp only [Thread.advance, saveNodeStatus, saveNode, save, if_true]
    split
    · refine Or.inl ⟨rfl,_,⟨rfl,fun d hd => List.mem_cons_of_mem _ (hheld d hd),?_⟩,rfl⟩
      exact .assigning hd hids hk hredo he hsome
    · have hrow : ((redo c).db.nodes.get? d).isSome := by
        rw [hredo]
        exact (hsome c.db d).trans (hrows d hd)
      rw [if_pos hrow]
      refine Or.inl ⟨rfl,_,⟨rfl,hheld,?_⟩,rfl⟩
      exact .loop hids hk (assigned_writes hredo) (assigned_commutes hd he)
        (assigned_isSome hsome)

/-- One statement before the nodes are locked: the rental is still free to
decide, or over without an effect, or bound to what it would do at once. -/
theorem early_advance (hvalid : ¬Invalid req) {known : Option Body}
    (hknown : existing c.db user .rent req.clientRequestId = known)
    (h : IsEarly user req draw known t) :
    (t.advance c).1 = c ∧
    (IsEarly user req draw known (t.advance c).2 ∨
      (IsOver user req (t.advance c).2 ∧
        ∀ now, (rentLease user req now draw c.db).db = c.db) ∨
      ∃ now ids outcome, IsBound user req draw (t.advance c).2 ids outcome ∧
        tables (outcome c.db) = tables (rentLease user req now draw c.db).db ∧
        (Allots ids c.db (outcome c.db) ∨ outcome c.db = c.db) ∧
        ∀ d ∈ ids, ∃ n, c.db.nodes.get? d = some n ∧ n.status = .free) := by
  obtain ⟨prog, inside, held, redo, waits⟩ := t
  obtain ⟨hearly, hredo⟩ := h
  simp only at hearly hredo
  cases hearly with
  | lookup =>
    cases hkey : req.clientRequestId with
    | none =>
      have hnone : known = none := by rw [← hknown, hkey]; rfl
      exact ⟨rfl,Or.inl ⟨.opening _ hnone,hredo⟩⟩
    | some key =>
      simp only [lookup, query, Thread.advance, hredo]
      refine ⟨trivial,?_⟩
      rw [hkey] at hknown
      cases known with
      | none =>
        rw [hknown]
        exact Or.inl ⟨.clock rfl,hredo⟩
      | some body =>
        rw [hknown]
        exact Or.inr (Or.inl ⟨Or.inl ⟨_,rfl⟩,fun now => rentLease_known (hkey ▸ hknown)⟩)
  | clock hnone => exact ⟨rfl,Or.inl ⟨.opening _ hnone,hredo⟩⟩
  | opening now hnone => exact ⟨rfl,Or.inl ⟨.locking now hnone,fun _ => rfl⟩⟩
  | locking now hnone =>
    simp only [Thread.advance, rentLocking, forUpdate, if_true, hredo]
    split
    · exact ⟨rfl,Or.inl ⟨.locking now hnone,hredo⟩⟩
    · rename_i hmiss
      refine ⟨rfl,Or.inr (Or.inr ?_)⟩
      have hheld := (Thread.missing_eq_none _ _).mp hmiss
      by_cases hroom : (freeNodes c.db req.region req.gpuTier req.count).length < req.count
      · refine ⟨now,[],fun db => db,⟨rfl,by simp,?_⟩,?_,Or.inr rfl,by simp⟩
        · simp only [rentLocked, if_pos hroom]
          exact .refused _ hredo
        · rw [rentLease_full hroom]
      · let nodes := freeNodes c.db req.region req.gpuTier req.count
        have hids (n : Node) (hn : n ∈ nodes) : n.deviceId ∈ nodes.map Node.deviceId :=
          List.mem_map_of_mem hn
        have hbound : Bound user req draw (nodes.map Node.deviceId)
            (rentLocked user req draw now c.db) redo (fun db => allocated user.id req.billingUnit
              (getPrice db req.region req.gpuTier req.billingUnit) now draw 0 nodes
              (fun db => db) db) := by
          simp only [rentLocked, if_neg hroom]
          exact .pricing hids (fun ls => ⟨_,rfl⟩) hredo
        refine ⟨now,nodes.map Node.deviceId,_,⟨rfl,fun d hd => ?_,hbound⟩,?_,allocated_allots,
          fun d hd => ?_⟩
        · obtain ⟨n, hn, rfl⟩ := List.mem_map.mp hd
          exact hheld (List.mem_map_of_mem hn)
        · exact (rentLease_allocated hvalid (hknown.trans hnone) hroom).symm
        · obtain ⟨n, hn, rfl⟩ := List.mem_map.mp hd
          obtain ⟨hmem, hfree⟩ := ExclusiveAssignment.mem_freeNodes hn
          exact ⟨n,(c.db.nodes.mem_iff_get? n).mp hmem,hfree⟩

end Steps

end CloudPlay.RentalStages
