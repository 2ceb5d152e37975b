import CloudPlay.ExclusiveAssignment

/-!
# What a rented machine costs

Renting looks the price up once, under the region of the request, while the
region named `default` selects machines of every region. The loop over the
picked nodes succeeds when its draws of lease ids are fresh, and then creates
one lease for each node, all at that price. So a lease has the price of its
own machine when the request names the machine's region, or the plans of the
picked machines happen to agree with the plan of `default`.
-/

set_option autoImplicit false

namespace CloudPlay.RentalPricing
open KeyedTable ControlPlaneModels ControlPlaneSerializers ControlPlaneDatabase LeaseLifecycle
open ControlPlaneViews ControlPlaneConsumer ControlPlaneServer ControlPlaneEffects
open ExclusiveAssignment TransitionRun

/-- New leases cost what the plan of their machine says, where there is one. -/
def PricedByMachine (db db' : Database) : Prop :=
  ∀ l ∈ db'.leases, l ∉ db.leases → ∀ n, db.nodes.get? l.deviceId = some n →
    ∀ plan, db.prices.get? (n.region,n.gpuTier,l.billingUnit) = some plan →
      l.unitPrice = some plan.unitPrice

/-- The lease ids drawn for `count` nodes are new and differ from each other. -/
def FreshDraws (draw : ℕ → Uuid × String) (leases : Table Lease.leaseId) (i count : ℕ) : Prop :=
  (∀ j < count, leases.get? (draw (i+j)).1 = none) ∧
  ∀ j < count, ∀ k < j, (draw (i+j)).1 ≠ (draw (i+k)).1

/-- The request passes every check that comes before the first lease. -/
def Allocates (user : User) (req : RentRequest) (draw : ℕ → Uuid × String) (db : Database) :
    Prop :=
  req.region ≠ "" ∧ req.gpuTier ≠ "" ∧ 1 ≤ req.count ∧ req.count ≤ 100 ∧
  existing db user .rent req.clientRequestId = none ∧
  req.count ≤ (db.nodes.rows.filter (rentable req.region req.gpuTier)).length ∧
  FreshDraws draw db.leases 0 req.count

theorem freeNodes_length (db : Database) (region tier : String) (count : ℕ) :
    (freeNodes db region tier count).length =
      min count (db.nodes.rows.filter (rentable region tier)).length := by
  simp [freeNodes, List.length_insertionSort]

theorem mem_freeNodes_rentable {db : Database} {region tier : String} {count : ℕ} {n : Node}
    (h : n ∈ freeNodes db region tier count) :
    db.nodes.get? n.deviceId = some n ∧ n.gpuTier = tier ∧
      (region = "default" ∨ n.region = region) := by
  have hn := List.mem_of_mem_take h
  rw [List.mem_insertionSort, List.mem_filter] at hn
  have hr := hn.2
  simp only [rentable, Bool.and_eq_true, Bool.or_eq_true, decide_eq_true_eq] at hr
  exact ⟨(db.nodes.mem_iff_get? n).mp hn.1,hr.1.2,hr.2⟩

section Loop
variable {user : UserId} {unit : BillingUnit} {price : Money} {now : Instant}
variable {draw : ℕ → Uuid × String}

/-- One round takes its draw out of the fresh ones. -/
theorem freshDraws_succ {db db₁ : Database} {l : Lease} {i count : ℕ}
    (hl : l.leaseId = (draw i).1) (h : db.createLease l = some db₁) :
    FreshDraws draw db.leases i (count+1) ↔ FreshDraws draw db₁.leases (i+1) count := by
  simp only [Database.createLease, Option.map_eq_some_iff] at h
  obtain ⟨leases, hins, rfl⟩ := h
  obtain ⟨hfree, rfl⟩ := Table.insert?_eq_some.mp hins
  constructor
  · rintro ⟨hnew, hdiff⟩
    refine ⟨fun j hj => ?_,fun j hj k hk => ?_⟩
    · have hne := hdiff (j+1) (by omega) 0 (by omega)
      have hget := hnew (j+1) (by omega)
      rw [show i+(j+1) = i+1+j by omega] at hne hget
      rw [Table.get?_insert, if_neg (by rw [hl]; exact hne), hget]
    · have hne := hdiff (j+1) (by omega) (k+1) (by omega)
      rwa [show i+(j+1) = i+1+j by omega, show i+(k+1) = i+1+k by omega] at hne
  · rintro ⟨hnew, hdiff⟩
    have hlater (j : ℕ) (hj : j < count) :
        (draw (i+1+j)).1 ≠ (draw i).1 ∧ db.leases.get? (draw (i+1+j)).1 = none := by
      have hget := hnew j hj
      rw [Table.get?_insert, hl] at hget
      split at hget
      · cases hget
      · rename_i hne
        exact ⟨hne,hget⟩
    refine ⟨fun j hj => ?_,fun j hj k hk => ?_⟩
    · cases j with
      | zero => exact hl ▸ hfree
      | succ j =>
        rw [show i+(j+1) = i+1+j by omega]
        exact (hlater j (by omega)).2
    · cases j with
      | zero => omega
      | succ j =>
        rw [show i+(j+1) = i+1+j by omega]
        cases k with
        | zero => exact (hlater j (by omega)).1
        | succ k =>
          rw [show i+(k+1) = i+1+k by omega]
          exact hdiff j (by omega) k (by omega)

theorem rentNodes_isSome_iff (i : ℕ) (nodes : List Node) (db : Database) :
    (rentNodes user unit price now draw i nodes db).isSome ↔
      FreshDraws draw db.leases i nodes.length := by
  induction nodes generalizing i db with
  | nil => simp [rentNodes, FreshDraws]
  | cons n nodes ih =>
    cases h : db.createLease (newLease user unit price now (draw i) n) with
    | none =>
      have htaken : db.leases.get? (draw i).1 ≠ none := by
        intro hfree
        have hk : db.leases.get? (newLease user unit price now (draw i) n).leaseId = none := hfree
        simp [Database.createLease, Table.insert?, hk] at h
      have hnot : ¬FreshDraws draw db.leases i (nodes.length+1) := fun hf =>
        htaken (hf.1 0 (by omega))
      simp [rentNodes, h, hnot]
    | some db₁ =>
      rw [List.length_cons, freshDraws_succ rfl h]
      have hrest := ih (i+1) (db₁.setNodeStatus n.deviceId .assigned)
      rw [Database.setNodeStatus_leases] at hrest
      rw [← hrest]
      cases hr : rentNodes user unit price now draw (i+1) nodes
          (db₁.setNodeStatus n.deviceId .assigned) <;> simp [rentNodes, h, hr]

/-- The loop adds one lease for each node, at the one price. -/
theorem rentNodes_created {i : ℕ} {nodes : List Node} {db db' : Database} {ls : List Lease}
    (h : rentNodes user unit price now draw i nodes db = some (db',ls)) :
    (∀ l ∈ db.leases, l ∈ db'.leases) ∧
    (∀ l ∈ db'.leases, l ∈ db.leases ∨ ∃ n ∈ nodes, ∃ d, l = newLease user unit price now d n) ∧
    ∀ n ∈ nodes, ∃ d, newLease user unit price now d n ∈ db'.leases ∧
      newLease user unit price now d n ∉ db.leases := by
  induction nodes generalizing i db ls with
  | nil =>
    simp only [rentNodes, Option.some.injEq, Prod.mk.injEq] at h
    obtain ⟨rfl, rfl⟩ := h
    exact ⟨fun l hl => hl,fun l hl => Or.inl hl,by simp⟩
  | cons n nodes ih =>
    simp only [rentNodes, Option.bind_eq_bind, Option.bind_eq_some_iff, Option.pure_def,
      Option.some.injEq, Prod.mk.injEq, Prod.exists] at h
    obtain ⟨db₁, h₁, db₂, ls₂, h₂, rfl, rfl⟩ := h
    have hmem := (createLease_mem h₁).2
    have hout : newLease user unit price now (draw i) n ∉ db.leases := by
      simp only [Database.createLease, Option.map_eq_some_iff] at h₁
      obtain ⟨leases, hins, -⟩ := h₁
      obtain ⟨hfree, -⟩ := Table.insert?_eq_some.mp hins
      exact fun hl => (Table.get?_eq_none _ _).mp hfree _ hl rfl
    obtain ⟨hkept, hnew, hall⟩ := ih h₂
    refine ⟨fun l hl => hkept l ((hmem l).mpr (Or.inl hl)),fun l hl => ?_,fun m hm => ?_⟩
    · rcases hnew l hl with hl | ⟨m, hm, d, rfl⟩
      · rcases (hmem l).mp hl with hl | rfl
        · exact Or.inl hl
        · exact Or.inr ⟨n,List.mem_cons_self,draw i,rfl⟩
      · exact Or.inr ⟨m,List.mem_cons_of_mem _ hm,d,rfl⟩
    · rcases List.mem_cons.mp hm with rfl | hm
      · exact ⟨draw i,hkept _ ((hmem _).mpr (Or.inr rfl)),hout⟩
      · obtain ⟨d, hin, hno⟩ := hall m hm
        exact ⟨d,hin,fun hl => hno ((hmem _).mpr (Or.inl hl))⟩

end Loop

section Request
variable {user : User} {req : RentRequest} {now : Instant} {draw : ℕ → Uuid × String}
variable {db : Database}

theorem rentLease_refused (h : ¬Allocates user req draw db) :
    (rentLease user req now draw db).db = db := by
  unfold rentLease
  split
  · rfl
  · rename_i hvalid
    split
    · rfl
    · rename_i hkey
      dsimp only
      split
      · rfl
      · rename_i hcap
        rw [freeNodes_length] at hcap
        have hfresh : ¬FreshDraws draw db.leases 0 req.count := by
          intro hf
          simp only [not_or] at hvalid
          exact h ⟨hvalid.1,hvalid.2.1,by omega,by omega,hkey,by omega,hf⟩
        have hlen : (freeNodes db req.region req.gpuTier req.count).length = req.count := by
          rw [freeNodes_length]
          omega
        rw [← hlen, ← @rentNodes_isSome_iff user.id req.billingUnit
          (getPrice db req.region req.gpuTier req.billingUnit) now draw] at hfresh
        rw [Option.not_isSome_iff_eq_none.mp hfresh]
        rfl

theorem rentLease_allocated (now : Instant) (h : Allocates user req draw db) :
    ∃ db' ls, rentNodes user.id req.billingUnit
        (getPrice db req.region req.gpuTier req.billingUnit) now draw 0
        (freeNodes db req.region req.gpuTier req.count) db = some (db',ls) ∧
      SameRows db' (rentLease user req now draw db).db := by
  obtain ⟨hregion, htier, hmin, hmax, hkey, hcap, hfresh⟩ := h
  have hlen : (freeNodes db req.region req.gpuTier req.count).length = req.count := by
    rw [freeNodes_length]
    omega
  rw [← hlen, ← @rentNodes_isSome_iff user.id req.billingUnit
    (getPrice db req.region req.gpuTier req.billingUnit) now draw] at hfresh
  obtain ⟨⟨db', ls⟩, hrent⟩ := Option.isSome_iff_exists.mp hfresh
  refine ⟨db',ls,hrent,?_⟩
  unfold rentLease
  rw [if_neg (by simp [hregion, htier]; omega), hkey]
  dsimp only
  rw [if_neg (by omega), hrent]
  exact remember_rows _ _ _ _ _ _

/-- A request for a named region prices its leases by their machines. One for
`default` does so only where the plans of the picked machines agree with the
plan of the region called `default`. -/
theorem rent_priced_iff (user : User) (req : RentRequest) (now : Instant)
    (draw : ℕ → Uuid × String) (db : Database) :
    PricedByMachine db (rentLease user req now draw db).db ↔
      (Allocates user req draw db → req.region = "default" →
        ∀ n ∈ freeNodes db "default" req.gpuTier req.count, ∀ plan,
          db.prices.get? (n.region,n.gpuTier,req.billingUnit) = some plan →
            getPrice db "default" req.gpuTier req.billingUnit = plan.unitPrice) := by
  by_cases ha : Allocates user req draw db
  · obtain ⟨db', ls, hrent, hrows⟩ := rentLease_allocated now ha
    obtain ⟨-, hnew, hall⟩ := rentNodes_created hrent
    simp only [PricedByMachine, hrows.leases]
    constructor
    · intro h _ hdefault n hn plan hplan
      rw [hdefault] at hall
      obtain ⟨d, hin, hout⟩ := hall n hn
      exact Option.some.inj (h _ hin hout n (mem_freeNodes_rentable hn).1 plan hplan)
    · intro h l hl hout m hm plan hplan
      obtain ⟨n, hn, d, rfl⟩ := (hnew l hl).resolve_left hout
      obtain ⟨hget, htier, hregion⟩ := mem_freeNodes_rentable hn
      obtain rfl : n = m := Option.some.inj (hget.symm.trans hm)
      by_cases hdefault : req.region = "default"
      · rw [hdefault] at hn
        change some (getPrice db req.region req.gpuTier req.billingUnit) = _
        rw [hdefault, h ha hdefault n hn plan hplan]
      · change some (getPrice db req.region req.gpuTier req.billingUnit) = _
        rw [hregion.resolve_left hdefault, htier] at hplan
        have hunit : (newLease user.id req.billingUnit
          (getPrice db req.region req.gpuTier req.billingUnit) now d n).billingUnit =
            req.billingUnit := rfl
        rw [hunit] at hplan
        simp [getPrice, hplan]
  · rw [rentLease_refused ha]
    exact iff_of_true (fun l hl hout => absurd hl hout) (fun h => absurd h ha)

end Request

/-- A machine of region cn, with its price, comes up. -/
def pricedRun : List Event :=
  [.savePricePlan { region := "cn", gpuTier := "a", billingUnit := .hour, unitPrice := 200000 },
    .connect (.device "node-1") "c1" 1,
    .receive "c1" (.nodeHello "cn" "a" "1.0" none) 2]

def anyRegion : RentRequest :=
  { region := "default", gpuTier := "a", billingUnit := .hour, count := 1 }

/-- Asked for by the region `default` it costs nothing. -/
theorem default_region_free :
    ¬PricedByMachine (run step pricedRun (initial 0)).db
      (rentLease ann anyRegion 3 (fun _ => (1,"t1")) (run step pricedRun (initial 0)).db).db := by
  have hfree : ∃ l ∈ (rentLease ann anyRegion 3 (fun _ => (1,"t1"))
      (run step pricedRun (initial 0)).db).db.leases.rows,
      l ∉ (run step pricedRun (initial 0)).db.leases.rows ∧
      ∃ n ∈ (run step pricedRun (initial 0)).db.nodes.get? l.deviceId,
      ∃ plan ∈ (run step pricedRun (initial 0)).db.prices.get?
        (n.region,n.gpuTier,l.billingUnit), l.unitPrice ≠ some plan.unitPrice := by
    decide
  obtain ⟨l, hl, hout, n, hn, plan, hplan, hne⟩ := hfree
  exact fun h => hne (h l hl hout n hn plan hplan)

end CloudPlay.RentalPricing
