import CloudPlay.NodeTransitions
import CloudPlay.RentalPricing

/-!
# Renting next to other changes of nodes

The tables of nodes and leases after a rental, and which changes of the tables
commute with it: whatever concerns a node that is not rented.
-/

set_option autoImplicit false

namespace CloudPlay.RentalTables
open KeyedTable ControlPlaneModels ControlPlaneSerializers ControlPlaneDatabase LeaseLifecycle
open ControlPlaneViews ControlPlaneConsumer ControlPlaneEffects

abbrev Tables := Table Node.deviceId × Table Lease.leaseId

def tables (db : Database) : Tables := (db.nodes,db.leases)

theorem tables_nodes {a b : Database} (h : tables a = tables b) : a.nodes = b.nodes :=
  congrArg Prod.fst h

theorem tables_leases {a b : Database} (h : tables a = tables b) : a.leases = b.leases :=
  congrArg Prod.snd h

/-- A change that has nothing to do with these nodes and with no lease. -/
structure Apart (ids : List String) (V : Database → Database) : Prop where
  prices : ∀ db, (V db).prices = db.prices
  createLease : ∀ db l, (V db).createLease l = (db.createLease l).map V
  setNodeStatus : ∀ db, ∀ d ∈ ids, ∀ status,
    (V db).setNodeStatus d status = V (db.setNodeStatus d status)

section Changes
variable {ids : List String} {d : String}

theorem createLease_nodes (db : Database) (l : Lease) (nodes : Table Node.deviceId) :
    ({ db with nodes := nodes }).createLease l =
      (db.createLease l).map (fun db' => { db' with nodes := nodes }) := by
  simp only [Database.createLease]
  cases db.leases.insert? l <;> rfl

theorem createLease_same {db db' : Database} {l : Lease} (h : db.createLease l = some db') :
    db'.nodes = db.nodes := by
  obtain ⟨leases, -, rfl⟩ := Option.map_eq_some_iff.mp h
  rfl

theorem modify_comm (t : Table Node.deviceId) {d d' : String} (hne : d' ≠ d) (f g : Node → Node)
    (hf : ∀ n, (f n).deviceId = n.deviceId) (hg : ∀ n, (g n).deviceId = n.deviceId) :
    (t.modify d f hf).modify d' g hg = (t.modify d' g hg).modify d f hf := by
  refine Table.ext ?_
  simp only [Table.modify_rows, List.map_map]
  refine List.map_congr_left fun n _ => ?_
  by_cases hd : n.deviceId = d
  · have hd' : n.deviceId ≠ d' := fun he => hne (he.symm.trans hd)
    simp [hd, hf, Ne.symm hne]
  · by_cases hd' : n.deviceId = d'
    · simp [hd', hg, hne]
    · simp [hd, hd']

theorem apart_nodes (v : Table Node.deviceId → Table Node.deviceId)
    (h : ∀ t, ∀ d ∈ ids, ∀ status : NodeStatus,
      (v t).modify d (fun n => { n with status := status }) (fun _ => rfl) =
        v (t.modify d (fun n => { n with status := status }) (fun _ => rfl))) :
    Apart ids (fun db => { db with nodes := v db.nodes }) where
  prices _ := rfl
  createLease db l := by
    refine (createLease_nodes db l (v db.nodes)).trans ?_
    cases hl : db.createLease l with
    | none => rfl
    | some db' => simp only [Option.map_some, createLease_same hl]
  setNodeStatus db d hd status :=
    congrArg (fun nodes => { db with nodes := nodes }) (h db.nodes d hd status)

theorem apart_updateNode (h : d ∉ ids) (f : Node → Node)
    (hf : ∀ n, (f n).deviceId = n.deviceId) : Apart ids (fun db => db.updateNode d f hf) :=
  apart_nodes (fun t => t.modify d f hf) fun t d' hd' _ =>
    modify_comm t (fun he : d' = d => h (he ▸ hd')) _ _ _ _

/-- The table after `get_or_create`. -/
def created (d : String) (now : Instant) (t : Table Node.deviceId) : Table Node.deviceId :=
  if h : t.get? d = none then t.insert { deviceId := d, lastSeen := now } h else t

theorem getOrCreateNode_nodes (d : String) (now : Instant) (db : Database) :
    db.getOrCreateNode d now = { db with nodes := created d now db.nodes } := by
  unfold Database.getOrCreateNode created
  split <;> rfl

theorem created_modify {d' : String} (hne : d' ≠ d) (now : Instant) (t : Table Node.deviceId)
    (f : Node → Node) (hf : ∀ n, (f n).deviceId = n.deviceId) :
    (created d now t).modify d' f hf = created d now (t.modify d' f hf) := by
  have hget : (t.modify d' f hf).get? d = t.get? d :=
    Table.get?_modify_ne t f hf hne.symm
  by_cases hnone : t.get? d = none
  · have hnone' : (t.modify d' f hf).get? d = none := hget.trans hnone
    rw [created, created, dif_pos hnone, dif_pos hnone']
    refine Table.ext ?_
    simp [Table.modify_rows, Table.insert, hne.symm]
  · have hsome : (t.modify d' f hf).get? d ≠ none := fun he => hnone (hget.symm.trans he)
    rw [created, created, dif_neg hnone, dif_neg hsome]

theorem apart_getOrCreateNode (h : d ∉ ids) (now : Instant) :
    Apart ids (fun db => db.getOrCreateNode d now) := by
  simp only [getOrCreateNode_nodes]
  exact apart_nodes (created d now) fun t d' hd' _ =>
    created_modify (fun he : d' = d => h (he ▸ hd')) now t _ _

end Changes

section Allocation
variable {ids : List String} {V : Database → Database} {user : UserId} {unit : BillingUnit}
variable {price : Money} {now : Instant} {draw : ℕ → Uuid × String} {i : ℕ} {nodes : List Node}
variable {db : Database}

theorem rentNodes_apart (h : Apart ids V) (hids : ∀ n ∈ nodes, n.deviceId ∈ ids) :
    rentNodes user unit price now draw i nodes (V db) =
      (rentNodes user unit price now draw i nodes db).map (Prod.map V id) := by
  induction nodes generalizing i db with
  | nil => rfl
  | cons n nodes ih =>
    have hn := hids n List.mem_cons_self
    simp only [rentNodes, h.createLease]
    cases db.createLease (newLease user unit price now (draw i) n) with
    | none => rfl
    | some db₁ =>
      simp only [Option.map_some, Option.bind_eq_bind, Option.bind_some,
        h.setNodeStatus db₁ n.deviceId hn]
      rw [ih fun q hq => hids q (List.mem_cons_of_mem _ hq)]
      cases rentNodes user unit price now draw (i+1) nodes
        (db₁.setNodeStatus n.deviceId .assigned) <;> rfl

/-- These nodes are rented from one state of the tables to the other. -/
structure Allots (ids : List String) (db db' : Database) : Prop where
  nodes : ∀ d, db'.nodes.get? d = if d ∈ ids then
    (db.nodes.get? d).map (fun n => { n with status := .assigned }) else db.nodes.get? d
  engaged : ∀ d, d ∉ ids → hasEngagedLease db' d = hasEngagedLease db d
  fresh : ∀ l ∈ db'.leases, l ∉ db.leases → l.deviceId ∈ ids ∧ l.engaged = true

theorem hasEngagedLease_iff (db : Database) (d : String) : hasEngagedLease db d = true ↔
    ∃ l ∈ db.leases, l.deviceId = d ∧ l.engaged = true := by
  simp [hasEngagedLease, Table.mem_rows]

theorem rentNodes_allots {db' : Database} {ls : List Lease}
    (h : rentNodes user unit price now draw i nodes db = some (db',ls)) :
    Allots (nodes.map Node.deviceId) db db' where
  nodes := NodeTransitions.rentNodes_node h
  engaged d hd := by
    obtain ⟨hkept, hnew, -⟩ := RentalPricing.rentNodes_created h
    rw [Bool.eq_iff_iff, hasEngagedLease_iff, hasEngagedLease_iff]
    constructor
    · rintro ⟨l, hl, hld, he⟩
      rcases hnew l hl with hold | ⟨n, hn, _, rfl⟩
      · exact ⟨l,hold,hld,he⟩
      · exact absurd (List.mem_map.mpr ⟨n,hn,hld⟩) hd
    · rintro ⟨l, hl, hld⟩
      exact ⟨l,hkept l hl,hld⟩
  fresh l hl hold := by
    obtain ⟨-, hnew, -⟩ := RentalPricing.rentNodes_created h
    rcases hnew l hl with hin | ⟨n, hn, _, rfl⟩
    · exact absurd hin hold
    · exact ⟨List.mem_map_of_mem hn,rfl⟩

/-- The tables when the loop has ended, unchanged when it raises. -/
def allocated (user : UserId) (unit : BillingUnit) (price : Money) (now : Instant)
    (draw : ℕ → Uuid × String) (i : ℕ) (nodes : List Node) (e : Database → Database)
    (db : Database) : Database :=
  ((rentNodes user unit price now draw i nodes (e db)).map Prod.fst).getD db

theorem allocated_cons {n : Node} {e e' : Database → Database} {db₁ : Database}
    (hl : (e db).createLease (newLease user unit price now (draw i) n) = some db₁)
    (he : e' db = db₁.setNodeStatus n.deviceId .assigned) :
    allocated user unit price now draw i (n::nodes) e db =
      allocated user unit price now draw (i+1) nodes e' db := by
  simp only [allocated, rentNodes, hl, he, Option.bind_eq_bind, Option.bind_some]
  cases rentNodes user unit price now draw (i+1) nodes
    (db₁.setNodeStatus n.deviceId .assigned) <;> rfl

theorem allocated_apart {e : Database → Database} (h : Apart ids V)
    (hids : ∀ n ∈ nodes, n.deviceId ∈ ids) (he : ∀ db, e (V db) = V (e db)) :
    allocated user unit price now draw i nodes e (V db) =
      V (allocated user unit price now draw i nodes e db) := by
  rw [allocated, allocated, he, rentNodes_apart h hids]
  cases rentNodes user unit price now draw i nodes (e db) <;> rfl

theorem allocated_allots : Allots (nodes.map Node.deviceId) db
    (allocated user unit price now draw i nodes (fun db => db) db) ∨
    allocated user unit price now draw i nodes (fun db => db) db = db := by
  unfold allocated
  cases h : rentNodes user unit price now draw i nodes db with
  | none => exact Or.inr rfl
  | some p => exact Or.inl (rentNodes_allots h)

end Allocation

section Rent
variable {user : User} {req : RentRequest} {now : Instant} {draw : ℕ → Uuid × String}
variable {db : Database}

def Invalid (req : RentRequest) : Prop :=
  req.region = "" ∨ req.gpuTier = "" ∨ req.count < 1 ∨ 100 < req.count

theorem remember_tables (db : Database) (sends : List Send) (user : User) (scope : Scope)
    (key : Option String) (body : Body) :
    tables (remember db sends user scope key body).db = tables db := by
  have hrows := remember_rows db sends user scope key body
  exact Prod.ext hrows.nodes hrows.leases

theorem rentLease_known {body : Body} (h : existing db user .rent req.clientRequestId = some body) :
    (rentLease user req now draw db).db = db := by
  unfold rentLease
  split
  · rfl
  · rw [h]
    rfl

theorem rentLease_full (h : (freeNodes db req.region req.gpuTier req.count).length < req.count) :
    (rentLease user req now draw db).db = db := by
  unfold rentLease
  split
  · rfl
  · split
    · rfl
    · rw [if_pos h]
      rfl

theorem rentLease_allocated (hvalid : ¬Invalid req)
    (hnew : existing db user .rent req.clientRequestId = none)
    (hroom : ¬(freeNodes db req.region req.gpuTier req.count).length < req.count) :
    tables (rentLease user req now draw db).db = tables (allocated user.id req.billingUnit
      (getPrice db req.region req.gpuTier req.billingUnit) now draw 0
      (freeNodes db req.region req.gpuTier req.count) (fun db => db) db) := by
  have hgo : ¬(req.region = "" ∨ req.gpuTier = "" ∨ req.count < 1 ∨ 100 < req.count) := hvalid
  unfold rentLease allocated
  rw [if_neg hgo, hnew]
  simp only [if_neg hroom]
  cases rentNodes user.id req.billingUnit (getPrice db req.region req.gpuTier req.billingUnit) now
      draw 0 (freeNodes db req.region req.gpuTier req.count) db with
  | none => rfl
  | some p => exact remember_tables _ _ _ _ _ _

theorem rentLease_invalid (h : Invalid req) : (rentLease user req now draw db).db = db := by
  have hgo : req.region = "" ∨ req.gpuTier = "" ∨ req.count < 1 ∨ 100 < req.count := h
  unfold rentLease
  rw [if_pos hgo]
  rfl

/-- A node that has just been created is not free. -/
theorem freeNodes_created (db : Database) (d : String) (t : Instant) (region gpuTier : String)
    (count : ℕ) : freeNodes (db.getOrCreateNode d t) region gpuTier count =
      freeNodes db region gpuTier count := by
  by_cases h : db.nodes.get? d = none
  · rw [Database.getOrCreateNode_new db d t h]
    simp [freeNodes, Table.insert, List.filter_append, rentable]
  · rw [Database.getOrCreateNode_known db d t h]

theorem tables_created {a b : Database} (d : String) (t : Instant) (h : tables a = tables b) :
    tables (a.getOrCreateNode d t) = tables (b.getOrCreateNode d t) := by
  rw [getOrCreateNode_nodes, getOrCreateNode_nodes]
  exact Prod.ext (congrArg (created d t) (tables_nodes h)) (tables_leases h)

theorem allocated_created {id : UserId} {unit : BillingUnit} {price : Money} {i : ℕ}
    {nodes : List Node} (d : String) (t : Instant) (hrows : ∀ n ∈ nodes, n ∈ db.nodes) :
    allocated id unit price now draw i nodes (fun db => db) (db.getOrCreateNode d t) =
      (allocated id unit price now draw i nodes (fun db => db) db).getOrCreateNode d t := by
  by_cases hnone : db.nodes.get? d = none
  · have hout : d ∉ nodes.map Node.deviceId := by
      intro hmem
      obtain ⟨n, hn, hd⟩ := List.mem_map.mp hmem
      exact (Table.get?_eq_none _ _).mp hnone n (hrows n hn) hd
    exact allocated_apart (apart_getOrCreateNode hout t) (fun n hn => List.mem_map_of_mem hn)
      (fun _ => rfl)
  · have hknown : (allocated id unit price now draw i nodes (fun db => db) db).nodes.get? d ≠
        none := by
      rcases @allocated_allots id unit price now draw i nodes db with h | h
      · rw [h.nodes d]
        split
        · simpa using hnone
        · exact hnone
      · rw [h]
        exact hnone
    rw [Database.getOrCreateNode_known db d t hnone, Database.getOrCreateNode_known _ d t hknown]

theorem rentLease_created (d : String) (t : Instant) :
    tables (rentLease user req now draw (db.getOrCreateNode d t)).db =
      tables ((rentLease user req now draw db).db.getOrCreateNode d t) := by
  have hkeys : existing (db.getOrCreateNode d t) user .rent req.clientRequestId =
      existing db user .rent req.clientRequestId := by
    rw [getOrCreateNode_nodes]
    rfl
  have hfree := freeNodes_created db d t req.region req.gpuTier req.count
  by_cases hvalid : Invalid req
  · rw [rentLease_invalid hvalid, rentLease_invalid hvalid]
  · cases hnew : existing db user .rent req.clientRequestId with
    | some body => rw [rentLease_known (hkeys.trans hnew), rentLease_known hnew]
    | none =>
      by_cases hroom : (freeNodes db req.region req.gpuTier req.count).length < req.count
      · rw [rentLease_full hroom, rentLease_full (hfree ▸ hroom)]
      · have hprice : getPrice (db.getOrCreateNode d t) req.region req.gpuTier req.billingUnit =
            getPrice db req.region req.gpuTier req.billingUnit := by
          rw [getOrCreateNode_nodes]
          rfl
        rw [rentLease_allocated hvalid (hkeys.trans hnew) (hfree ▸ hroom), hfree, hprice]
        refine Eq.trans ?_ (tables_created d t (rentLease_allocated hvalid hnew hroom)).symm
        exact congrArg tables (allocated_created d t fun n hn =>
          (ExclusiveAssignment.mem_freeNodes hn).1)

end Rent

end CloudPlay.RentalTables
