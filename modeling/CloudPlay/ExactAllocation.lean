import CloudPlay.ReleaseAtomicity
import CloudPlay.RentalTables

/-!
# A rental gets what it asks for

The nodes picked are the eligible ones seen longest ago, as many as asked for,
and each gets one lease of the user. A rental that asks for more than there are
changes nothing.
-/

set_option autoImplicit false

namespace CloudPlay.ExactAllocation
open KeyedTable ControlPlaneModels ControlPlaneSerializers ControlPlaneDatabase ControlPlaneViews
open LeaseLifecycle ControlPlaneEffects ExclusiveAssignment RentalPricing RentalTables ReleaseAtomicity

/-- The node is FREE and has the tier and, unless it is `default`, the region. -/
def Eligible (req : RentRequest) (n : Node) : Prop :=
  n.status = .free ∧ n.gpuTier = req.gpuTier ∧ (req.region = "default" ∨ n.region = req.region)

instance (req : RentRequest) (n : Node) : Decidable (Eligible req n) :=
  inferInstanceAs (Decidable (_ ∧ _ ∧ _))

def eligible (db : Database) (req : RentRequest) : List Node :=
  db.nodes.rows.filter (fun n => Eligible req n)

structure Allocated (user : User) (req : RentRequest) (db : Database) (r : ViewResult)
    (nodes : List Node) (leases : List Lease) : Prop where
  count : nodes.length = req.count
  distinct : (nodes.map Node.deviceId).Nodup
  eligible : ∀ n ∈ nodes, n ∈ db.nodes ∧ Eligible req n
  longest : ∀ n ∈ nodes, ∀ q ∈ db.nodes, Eligible req q → q ∉ nodes → n.lastSeen ≤ q.lastSeen
  nodeRows : ∀ d, r.db.nodes.get? d = if d ∈ nodes.map Node.deviceId then
    (db.nodes.get? d).map (fun n => { n with status := .assigned }) else db.nodes.get? d
  leaseRows : r.db.leases.rows = db.leases.rows ++ leases
  fresh : ∀ l ∈ leases, db.leases.get? l.leaseId = none
  ids : (leases.map Lease.leaseId).Nodup
  devices : leases.map Lease.deviceId = nodes.map Node.deviceId
  assigned : ∀ l ∈ leases, l.user = user.id ∧ l.status = .assigned ∧ l.endedAt = none
  response : r.response = ok (.rented (leases.map serializeLease)
    (leases.map (fun l => (l.leaseId,l.leaseToken))))

section Loop
variable {user : UserId} {unit : BillingUnit} {price : Money} {now : Instant}
variable {draw : ℕ → Uuid × String}

/-- The rows the loop appends. -/
theorem rentNodes_rows {i : ℕ} {nodes : List Node} {db db' : Database} {ls : List Lease}
    (h : rentNodes user unit price now draw i nodes db = some (db',ls)) :
    db'.leases.rows = db.leases.rows ++ ls ∧ db'.idempotencyKeys = db.idempotencyKeys ∧
      ls.map Lease.deviceId = nodes.map Node.deviceId ∧
      ∀ l ∈ ls, l.user = user ∧ l.status = .assigned ∧ l.endedAt = none := by
  induction nodes generalizing i db ls with
  | nil =>
    simp only [rentNodes, Option.some.injEq, Prod.mk.injEq] at h
    obtain ⟨rfl, rfl⟩ := h
    exact ⟨(List.append_nil _).symm,rfl,rfl,by simp⟩
  | cons n nodes ih =>
    simp only [rentNodes, Option.bind_eq_bind, Option.bind_eq_some_iff, Option.pure_def,
      Option.some.injEq, Prod.mk.injEq, Prod.exists] at h
    obtain ⟨db₁, h₁, db₂, ls₂, h₂, rfl, rfl⟩ := h
    obtain ⟨hrows, hkeys, hdevices, hall⟩ := ih h₂
    simp only [Database.createLease, Option.map_eq_some_iff] at h₁
    obtain ⟨leases, hl, rfl⟩ := h₁
    obtain ⟨hk, rfl⟩ := Table.insert?_eq_some.mp hl
    refine ⟨?_,hkeys,congrArg (n.deviceId :: ·) hdevices,fun l hm => ?_⟩
    · rw [hrows]
      exact List.append_assoc db.leases.rows [newLease user unit price now (draw i) n] ls₂
    · rcases List.mem_cons.mp hm with rfl | hm
      · exact ⟨rfl,rfl,rfl⟩
      · exact hall l hm

end Loop

section Picking
variable {db : Database} {req : RentRequest}

theorem rentable_iff (n : Node) : rentable req.region req.gpuTier n = true ↔ Eligible req n := by
  simp only [rentable, Bool.and_eq_true, Bool.or_eq_true, decide_eq_true_eq, Eligible, and_assoc]

theorem filter_eligible : db.nodes.rows.filter (rentable req.region req.gpuTier) =
    eligible db req := by
  refine List.filter_congr fun n _ => ?_
  rw [Bool.eq_iff_iff, rentable_iff, decide_eq_true_iff]

/-- Whoever is left out of a sorted selection comes after all that are in. -/
theorem freeNodes_longest {n q : Node} (hn : n ∈ freeNodes db req.region req.gpuTier req.count)
    (hq : q ∈ db.nodes) (he : Eligible req q)
    (hout : q ∉ freeNodes db req.region req.gpuTier req.count) : n.lastSeen ≤ q.lastSeen := by
  unfold freeNodes at hn hout
  generalize hs : (db.nodes.rows.filter (rentable req.region req.gpuTier)).insertionSort
    (fun a b => a.lastSeen ≤ b.lastSeen) = sorted at hn hout
  have hsorted : sorted.Pairwise (fun a b : Node => a.lastSeen ≤ b.lastSeen) :=
    hs ▸ List.pairwise_insertionSort _ _
  have hin : q ∈ sorted := by
    rw [← hs, List.mem_insertionSort, List.mem_filter]
    exact ⟨hq,(rentable_iff q).mpr he⟩
  rw [← List.take_append_drop req.count sorted, List.mem_append] at hin
  rw [← List.take_append_drop req.count sorted, List.pairwise_append] at hsorted
  exact hsorted.2.2 n hn q (hin.resolve_left hout)

end Picking

/-- A valid rental that is no repetition, with fresh lease ids, rents as many
nodes as asked for, or changes nothing. -/
theorem rent_exact (user : User) (req : RentRequest) (now : Instant) (draw : ℕ → Uuid × String)
    (db : Database) (hvalid : ¬ Invalid req)
    (hnew : existing db user .rent req.clientRequestId = none)
    (hfresh : FreshDraws draw db.leases 0 req.count) :
    (req.count ≤ (eligible db req).length → ∃ nodes leases,
      Allocated user req db (rentLease user req now draw db) nodes leases) ∧
    ((eligible db req).length < req.count →
      (rentLease user req now draw db).db = db ∧
      (rentLease user req now draw db).response = errorResponse "NO_CAPACITY" "no capacity"
        (.capacity req.count (eligible db req).length) 409) := by
  have hgo : ¬ (req.region = "" ∨ req.gpuTier = "" ∨ req.count < 1 ∨ 100 < req.count) := hvalid
  have hlength : (freeNodes db req.region req.gpuTier req.count).length =
      min req.count (eligible db req).length := by
    rw [freeNodes_length, filter_eligible]
  constructor
  · intro hcap
    have hcount : (freeNodes db req.region req.gpuTier req.count).length = req.count := by omega
    rw [← hcount, ← @rentNodes_isSome_iff user.id req.billingUnit
      (getPrice db req.region req.gpuTier req.billingUnit) now draw] at hfresh
    obtain ⟨⟨db', ls⟩, hrent⟩ := Option.isSome_iff_exists.mp hfresh
    obtain ⟨hrows, hkeys, hdevices, hall⟩ := rentNodes_rows hrent
    have hview : rentLease user req now draw db = remember db'
        (ls.flatMap (fun l => [leaseAssigned l,pushLeaseUpdate l]) ++ [pushPoolUpdate db'])
        user .rent req.clientRequestId
        (.rented (ls.map serializeLease) (ls.map (fun l => (l.leaseId,l.leaseToken)))) := by
      unfold rentLease
      rw [if_neg hgo, hnew]
      dsimp only
      rw [if_neg (by omega), hrent]
    have hsame := remember_rows db'
      (ls.flatMap (fun l => [leaseAssigned l,pushLeaseUpdate l]) ++ [pushPoolUpdate db'])
      user .rent req.clientRequestId
      (.rented (ls.map serializeLease) (ls.map (fun l => (l.leaseId,l.leaseToken))))
    have hnodup := db'.leases.nodup
    rw [hrows, List.map_append, List.nodup_append] at hnodup
    refine ⟨_,ls,hcount,freeNodes_nodup db req.region req.gpuTier req.count,?_,?_,?_,?_,?_,
      hnodup.2.1,hdevices,hall,?_⟩
    · intro n hn
      obtain ⟨hin, -⟩ := mem_freeNodes hn
      have hr := List.mem_of_mem_take hn
      rw [List.mem_insertionSort, List.mem_filter] at hr
      exact ⟨hin,(rentable_iff n).mp hr.2⟩
    · exact fun n hn q hq he hout => freeNodes_longest hn hq he hout
    · intro d
      rw [hview, hsame.nodes]
      exact NodeTransitions.rentNodes_node hrent d
    · rw [hview, hsame.leases]
      exact hrows
    · intro l hl
      refine (Table.get?_eq_none _ _).mpr fun q hq hid => ?_
      exact hnodup.2.2 _ (List.mem_map_of_mem hq) _ (List.mem_map_of_mem hl) hid
    · rw [hview]
      exact (remember_fresh hkeys hnew).1
  · intro hcap
    have hcount : (freeNodes db req.region req.gpuTier req.count).length =
        (eligible db req).length := by omega
    have hview : rentLease user req now draw db = answer db (errorResponse "NO_CAPACITY"
        "no capacity" (.capacity req.count (eligible db req).length) 409) := by
      unfold rentLease
      rw [if_neg hgo, hnew]
      dsimp only
      rw [if_pos (by omega), hcount]
    rw [hview]
    exact ⟨rfl,rfl⟩

/-- A database with one free node. -/
def oneNode : Database :=
  ((Database.empty 0).getOrCreateNode "node" 1).updateNode "node"
    (fun n => { n with gpuTier := "a", status := .free })

theorem one_rented : ∃ nodes leases, Allocated { id := 7, username := "ann" }
    ⟨"default","a",.hour,1,none⟩ oneNode
    (rentLease { id := 7, username := "ann" } ⟨"default","a",.hour,1,none⟩ 3
      (fun i => (i,"token")) oneNode) nodes leases :=
  (rent_exact _ _ 3 (fun i => (i,"token")) oneNode (by unfold Invalid; decide) rfl
    ⟨fun _ _ => rfl,fun j (hj : j < 1) k hk => absurd hk (by omega)⟩).1 (by decide)

end CloudPlay.ExactAllocation
