import CloudPlay.ControlPlaneSerializers

/-!
# The database and its row operations

A row operation names the columns it writes and leaves the rest of the row
as it stands in the table. Creation fails on a primary or unique key already
present, which the source sees as an exception. The zone of the settings is
kept beside the tables because billing reads it.
-/

set_option autoImplicit false

namespace CloudPlay.ControlPlaneDatabase
open KeyedTable ControlPlaneModels ControlPlaneSerializers

structure IdempotencyKey where
  user : UserId
  scope : Scope
  key : String
  responseJson : Body

def IdempotencyKey.id (k : IdempotencyKey) : UserId × Scope × String := (k.user,k.scope,k.key)

structure Database where
  nodes : Table Node.deviceId
  leases : Table Lease.leaseId
  billingRecords : List BillingRecord
  recordsCreated : ℕ
  prices : Table PricePlan.key
  idempotencyKeys : Table IdempotencyKey.id
  accounts : Table Account.user
  timeZone : Instant

namespace Database

def empty (timeZone : Instant) : Database :=
  ⟨.empty,.empty,[],0,.empty,.empty,.empty,timeZone⟩

def updateNode (db : Database) (deviceId : String) (f : Node → Node)
    (hf : ∀ n, (f n).deviceId = n.deviceId := by intro _; rfl) : Database :=
  { db with nodes := db.nodes.modify deviceId f hf }

def updateLease (db : Database) (leaseId : Uuid) (f : Lease → Lease)
    (hf : ∀ l, (f l).leaseId = l.leaseId := by intro _; rfl) : Database :=
  { db with leases := db.leases.modify leaseId f hf }

def setNodeStatus (db : Database) (deviceId : String) (status : NodeStatus) : Database :=
  db.updateNode deviceId (fun n => { n with status := status })

def createLease (db : Database) (l : Lease) : Option Database :=
  (db.leases.insert? l).map (fun leases => { db with leases := leases })

/-- `Node.objects.get_or_create(device_id=...)`, with the columns' defaults. -/
def getOrCreateNode (db : Database) (deviceId : String) (now : Instant) : Database :=
  if h : db.nodes.get? deviceId = none then
    { db with nodes := db.nodes.insert { deviceId := deviceId, lastSeen := now } h }
  else db

def createBillingRecord (db : Database) (l : Lease) (endReason : String) (createdAt : Instant) :
    Database :=
  { db with
    billingRecords := db.billingRecords ++
      [⟨db.recordsCreated,l.user,l.leaseId,l.amount.getD 0,l.billedUnits.getD 0,l.billingUnit,
        createdAt,some endReason⟩]
    recordsCreated := db.recordsCreated+1 }

def createIdempotencyKey (db : Database) (k : IdempotencyKey) : Option Database :=
  (db.idempotencyKeys.insert? k).map (fun keys => { db with idempotencyKeys := keys })

def ensureAccount (db : Database) (user : UserId) : Database :=
  if h : db.accounts.get? user = none then
    { db with accounts := db.accounts.insert { user := user } h }
  else db

/-- Leases of a device that satisfy a filter, newest first. -/
def leasesOf (db : Database) (deviceId : String) (p : Lease → Bool) : List Lease :=
  (db.leases.rows.filter (fun l => l.deviceId = deviceId && p l)).insertionSort
    (fun a b => b.createdAt ≤ a.createdAt)

def recordsOf (db : Database) (leaseId : Uuid) : List BillingRecord :=
  db.billingRecords.filter (fun b => b.lease = leaseId)

@[simp] theorem updateNode_leases (db : Database) (d : String) (f : Node → Node)
    (hf : ∀ n, (f n).deviceId = n.deviceId) : (db.updateNode d f hf).leases = db.leases := rfl

@[simp] theorem updateNode_records (db : Database) (d : String) (f : Node → Node)
    (hf : ∀ n, (f n).deviceId = n.deviceId) :
    (db.updateNode d f hf).billingRecords = db.billingRecords := rfl

@[simp] theorem updateNode_nodes (db : Database) (d : String) (f : Node → Node)
    (hf : ∀ n, (f n).deviceId = n.deviceId) :
    (db.updateNode d f hf).nodes = db.nodes.modify d f hf := rfl

@[simp] theorem updateLease_nodes (db : Database) (i : Uuid) (f : Lease → Lease)
    (hf : ∀ l, (f l).leaseId = l.leaseId) : (db.updateLease i f hf).nodes = db.nodes := rfl

@[simp] theorem updateLease_leases (db : Database) (i : Uuid) (f : Lease → Lease)
    (hf : ∀ l, (f l).leaseId = l.leaseId) :
    (db.updateLease i f hf).leases = db.leases.modify i f hf := rfl

@[simp] theorem updateLease_records (db : Database) (i : Uuid) (f : Lease → Lease)
    (hf : ∀ l, (f l).leaseId = l.leaseId) :
    (db.updateLease i f hf).billingRecords = db.billingRecords := rfl

@[simp] theorem setNodeStatus_leases (db : Database) (d : String) (st : NodeStatus) :
    (db.setNodeStatus d st).leases = db.leases := rfl

@[simp] theorem setNodeStatus_records (db : Database) (d : String) (st : NodeStatus) :
    (db.setNodeStatus d st).billingRecords = db.billingRecords := rfl

theorem kept_updateNode (db : Database) (d : String) (f : Node → Node)
    (hf : ∀ n, (f n).deviceId = n.deviceId) {n : Node} (hn : n ∈ db.nodes) :
    n ∈ (db.updateNode d f hf).nodes ↔ (n.deviceId = d → f n = n) :=
  db.nodes.mem_modify_iff d f hf hn

theorem kept_updateLease (db : Database) (i : Uuid) (f : Lease → Lease)
    (hf : ∀ l, (f l).leaseId = l.leaseId) {l : Lease} (hl : l ∈ db.leases) :
    l ∈ (db.updateLease i f hf).leases ↔ (l.leaseId = i → f l = l) :=
  db.leases.mem_modify_iff i f hf hl

theorem mem_setNodeStatus (db : Database) (d : String) (st : NodeStatus) (n : Node) :
    n ∈ (db.setNodeStatus d st).nodes ↔
      ∃ q ∈ db.nodes, (if q.deviceId = d then { q with status := st } else q) = n :=
  Table.mem_modify db.nodes d (fun q => { q with status := st }) (fun _ => rfl) n

theorem get?_setNodeStatus (db : Database) (d d' : String) (st : NodeStatus) :
    (db.setNodeStatus d st).nodes.get? d' =
      if d' = d then (db.nodes.get? d).map (fun n => { n with status := st })
      else db.nodes.get? d' :=
  Table.get?_modify db.nodes d d' (fun n => { n with status := st }) (fun _ => rfl)

theorem getOrCreateNode_new (db : Database) (d : String) (now : Instant)
    (h : db.nodes.get? d = none) : db.getOrCreateNode d now =
      { db with nodes := db.nodes.insert { deviceId := d, lastSeen := now } h } := dif_pos h

theorem getOrCreateNode_known (db : Database) (d : String) (now : Instant)
    (h : db.nodes.get? d ≠ none) : db.getOrCreateNode d now = db := dif_neg h

@[simp] theorem getOrCreateNode_leases (db : Database) (d : String) (now : Instant) :
    (db.getOrCreateNode d now).leases = db.leases := by
  unfold getOrCreateNode
  split <;> rfl

@[simp] theorem getOrCreateNode_records (db : Database) (d : String) (now : Instant) :
    (db.getOrCreateNode d now).billingRecords = db.billingRecords := by
  unfold getOrCreateNode
  split <;> rfl

@[simp] theorem createBillingRecord_nodes (db : Database) (l : Lease) (r : String)
    (t : Instant) : (db.createBillingRecord l r t).nodes = db.nodes := rfl

@[simp] theorem createBillingRecord_leases (db : Database) (l : Lease) (r : String)
    (t : Instant) : (db.createBillingRecord l r t).leases = db.leases := rfl

theorem ensureAccount_new (db : Database) (user : UserId) (h : db.accounts.get? user = none) :
    db.ensureAccount user =
      { db with accounts := db.accounts.insert { user := user } h } := dif_pos h

theorem ensureAccount_known (db : Database) (user : UserId) (h : db.accounts.get? user ≠ none) :
    db.ensureAccount user = db := dif_neg h

theorem mem_leasesOf (db : Database) (d : String) (p : Lease → Bool) (l : Lease) :
    l ∈ db.leasesOf d p ↔ l ∈ db.leases ∧ l.deviceId = d ∧ p l = true := by
  simp [leasesOf, KeyedTable.Table.mem_rows]

end Database

end CloudPlay.ControlPlaneDatabase
