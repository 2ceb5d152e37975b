import CloudPlay.BillingRules
import CloudPlay.ControlPlaneDatabase

/-!
# Ending leases

`control_plane/services/lease_lifecycle.py`. Ending a lease that has ended is
a no-op. Otherwise its five closing columns are written and one billing
record is created, and both fail together when the amount is too large for
its column. `none` is an exception, which undoes the open transaction.
-/

set_option autoImplicit false

namespace CloudPlay.LeaseLifecycle
open KeyedTable ControlPlaneModels ControlPlaneSerializers ControlPlaneDatabase BillingRules

/-- `max_digits = 12` of the money columns. -/
def fitsColumn (amount : Money) : Bool := |amount| < 1000000000000

def pushLeaseUpdate (l : Lease) : Send := ⟨.group (.user l.user),.leaseUpdate (serializeLease l)⟩

def orderByDeviceId (nodes : List Node) : List Node :=
  nodes.insertionSort (fun a b => a.deviceId ≤ b.deviceId)

def pushPoolUpdate (db : Database) : Send :=
  ⟨.group .users,.poolUpdate ((orderByDeviceId db.nodes.rows).map serializeNode)⟩

/-- What ending a lease charges: nothing unless the lease has started. The clock stays within
the range of `datetime`, also a zone away. -/
def charge (l : Lease) (endedAt timeZone : Instant) : BillingResult Money :=
  match l.startedAt with
  | none => ⟨0,0⟩
  | some _ => computeBilling timeZone l.startedAt (some endedAt) l.billingUnit (l.unitPrice.getD 0)

/-- The assignments `end_lease` makes to the object of a lease not yet ended. -/
def settle (endReason : String) (endedAt timeZone : Instant) (l : Lease) : Lease :=
  { l with
    endedAt := some endedAt
    endReason := some endReason
    status := .ended
    billedUnits := some (charge l endedAt timeZone).billedUnits
    amount := some (charge l endedAt timeZone).amount }

/-- `lease.save(update_fields=[...])` with the closing columns of an object. -/
def saveEnded (db : Database) (l : Lease) : Database :=
  db.updateLease l.leaseId (fun row =>
    { row with
      status := l.status
      endedAt := l.endedAt
      endReason := l.endReason
      billedUnits := l.billedUnits
      amount := l.amount })

/-- The object after `end_lease` together with the database. -/
def endLease (endReason : String) (endedAt : Instant) (l : Lease) (db : Database) :
    Option (Lease × Database) :=
  if l.endedAt.isSome then some (l,db)
  else
    let ended := settle endReason endedAt db.timeZone l
    if fitsColumn (ended.amount.getD 0) then
      some (ended,(saveEnded db ended).createBillingRecord ended endReason endedAt)
    else none

def endLeases (endReason : String) (endedAt : Instant) : List Lease → Database →
    Option (List Lease × Database)
  | [], db => some ([],db)
  | l::ls, db => do
    let (l',db') ← endLease endReason endedAt l db
    let (ls',db'') ← endLeases endReason endedAt ls db'
    return (l'::ls',db'')

def offlineNode (now : Instant) (n : Node) : Node :=
  { n with connectionId := none, status := .offline, lastSeen := now }

@[simp] theorem offlineNode_deviceId (now : Instant) (n : Node) :
    (offlineNode now n).deviceId = n.deviceId := rfl

def takeOffline (db : Database) (deviceId : String) (now : Instant) : Database :=
  db.updateNode deviceId (offlineNode now) (offlineNode_deviceId now)

def markNodeOfflineAndEndLeases (deviceId : String) (reason : String) (now : Instant)
    (db : Database) : Option (Database × List Send) :=
  match db.nodes.get? deviceId with
  | none => some (db,[])
  | some _ => do
    let db' := takeOffline db deviceId now
    let activeLeases := db'.leasesOf deviceId Lease.engaged
    let (ended,db'') ← endLeases reason now activeLeases db'
    return (db'',ended.map pushLeaseUpdate ++ [pushPoolUpdate db''])

section Rows
variable (endReason : String) (endedAt : Instant)

@[simp] theorem settle_leaseId (timeZone : Instant) (l : Lease) :
    (settle endReason endedAt timeZone l).leaseId = l.leaseId := rfl

/-- The row that ending leaves behind, whether or not it had ended before. -/
def finish (timeZone : Instant) (l : Lease) : Lease :=
  if l.endedAt.isSome then l else settle endReason endedAt timeZone l

theorem finish_live {timeZone : Instant} {l : Lease} (h : l.endedAt = none) :
    finish endReason endedAt timeZone l = settle endReason endedAt timeZone l := by
  simp [finish, h]

theorem finish_ended {timeZone : Instant} {l : Lease} (h : l.endedAt.isSome) :
    finish endReason endedAt timeZone l = l := by
  simp [finish, h]

theorem finish_endedAt (timeZone : Instant) (l : Lease) :
    (finish endReason endedAt timeZone l).endedAt.isSome := by
  unfold finish
  split
  · assumption
  · rfl

@[simp] theorem finish_leaseId (timeZone : Instant) (l : Lease) :
    (finish endReason endedAt timeZone l).leaseId = l.leaseId := by
  unfold finish
  split <;> rfl

@[simp] theorem finish_user (timeZone : Instant) (l : Lease) :
    (finish endReason endedAt timeZone l).user = l.user := by
  unfold finish
  split <;> rfl

@[simp] theorem finish_deviceId (timeZone : Instant) (l : Lease) :
    (finish endReason endedAt timeZone l).deviceId = l.deviceId := by
  unfold finish
  split <;> rfl

@[simp] theorem saveEnded_nodes (db : Database) (l : Lease) :
    (saveEnded db l).nodes = db.nodes := rfl

@[simp] theorem saveEnded_records (db : Database) (l : Lease) :
    (saveEnded db l).billingRecords = db.billingRecords := rfl

theorem saveEnded_rows (db : Database) (l : Lease) :
    (saveEnded db l).leases.rows = db.leases.rows.map (fun row =>
      if row.leaseId = l.leaseId then
        { row with
          status := l.status
          endedAt := l.endedAt
          endReason := l.endReason
          billedUnits := l.billedUnits
          amount := l.amount }
      else row) := rfl

theorem endLease_ended (l : Lease) (db : Database) (h : l.endedAt.isSome) :
    endLease endReason endedAt l db = some (l,db) := by
  simp [endLease, h]

/-- The two outcomes of `end_lease` that do not raise. -/
theorem endLease_cases {l l' : Lease} {db db' : Database}
    (h : endLease endReason endedAt l db = some (l',db')) :
    (l.endedAt.isSome ∧ l' = l ∧ db' = db) ∨
    (l.endedAt = none ∧ l' = settle endReason endedAt db.timeZone l ∧
      db' = (saveEnded db l').createBillingRecord l' endReason endedAt) := by
  cases hl : l.endedAt with
  | some t =>
    rw [endLease_ended endReason endedAt l db (by simp [hl])] at h
    simp only [Option.some.injEq, Prod.mk.injEq] at h
    exact Or.inl ⟨rfl,h.1.symm,h.2.symm⟩
  | none =>
    simp only [endLease, hl, Option.isSome_none, Bool.false_eq_true, if_false] at h
    split at h
    · simp only [Option.some.injEq, Prod.mk.injEq] at h
      obtain ⟨rfl, rfl⟩ := h
      exact Or.inr ⟨rfl,rfl,rfl⟩
    · simp at h

end Rows

end CloudPlay.LeaseLifecycle
