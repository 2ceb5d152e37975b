import Mathlib.Tactic
import CloudPlay.KeyedTable

/-!
# Rows of the control-plane database

The columns of `control_plane/models.py` that some handler reads or writes.
Instants are microseconds since the epoch and money is counted in units of
the last decimal place, which is the fourth in every money column. A random
key or secret is a value supplied by the step that draws it, so nothing here
assumes that draws differ. No handler reads `updated_at` and the device secret
hash, which only the admin site shows; they are left out. Every save of a node
or a lease sets `updated_at`, so where it matters whether a row is changed, the
rows that a request saves are read off its statements.
-/

set_option autoImplicit false

namespace CloudPlay.ControlPlaneModels
open KeyedTable

abbrev Instant := ℤ
abbrev Money := ℤ
abbrev Uuid := ℕ
abbrev UserId := ℕ

/-- JSON as the server stores and relays it. A number with a fraction or an
exponent keeps its text. -/
inductive Json where
  | null
  | bool (b : Bool)
  | int (n : ℤ)
  | real (text : String)
  | str (s : String)
  | arr (items : List Json)
  | obj (fields : List (String × Json))

inductive NodeStatus where
  | offline
  | free
  | assigned
  | inUse
  | releasing
  | disabled
  | maintenance
  deriving DecidableEq, Repr

inductive LeaseStatus where
  | pending
  | assigned
  | ready
  | active
  | releasing
  | ended
  deriving DecidableEq, Repr

inductive BillingUnit where
  | minute
  | hour
  | day
  | week
  | month
  deriving DecidableEq, Repr

inductive EndReason where
  | userRelease
  | nodeOffline
  | adminForceRelease
  | timeout
  | error
  deriving DecidableEq, Repr

/-- The column holds a string: the choices of `EndReason` are not enforced
when a row is saved, and one caller passes a string that is not a choice. -/
def EndReason.value : EndReason → String
  | .userRelease => "USER_RELEASE"
  | .nodeOffline => "NODE_OFFLINE"
  | .adminForceRelease => "ADMIN_FORCE_RELEASE"
  | .timeout => "TIMEOUT"
  | .error => "ERROR"

structure Node where
  deviceId : String
  nickname : Option String := none
  region : String := ""
  gpuTier : String := ""
  status : NodeStatus := .offline
  connectionId : Option String := none
  lastSeen : Instant
  agentVersion : Option String := none
  capabilities : Option Json := none

/-- `if node.connection_id`: neither null nor the empty string. -/
def Node.hasConnection (n : Node) : Bool :=
  match n.connectionId with
  | none => false
  | some c => c ≠ ""

/-- `node.status in (DISABLED, MAINTENANCE)`. -/
def Node.blocked (n : Node) : Bool := n.status = .disabled ∨ n.status = .maintenance

structure PricePlan where
  region : String
  gpuTier : String
  billingUnit : BillingUnit
  unitPrice : Money
  deriving DecidableEq, Repr

def PricePlan.key (p : PricePlan) : String × String × BillingUnit :=
  (p.region, p.gpuTier, p.billingUnit)

structure Lease where
  leaseId : Uuid
  user : UserId
  deviceId : String
  status : LeaseStatus := .pending
  billingUnit : BillingUnit
  unitPrice : Option Money := none
  billedUnits : Option ℕ := none
  amount : Option Money := none
  assignedAt : Option Instant := none
  startedAt : Option Instant := none
  endedAt : Option Instant := none
  endReason : Option String := none
  leaseToken : String := ""
  createdAt : Instant
  deriving DecidableEq, Repr

/-- The status list of the consumer and of `mark_node_offline_and_end_leases`. -/
def Lease.engaged (l : Lease) : Bool :=
  l.status ∈ [LeaseStatus.assigned, .ready, .active, .releasing]

/-- The status list of the views, which also names PENDING. -/
def Lease.unfinished (l : Lease) : Bool :=
  l.status ∈ [LeaseStatus.pending, .assigned, .ready, .active, .releasing]

/-- `recordId` counts the records ever created: the source draws a UUID here
which nothing sends back to the server. -/
structure BillingRecord where
  recordId : ℕ
  user : UserId
  lease : Uuid
  amount : Money
  billedUnits : ℕ
  billingUnit : BillingUnit
  createdAt : Instant
  endReason : Option String
  deriving DecidableEq, Repr

structure Account where
  user : UserId
  currency : String := "CNY"
  balance : Money := 0
  deriving DecidableEq, Repr

inductive Scope where
  | rent
  | release
  deriving DecidableEq, Repr

/-- The principal the authentication layer loads for a request. -/
structure User where
  id : UserId
  username : String
  firstName : String := ""
  isStaff : Bool := false
  deriving DecidableEq, Repr

/-- `user.first_name or user.username`. -/
def User.nickname (u : User) : String := if u.firstName = "" then u.username else u.firstName

theorem engaged_iff (l : Lease) :
    l.engaged = true ↔ l.status ≠ .pending ∧ l.status ≠ .ended := by
  cases h : l.status <;> simp [Lease.engaged, h]

theorem unfinished_iff (l : Lease) : l.unfinished = true ↔ l.status ≠ .ended := by
  cases h : l.status <;> simp [Lease.unfinished, h]

end CloudPlay.ControlPlaneModels
