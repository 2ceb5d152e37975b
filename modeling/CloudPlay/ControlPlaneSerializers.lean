import CloudPlay.ControlPlaneModels

/-!
# What leaves the server

The serialized rows of `control_plane/serializers.py`, the WebSocket messages
and the HTTP bodies built from them. `float()` of a money column keeps the
column's own value here. A message is addressed to a channel-layer group or
to the channel of one connection.
-/

set_option autoImplicit false

namespace CloudPlay.ControlPlaneSerializers
open ControlPlaneModels

structure NodeData where
  deviceId : String
  connectionId : Option String
  nickname : Option String
  region : String
  gpuTier : String
  status : NodeStatus
  lastSeen : Instant
  agentVersion : Option String
  capabilities : Option Json

def serializeNode (n : Node) : NodeData :=
  ⟨n.deviceId,n.connectionId,n.nickname,n.region,n.gpuTier,n.status,n.lastSeen,
    n.agentVersion,n.capabilities⟩

structure LeaseData where
  leaseId : Uuid
  deviceId : String
  status : LeaseStatus
  billingUnit : BillingUnit
  unitPrice : Option Money
  billedUnits : Option ℕ
  amount : Option Money
  startedAt : Option Instant
  endedAt : Option Instant
  endReason : Option String
  leaseToken : String
  deriving DecidableEq, Repr

def serializeLease (l : Lease) : LeaseData :=
  ⟨l.leaseId,l.deviceId,l.status,l.billingUnit,l.unitPrice,l.billedUnits,l.amount,
    l.startedAt,l.endedAt,l.endReason,l.leaseToken⟩

structure BillingRecordData where
  recordId : ℕ
  leaseId : Uuid
  amount : Money
  billedUnits : ℕ
  billingUnit : BillingUnit
  createdAt : Instant
  endReason : Option String
  deriving DecidableEq, Repr

def serializeBillingRecord (b : BillingRecord) : BillingRecordData :=
  ⟨b.recordId,b.lease,b.amount,b.billedUnits,b.billingUnit,b.createdAt,b.endReason⟩

/-- A lease id as a client writes it: absent or falsy, not a UUID, or a UUID. -/
inductive LeaseRef where
  | absent
  | malformed
  | uuid (id : Uuid)
  deriving DecidableEq, Repr

abbrev Fields := List (String × Json)

def getField (fields : Fields) (name : String) : Option Json :=
  (fields.find? (fun f => f.1 = name)).map Prod.snd

def setField (fields : Fields) (name : String) (value : Json) : Fields :=
  fields.filter (fun f => f.1 ≠ name) ++ [(name,value)]

def popField (fields : Fields) (name : String) : Fields :=
  fields.filter (fun f => f.1 ≠ name)

/-! The casts of the app; `none` is a cast that fails. -/

def asString : Json → Option String
  | .str s => some s
  | _ => none

/-- An integer literal of up to 64 bits decodes to an `int`. The ones that are
sent come from integer columns and settings, which hold no more. -/
def asInt : Json → Option ℤ
  | .int n => some n
  | _ => none

def asBool : Json → Option Bool
  | .bool b => some b
  | _ => none

structure RequesterInfo where
  ownerId : UserId
  ownerNickname : String
  connectionId : String
  deviceType : String
  deviceName : String
  connective : Bool
  screenCount : ℤ
  deriving DecidableEq, Repr

/-- An entry of `connected_devices`. -/
structure DeviceEntry where
  ownerId : Option UserId
  ownerNickname : String
  connectionId : String
  deviceType : String
  deviceName : String
  connective : Bool
  screenCount : ℤ
  deriving DecidableEq, Repr

inductive SignalKind where
  | offer
  | answer
  | candidate
  | candidate2
  deriving DecidableEq, Repr

inductive ErrorContext where
  | none
  | lease (ref : LeaseRef)
  | device (deviceId : String)
  | capacity (requested available : ℕ)
  | state (state : Option String)
  deriving DecidableEq, Repr

inductive Message where
  | connectionInfo (connectionId : String) (uid : UserId) (nickname : String)
  | pong
  | error (code message : String) (context : ErrorContext)
  | connectedDevices (devices : List DeviceEntry)
  | leaseAssigned (leaseId : Uuid) (deviceId leaseToken : String) (billingUnit : BillingUnit)
  | leaseRelease (leaseId : Uuid) (deviceId reason : String)
  | leaseUpdate (lease : LeaseData)
  | poolUpdate (nodes : List NodeData)
  | remoteSessionRequested (requesterInfo : RequesterInfo) (settings : Fields)
  | signal (kind : SignalKind) (data : Fields)
  | nodeReboot (deviceId : String)

inductive Group where
  | users
  | user (id : UserId)
  | node (deviceId : String)
  deriving DecidableEq, Repr

inductive Target where
  | group (g : Group)
  | channel (connectionId : String)
  deriving DecidableEq, Repr

structure Send where
  target : Target
  message : Message

inductive Body where
  | error (code message : String) (details : ErrorContext)
  | rented (leases : List LeaseData) (leaseTokenMap : List (Uuid × String))
  | leases (leases : List LeaseData)
  | lease (lease : LeaseData)
  | node (node : NodeData)
  | nodes (nodes : List NodeData)
  | pool (nodes : List NodeData) (prices : List PricePlan)
  | billing (currency : String) (balance : Money) (activeLeases : List LeaseData)
      (history : List BillingRecordData)
  | deviceToken (deviceId : String)
  | nodeReleased (deviceId : String) (leasesEnded : ℕ) (newStatus : NodeStatus)
  | accepted
  | deleted (deviceId : String)

structure Response where
  status : ℕ
  body : Body

/-- `_error`, whose status is 400 unless the caller names another. -/
def errorResponse (code message : String) (details : ErrorContext) (status : ℕ) : Response :=
  ⟨status,.error code message details⟩

def Response.success (r : Response) : Bool := 200 ≤ r.status ∧ r.status < 300

/-- What the framework answers when a view raises. -/
def serverError : Response := errorResponse "SERVER_ERROR" "internal server error" .none 500

end CloudPlay.ControlPlaneSerializers
