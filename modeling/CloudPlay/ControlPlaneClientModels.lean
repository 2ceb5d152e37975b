import CloudPlay.ControlPlaneSerializers
import Mathlib.Computability.RegularExpressions

/-!
# The client's copy of the pool and of the leases

The decoders of `lib/control_plane/control_plane_models.dart`. A cast that
fails and a `FormatException` are `none`. A double keeps the literal it was
decoded from and a `DateTime` the text it was parsed from. `trim` and the case
conversions act on ASCII, in which every name of the protocol is written.
-/

set_option autoImplicit false

namespace CloudPlay.ControlPlaneClientModels
open ControlPlaneModels (Json)
open ControlPlaneSerializers (Fields getField asString asInt)

def trim (s : List Char) : List Char :=
  ((s.dropWhile Char.isWhitespace).reverse.dropWhile Char.isWhitespace).reverse

def normalized (caseOf : Char → Char) (value : String) : String :=
  String.ofList ((trim value.toList).map caseOf)

inductive BillingUnit where
  | minute
  | hour
  | day
  | week
  | month
  deriving DecidableEq, Repr

def billingUnitToWire : BillingUnit → String
  | .minute => "minute"
  | .hour => "hour"
  | .day => "day"
  | .week => "week"
  | .month => "month"

def BillingUnit.values : List BillingUnit := [.minute,.hour,.day,.week,.month]

/-- `firstWhere` with `orElse: () => BillingUnit.minute`. -/
def billingUnitFromWire (value : String) : BillingUnit :=
  (BillingUnit.values.find? fun e => billingUnitToWire e = normalized Char.toLower value).getD
    .minute

inductive NodeStatus where
  | unknown
  | offline
  | free
  | assigned
  | inUse
  | releasing
  | disabled
  | maintenance
  deriving DecidableEq, Repr

def nodeStatusFromWire (value : String) : NodeStatus :=
  match normalized Char.toUpper value with
  | "OFFLINE" => .offline
  | "FREE" => .free
  | "ASSIGNED" => .assigned
  | "IN_USE" => .inUse
  | "RELEASING" => .releasing
  | "DISABLED" => .disabled
  | "MAINTENANCE" => .maintenance
  | _ => .unknown

def nodeStatusToWire : NodeStatus → String
  | .offline => "OFFLINE"
  | .free => "FREE"
  | .assigned => "ASSIGNED"
  | .inUse => "IN_USE"
  | .releasing => "RELEASING"
  | .disabled => "DISABLED"
  | .maintenance => "MAINTENANCE"
  | .unknown => "UNKNOWN"

inductive LeaseStatus where
  | unknown
  | pending
  | assigned
  | ready
  | active
  | releasing
  | ended
  deriving DecidableEq, Repr

def leaseStatusFromWire (value : String) : LeaseStatus :=
  match normalized Char.toUpper value with
  | "PENDING" => .pending
  | "ASSIGNED" => .assigned
  | "READY" => .ready
  | "ACTIVE" => .active
  | "RELEASING" => .releasing
  | "ENDED" => .ended
  | _ => .unknown

def leaseStatusToWire : LeaseStatus → String
  | .pending => "PENDING"
  | .assigned => "ASSIGNED"
  | .ready => "READY"
  | .active => "ACTIVE"
  | .releasing => "RELEASING"
  | .ended => "ENDED"
  | .unknown => "UNKNOWN"

inductive EndReason where
  | unknown
  | userRelease
  | nodeOffline
  | adminForceRelease
  | timeout
  | error
  deriving DecidableEq, Repr

def endReasonFromWire (value : String) : EndReason :=
  match normalized Char.toUpper value with
  | "USER_RELEASE" => .userRelease
  | "NODE_OFFLINE" => .nodeOffline
  | "ADMIN_FORCE_RELEASE" => .adminForceRelease
  | "TIMEOUT" => .timeout
  | "ERROR" => .error
  | _ => .unknown

def endReasonToWire : EndReason → String
  | .userRelease => "USER_RELEASE"
  | .nodeOffline => "NODE_OFFLINE"
  | .adminForceRelease => "ADMIN_FORCE_RELEASE"
  | .timeout => "TIMEOUT"
  | .error => "ERROR"
  | .unknown => "UNKNOWN"

section Format
open RegularExpression

def oneOf (cs : List Char) : RegularExpression Char := (cs.map char).foldr plus 0

def optional (p : RegularExpression Char) : RegularExpression Char := 1 + p

def digit : RegularExpression Char := oneOf ['0','1','2','3','4','5','6','7','8','9']

/-- `([+-]?\d{4,6})-?(\d\d)-?(\d\d)` -/
def dayPart : RegularExpression Char :=
  optional (oneOf ['+','-']) *
    (digit * (digit * (digit * (digit * (optional digit * optional digit))))) *
    (optional (char '-') * (digit * digit)) * (optional (char '-') * (digit * digit))

/-- `[ T](\d\d)(?::?(\d\d)(?::?(\d\d)(?:[.,](\d+))?)?)?` -/
def timePart : RegularExpression Char :=
  oneOf [' ','T'] * (digit * digit) *
    optional (optional (char ':') * (digit * digit) *
      optional (optional (char ':') * (digit * digit) *
        optional (oneOf ['.',','] * (digit * star digit))))

/-- `( ?[zZ]| ?([-+])(\d\d)(?::?(\d\d))?)` -/
def zonePart : RegularExpression Char :=
  optional (char ' ') * oneOf ['z','Z'] +
    optional (char ' ') * oneOf ['-','+'] * (digit * digit) *
      optional (optional (char ':') * (digit * digit))

/-- The format `DateTime.parse` documents. -/
def parseFormat : RegularExpression Char :=
  dayPart * optional (timePart * optional zonePart)

end Format

structure DateTime where
  text : String
  formatted : parseFormat.rmatch text.toList = true

def DateTime.parse (formattedString : String) : Option DateTime :=
  if h : parseFormat.rmatch formattedString.toList = true then some ⟨formattedString,h⟩ else none

inductive Number where
  | int (n : ℤ)
  | double (literal : String)
  deriving DecidableEq, Repr

def asNum : Json → Option Number
  | .int n => some (.int n)
  | .real literal => some (.double literal)
  | _ => none

def asMap : Json → Option Fields
  | .obj fields => some fields
  | _ => none

/-- A cast to a nullable type. An absent member reads as null. -/
def nullable {α : Type} (cast : Json → Option α) : Option Json → Option (Option α)
  | none => some none
  | some .null => some none
  | some v => (cast v).map some

/-- `json['status'] ?? 'UNKNOWN'`. -/
def orUnknown : Option Json → Json
  | none => .str "UNKNOWN"
  | some .null => .str "UNKNOWN"
  | some v => v

def dateTime (v : Json) : Option DateTime := (asString v).bind DateTime.parse

structure PoolNode where
  deviceId : String
  region : String
  gpuTier : String
  status : NodeStatus
  lastSeen : DateTime
  connectionId : Option String
  agentVersion : Option String
  capabilities : Option Fields

def PoolNode.fromJson (json : Fields) : Option PoolNode := do
  let deviceId ← (getField json "device_id").bind asString
  let region ← (getField json "region").bind asString
  let gpuTier ← (getField json "gpu_tier").bind asString
  let status ← asString (orUnknown (getField json "status"))
  let lastSeen ← (getField json "last_seen").bind dateTime
  let connectionId ← nullable asString (getField json "connection_id")
  let agentVersion ← nullable asString (getField json "agent_version")
  let capabilities ← nullable asMap (getField json "capabilities")
  return ⟨deviceId,region,gpuTier,nodeStatusFromWire status,lastSeen,connectionId,agentVersion,
    capabilities⟩

structure Lease where
  leaseId : String
  deviceId : String
  status : LeaseStatus
  billingUnit : BillingUnit
  unitPrice : Option Number
  billedUnits : Option ℤ
  amount : Option Number
  startedAt : Option DateTime
  endedAt : Option DateTime
  endReason : Option EndReason
  leaseToken : Option String

def Lease.fromJson (json : Fields) : Option Lease := do
  let leaseId ← (getField json "lease_id").bind asString
  let deviceId ← (getField json "device_id").bind asString
  let status ← asString (orUnknown (getField json "status"))
  let billingUnit ← (getField json "billing_unit").bind asString
  let unitPrice ← nullable asNum (getField json "unit_price")
  let billedUnits ← nullable asInt (getField json "billed_units")
  let amount ← nullable asNum (getField json "amount")
  let startedAt ← nullable dateTime (getField json "started_at")
  let endedAt ← nullable dateTime (getField json "ended_at")
  let endReason ← nullable asString (getField json "end_reason")
  let leaseToken ← nullable asString (getField json "lease_token")
  return ⟨leaseId,deviceId,leaseStatusFromWire status,billingUnitFromWire billingUnit,unitPrice,
    billedUnits,amount,startedAt,endedAt,endReason.map endReasonFromWire,leaseToken⟩

end CloudPlay.ControlPlaneClientModels
