import CloudPlay.ControlPlaneSerializers

/-!
# The JSON of a serialized row

What the REST framework makes of `NodeSerializer` and `LeaseSerializer`: the
choices are their values, a `DateTimeField` is the ISO 8601 text of the
instant in the server's zone, and a money column goes through `float()`.
Calendar and zone arithmetic, `str()` of a UUID and the digits of a float are
Python's; a `Rendering` supplies them.
-/

set_option autoImplicit false

namespace CloudPlay.ControlPlaneJson
open ControlPlaneModels ControlPlaneSerializers

def nodeStatusValue : NodeStatus → String
  | .offline => "OFFLINE"
  | .free => "FREE"
  | .assigned => "ASSIGNED"
  | .inUse => "IN_USE"
  | .releasing => "RELEASING"
  | .disabled => "DISABLED"
  | .maintenance => "MAINTENANCE"

def leaseStatusValue : LeaseStatus → String
  | .pending => "PENDING"
  | .assigned => "ASSIGNED"
  | .ready => "READY"
  | .active => "ACTIVE"
  | .releasing => "RELEASING"
  | .ended => "ENDED"

def billingUnitValue : BillingUnit → String
  | .minute => "minute"
  | .hour => "hour"
  | .day => "day"
  | .week => "week"
  | .month => "month"

/-- An aware datetime in the server's zone, whose offset is whole minutes. -/
structure LocalTime where
  year : Fin 10000
  month : Fin 13
  day : Fin 32
  hour : Fin 24
  minute : Fin 60
  second : Fin 60
  microsecond : Fin 1000000
  west : Bool
  offsetHours : Fin 24
  offsetMinutes : Fin 60

def digits : ℕ → ℕ → List Char
  | 0, _ => []
  | width+1, n => digits width (n/10) ++ [Nat.digitChar (n%10)]

def fractionText (t : LocalTime) : List Char :=
  if t.microsecond = 0 then [] else '.'::digits 6 t.microsecond

/-- `isoformat()` writes UTC as `+00:00`, which the framework replaces by `Z`. -/
def offsetText (t : LocalTime) : List Char :=
  if t.offsetHours = 0 ∧ t.offsetMinutes = 0 then ['Z']
  else (if t.west then '-' else '+')::digits 2 t.offsetHours ++ ':'::digits 2 t.offsetMinutes

def dateText (t : LocalTime) : List Char :=
  digits 4 t.year ++ '-'::digits 2 t.month ++ '-'::digits 2 t.day

def clockText (t : LocalTime) : List Char :=
  digits 2 t.hour ++ ':'::digits 2 t.minute ++ ':'::digits 2 t.second

def isoText (t : LocalTime) : String :=
  String.ofList (dateText t ++ 'T'::clockText t ++ fractionText t ++ offsetText t)

structure Rendering where
  localTime : Instant → LocalTime
  uuidText : Uuid → String
  floatText : Money → String

def orNull {α : Type} (encode : α → Json) : Option α → Json
  | none => .null
  | some a => encode a

variable (r : Rendering)

def instantJson (t : Instant) : Json := .str (isoText (r.localTime t))

def moneyJson (m : Money) : Json := .real (r.floatText m)

def nodeJson (n : NodeData) : Fields :=
  [("device_id",.str n.deviceId),
    ("connection_id",orNull Json.str n.connectionId),
    ("nickname",orNull Json.str n.nickname),
    ("region",.str n.region),
    ("gpu_tier",.str n.gpuTier),
    ("status",.str (nodeStatusValue n.status)),
    ("last_seen",instantJson r n.lastSeen),
    ("agent_version",orNull Json.str n.agentVersion),
    ("capabilities",orNull id n.capabilities)]

def leaseJson (l : LeaseData) : Fields :=
  [("lease_id",.str (r.uuidText l.leaseId)),
    ("device_id",.str l.deviceId),
    ("status",.str (leaseStatusValue l.status)),
    ("billing_unit",.str (billingUnitValue l.billingUnit)),
    ("unit_price",orNull (moneyJson r) l.unitPrice),
    ("billed_units",orNull (fun u : ℕ => Json.int u) l.billedUnits),
    ("amount",orNull (moneyJson r) l.amount),
    ("started_at",orNull (instantJson r) l.startedAt),
    ("ended_at",orNull (instantJson r) l.endedAt),
    ("end_reason",orNull Json.str l.endReason),
    ("lease_token",.str l.leaseToken)]

end CloudPlay.ControlPlaneJson
