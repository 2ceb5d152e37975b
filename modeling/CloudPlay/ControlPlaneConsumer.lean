import CloudPlay.ControlPlaneViews
import CloudPlay.PythonNumbers

/-!
# The WebSocket consumer

`control_plane/consumers.py`. The registry of connections is the process-wide
dictionary `_connections`; a channel and a connection are the same thing here,
and group membership follows from the role of a registered connection. Each
function below is one database access or one message handler. `none` is an
exception in a handler, after which the registry and the tables stand as they
were.
-/

set_option autoImplicit false

namespace CloudPlay.ControlPlaneConsumer
open KeyedTable ControlPlaneModels ControlPlaneSerializers ControlPlaneDatabase LeaseLifecycle
open PythonNumbers (readInt readInt_toString readReal truncate writeReal)

inductive Role where
  | user
  | device
  deriving DecidableEq, Repr

structure ConnectionMeta where
  role : Role
  userId : Option UserId := none
  nickname : String := ""
  deviceId : Option String := none
  connectionId : String
  deviceName : String := ""
  deviceType : String := ""
  connective : Bool := false
  screenCount : ℤ := 1
  deriving DecidableEq, Repr

/-- `WsAuthResult`: what a valid token proves. -/
inductive WsAuth where
  | user (u : User)
  | device (deviceId : String)
  deriving DecidableEq, Repr

structure Server where
  db : Database
  connections : Table ConnectionMeta.connectionId

structure StepResult where
  server : Server
  sends : List Send := []
  response : Option Response := none

/-- A message as the consumer reads it. The target of a relayed message is
what `str` makes of the field, and `none` is a missing or falsy one. -/
inductive ClientMessage where
  | ping
  | updateDeviceInfo (deviceName deviceType : String) (connective : Bool) (screenCount : ℤ)
  | nodeHello (region gpuTier agentVersion : String) (capabilities : Option Json)
  | nodeHeartbeat
  | leaseReady (leaseId : LeaseRef) (deviceId : Option String)
  | requestRemoteControlLease (leaseId : LeaseRef) (settings : Fields)
  | requestRemoteControl (target : Option String) (settings : Fields)
  | signal (kind : SignalKind) (target : Option String) (data : Fields)
  | clientLog

def orUnknown (s : String) : String := if s = "" then "Unknown" else s

def screens (n : ℤ) : ℤ := if n = 0 then 1 else n

def deviceEntry (m : ConnectionMeta) : DeviceEntry :=
  ⟨m.userId,m.nickname,m.connectionId,orUnknown m.deviceType,orUnknown m.deviceName,
    m.connective,screens m.screenCount⟩

def buildDeviceListForUser (connections : Table ConnectionMeta.connectionId) (user : UserId) :
    List DeviceEntry :=
  (connections.rows.filter (fun m =>
    m.role = .user && (m.userId = some user || m.connective))).map deviceEntry

/-- The truthy user ids of the registered user connections. -/
def connectedUsers (connections : Table ConnectionMeta.connectionId) : List UserId :=
  ((connections.rows.filter (fun m => m.role = .user)).filterMap ConnectionMeta.userId).filter
    (· ≠ 0) |>.dedup

def broadcastConnectedDevices (connections : Table ConnectionMeta.connectionId) : List Send :=
  (connectedUsers connections).map (fun uid =>
    ⟨.group (.user uid),.connectedDevices (buildDeviceListForUser connections uid)⟩)

/-- `.exists()` on the leases of a device in an engaged status. -/
def hasEngagedLease (db : Database) (deviceId : String) : Bool :=
  db.leases.rows.any (fun l => l.deviceId = deviceId && l.engaged)

def connectedNode (connectionId : String) (now : Instant) (active : Bool) (n : Node) : Node :=
  { n with
    connectionId := some connectionId
    lastSeen := now
    status := if n.blocked || active then n.status else .free }

@[simp] theorem connectedNode_deviceId (c : String) (now : Instant) (active : Bool) (n : Node) :
    (connectedNode c now active n).deviceId = n.deviceId := rfl

def nodeConnected (deviceId connectionId : String) (now : Instant) (db : Database) : Database :=
  (db.getOrCreateNode deviceId now).updateNode deviceId
    (connectedNode connectionId now (hasEngagedLease db deviceId))
    (connectedNode_deviceId connectionId now _)

def nodeTouchLastSeen (deviceId : String) (now : Instant) (db : Database) : Database :=
  db.updateNode deviceId (fun n => { n with lastSeen := now })

structure NodeHello where
  region : String
  gpuTier : String
  agentVersion : String
  capabilities : Option Json

def helloNode (hello : NodeHello) (now : Instant) (active : Bool) (n : Node) : Node :=
  { n with
    region := if hello.region = "" then n.region else hello.region
    gpuTier := if hello.gpuTier = "" then n.gpuTier else hello.gpuTier
    agentVersion := if hello.agentVersion = "" then n.agentVersion else some hello.agentVersion
    capabilities := hello.capabilities.orElse (fun _ => n.capabilities)
    lastSeen := now
    status := if (n.status = .offline ∨ n.status = .releasing) ∧ active = false then .free
      else n.status }

@[simp] theorem helloNode_deviceId (hello : NodeHello) (now : Instant) (active : Bool) (n : Node) :
    (helloNode hello now active n).deviceId = n.deviceId := rfl

def updateNodeHello (deviceId : String) (hello : NodeHello) (now : Instant) (db : Database) :
    Database :=
  (db.getOrCreateNode deviceId now).updateNode deviceId
    (helloNode hello now (hasEngagedLease db deviceId)) (helloNode_deviceId hello now _)

/-- The statuses in which `lease_ready` still writes. -/
def Startable (l : Lease) : Prop :=
  l.status = .assigned ∨ l.status = .ready ∨ l.status = .active

instance (l : Lease) : Decidable (Startable l) := inferInstanceAs (Decidable (_ ∨ _ ∨ _))

def readyLease (now : Instant) (l : Lease) : Lease :=
  { l with startedAt := some (l.startedAt.getD now), status := .ready }

@[simp] theorem readyLease_leaseId (now : Instant) (l : Lease) :
    (readyLease now l).leaseId = l.leaseId := rfl

def inUseNode (now : Instant) (n : Node) : Node :=
  if n.blocked then n else { n with status := .inUse, lastSeen := now }

@[simp] theorem inUseNode_deviceId (now : Instant) (n : Node) :
    (inUseNode now n).deviceId = n.deviceId := by
  unfold inUseNode
  split <;> rfl

/-- The lease is returned whenever it belongs to the named device, also when
nothing was written. -/
def markLeaseReady (leaseId : Uuid) (deviceId : String) (now : Instant) (db : Database) :
    Database × Option Lease :=
  match db.leases.get? leaseId with
  | none => (db,none)
  | some l =>
    if l.deviceId ≠ deviceId then (db,none)
    else if ¬Startable l then (db,some l)
    else
      ((db.updateLease leaseId (readyLease now) (readyLease_leaseId now)).updateNode deviceId
        (inUseNode now) (inUseNode_deviceId now),some (readyLease now l))

/-- `data.get("device_id") or self.meta.device_id`. -/
def claimedDevice (m : ConnectionMeta) : Option String → Option String
  | none => m.deviceId
  | some d => if d = "" then m.deviceId else some d

def handleLeaseReady (m : ConnectionMeta) (leaseId : LeaseRef) (deviceId : Option String)
    (now : Instant) (s : Server) : Option StepResult :=
  match leaseId, claimedDevice m deviceId with
  | .absent, _ => some { server := s }
  | _, none => some { server := s }
  | .malformed, some _ => none
  | .uuid id, some d =>
    let (db,lease) := markLeaseReady id d now s.db
    let s' := { s with db := db }
    match lease with
    | none => some { server := s' }
    | some l => some { server := s', sends := [pushLeaseUpdate l,pushPoolUpdate db] }

/-- `str` of a JSON value; of a list or an object only that it is a string. -/
def pyStr : Json → String
  | .null => "None"
  | .bool true => "True"
  | .bool false => "False"
  | .int n => toString n
  | .real text => writeReal (readReal text)
  | .str s => s
  | .arr _ => "list"
  | .obj _ => "dict"

/-- `int` of a JSON value, `none` where it raises. -/
def pyInt : Json → Option ℤ
  | .bool b => some (if b then 1 else 0)
  | .int n => some n
  | .real text => truncate (readReal text)
  | .str s => readInt s
  | _ => none

example : pyInt (.real "1.5e3") = some 1500 ∧ pyInt (.str " +30 ") = some 30 ∧
    pyStr (.real "1.50") = "1.5" := by decide +kernel

/-- A field converted to an integer, or dropped when it is none; null stays. -/
def intField (fields : Fields) (name : String) : Fields :=
  match getField fields name with
  | none => fields
  | some .null => fields
  | some v =>
    match pyInt v with
    | none => popField fields name
    | some n => setField fields name (.int n)

/-- An integer that comes as text is the integer from then on. -/
theorem intField_text {fields : Fields} {name : String} {n : ℤ}
    (h : getField fields name = some (.str (toString n))) :
    intField fields name = setField fields name (.int n) := by
  simp only [intField, h, pyInt, readInt_toString]

def intFields : List String :=
  ["streamMode","framerate","bitrate","audioBitrate","targetScreenId","customScreenWidth",
    "customScreenHeight"]

def sanitizeSettings (settings : Fields) : Fields :=
  let settings := match getField settings "connectPassword" with
    | none => settings
    | some v => setField settings "connectPassword" (.str (pyStr v))
  intFields.foldl intField settings

def requesterInfo (m : ConnectionMeta) : RequesterInfo :=
  ⟨m.userId.getD 0,m.nickname,m.connectionId,orUnknown m.deviceType,orUnknown m.deviceName,true,
    screens m.screenCount⟩

/-- The leases `_authorize_lease_stream` accepts. -/
def Streamable (l : Lease) : Prop := l.status = .ready ∨ l.status = .active

instance (l : Lease) : Decidable (Streamable l) := inferInstanceAs (Decidable (_ ∨ _))

def authorizeLeaseStream (leaseId : Uuid) (user : Option UserId) (db : Database) : Option Lease :=
  (db.leases.get? leaseId).filter (fun l => some l.user = user && decide (Streamable l))

def activeLease (l : Lease) : Lease := { l with status := .active }

@[simp] theorem activeLease_leaseId (l : Lease) : (activeLease l).leaseId = l.leaseId := rfl

/-- The second database access of the handler. It does not look at the status. -/
def setLeaseActive (leaseId : Uuid) (db : Database) : Database :=
  db.updateLease leaseId activeLease activeLease_leaseId

def errorMessage (m : ConnectionMeta) (code text : String) (context : ErrorContext) : Send :=
  ⟨.channel m.connectionId,.error code text context⟩

def forwardRequest (m : ConnectionMeta) (deviceId : String) (settings : Fields) : Send :=
  ⟨.group (.node deviceId),.remoteSessionRequested (requesterInfo m) (sanitizeSettings settings)⟩

def handleRequestRemoteControlLease (m : ConnectionMeta) (leaseId : LeaseRef)
    (settings : Fields) (s : Server) : Option StepResult :=
  match leaseId with
  | .absent =>
    some { server := s, sends := [errorMessage m "BAD_REQUEST" "missing lease_id" .none] }
  | .malformed => none
  | .uuid id =>
    match authorizeLeaseStream id m.userId s.db with
    | none => some { server := s, sends :=
        [errorMessage m "LEASE_NOT_FOUND" "lease not found" (.lease leaseId)] }
    | some l =>
      if ((s.db.nodes.get? l.deviceId).all (fun n => !n.hasConnection)) then
        some { server := s, sends :=
          [errorMessage m "NODE_OFFLINE" "node offline" (.device l.deviceId)] }
      else if l.status = .ready then
        some
          { server := { s with db := setLeaseActive id s.db }
            sends := [pushLeaseUpdate (activeLease l),forwardRequest m l.deviceId settings] }
      else some { server := s, sends := [forwardRequest m l.deviceId settings] }

/-- The identifier of a connection, or a device id looked up in the tables. -/
def resolveTarget (s : Server) (identifier : String) : Option String :=
  match s.connections.get? identifier with
  | some _ => some identifier
  | none => ((s.db.nodes.get? identifier).filter Node.hasConnection).bind Node.connectionId

def sendToConnection (s : Server) (connectionId : String) (msg : Message) : List Send :=
  match s.connections.get? connectionId with
  | none => []
  | some _ => [⟨.channel connectionId,msg⟩]

/-- Delivery to the target of a relayed message, if it resolves. -/
def relay (s : Server) (target : Option String) (msg : Message) : List Send :=
  match target.bind (resolveTarget s) with
  | none => []
  | some c => sendToConnection s c msg

/-- A device signs its offers and candidates with its stable id. -/
def outgoing (m : ConnectionMeta) (kind : SignalKind) (data : Fields) : Fields :=
  match m.role, kind, m.deviceId with
  | .device, .offer, some d => setField data "source_connectionid" (.str d)
  | .device, .candidate, some d => setField data "source_connectionid" (.str d)
  | _, _, _ => data

def handleUpdateDeviceInfo (m : ConnectionMeta) (deviceName deviceType : String)
    (connective : Bool) (screenCount : ℤ) (now : Instant) (s : Server) : StepResult :=
  let connections := s.connections.modify m.connectionId (fun m =>
    { m with
      deviceName := deviceName
      deviceType := deviceType
      connective := connective
      screenCount := screens screenCount })
  match m.role, m.deviceId with
  | .device, some d =>
    { server := { db := nodeTouchLastSeen d now s.db, connections := connections } }
  | _, _ =>
    { server := { s with connections := connections }
      sends := broadcastConnectedDevices connections }

/-- The dispatch of `receive`. Messages of the wrong role are ignored. -/
def handleMessage (m : ConnectionMeta) (msg : ClientMessage) (now : Instant) (s : Server) :
    Option StepResult :=
  match msg, m.role, m.deviceId with
  | .ping, _, _ => some { server := s, sends := [⟨.channel m.connectionId,.pong⟩] }
  | .updateDeviceInfo name type connective count, _, _ =>
    some (handleUpdateDeviceInfo m name type connective count now s)
  | .nodeHello region tier version capabilities, .device, some d =>
    let db := updateNodeHello d ⟨region,tier,version,capabilities⟩ now s.db
    some { server := { s with db := db }, sends := [pushPoolUpdate db] }
  | .nodeHeartbeat, .device, some d =>
    some { server := { s with db := nodeTouchLastSeen d now s.db } }
  | .leaseReady lease device, .device, _ => handleLeaseReady m lease device now s
  | .requestRemoteControlLease lease settings, .user, _ =>
    handleRequestRemoteControlLease m lease settings s
  | .requestRemoteControl target settings, _, _ =>
    some { server := s, sends :=
      relay s target (.remoteSessionRequested (requesterInfo m) settings) }
  | .signal kind target data, _, _ =>
    some { server := s, sends := relay s target (.signal kind (outgoing m kind data)) }
  | _, _, _ => some { server := s }

def userMeta (u : User) (connectionId : String) : ConnectionMeta :=
  { role := .user, userId := some u.id, nickname := u.nickname, connectionId := connectionId }

def deviceMeta (deviceId connectionId : String) : ConnectionMeta :=
  { role := .device, nickname := "node", deviceId := some deviceId, connectionId := connectionId }

/-- `connect` of an authenticated socket. An id already registered is no id
`uuid4` draws, and an empty device id is no valid token. -/
def connect (auth : WsAuth) (connectionId : String) (now : Instant) (s : Server) : StepResult :=
  match auth with
  | .user u =>
    match s.connections.insert? (userMeta u connectionId) with
    | none => { server := s }
    | some connections =>
      { server := { s with connections := connections }
        sends := [⟨.channel connectionId,.connectionInfo connectionId u.id u.nickname⟩] }
  | .device d =>
    match s.connections.insert? (deviceMeta d connectionId) with
    | none => { server := s }
    | some connections =>
      if d = "" ∨ connectionId = "" then { server := s }
      else
        { server := { db := nodeConnected d connectionId now s.db, connections := connections }
          sends := [⟨.channel connectionId,.connectionInfo connectionId 0 "node"⟩] }

/-- `disconnect`. A device's disconnect takes its node offline whichever of
the device's connections it was. -/
def disconnect (connectionId : String) (now : Instant) (s : Server) : StepResult :=
  match s.connections.get? connectionId with
  | none => { server := s }
  | some m =>
    let connections := s.connections.filter (fun c => c.connectionId ≠ connectionId)
    match m.role, m.deviceId with
    | .device, some d =>
      match markNodeOfflineAndEndLeases d EndReason.nodeOffline.value now s.db with
      | none => { server := { s with connections := connections } }
      | some (db,sends) => { server := ⟨db,connections⟩, sends := sends }
    | _, _ =>
      { server := { s with connections := connections }
        sends := broadcastConnectedDevices connections }

end CloudPlay.ControlPlaneConsumer
