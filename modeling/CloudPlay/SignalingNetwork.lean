import CloudPlay.SignalRouting

/-!
# Controllers, nodes and the server between them

The sessions of `StreamingManager` on controllers and of `StreamedManager` on
nodes, and the messages that set them up. A message once sent can arrive at
any later time and more than once, so what holds here holds for sockets that
keep order. Packets carry the number of the controller session they belong
to, which no program reads.
-/

set_option autoImplicit false

namespace CloudPlay.SignalingNetwork
open KeyedTable ControlPlaneModels ControlPlaneSerializers ControlPlaneConsumer ControlPlaneServer

structure Packet (α : Type) where
  connectionId : String
  message : α
  session : Option ℕ := none

/-- A `StreamingSession` of a controller: the session ids its two devices had
when it was made. -/
structure ControllerSession where
  number : ℕ
  controller : String
  controlled : String
  leaseId : Uuid
  deriving DecidableEq, Repr

/-- `WebSocketService` and `StreamingManager`. The session id of `thisDevice`
is that of the last `connection_info`. -/
structure ControllerApp where
  socket : Option String := none
  websocketSessionid : String := ""
  sessions : List ControllerSession := []
  deriving DecidableEq, Repr

/-- A `StreamingSession` of a node, made for a request. -/
structure HostSession where
  controller : String
  controlled : String
  number : Option ℕ
  deriving DecidableEq, Repr

/-- `NodeAgentService` and `StreamedManager`. The lock admits one session
that is starting; it enters the table when `startStreaming` ends. -/
structure HostApp where
  deviceId : String
  socket : Option String := none
  websocketSessionid : String := ""
  starting : Option HostSession := none
  sessions : List HostSession := []
  deriving DecidableEq, Repr

def HostApp.alive (h : HostApp) : List HostSession := h.starting.toList ++ h.sessions

/-- `issued` are the connection ids ever drawn and what their tokens proved,
`started` the session objects of all controllers. -/
structure Network where
  server : Server
  issued : List (String × WsAuth) := []
  sent : List (Packet ClientMessage) := []
  delivered : List (Packet Message) := []
  controllers : ℕ → ControllerApp := fun _ => {}
  hosts : ℕ → HostApp
  started : List (ℕ × ControllerSession) := []

inductive Action where
  | serve (e : Event)
  | receive (i : ℕ) (now : Instant)
  | openController (a : ℕ) (u : User) (c : String) (now : Instant)
  | openHost (h : ℕ) (c : String) (now : Instant)
  | closeController (a : ℕ)
  | closeHost (h : ℕ)
  | controllerMessage (a i : ℕ)
  | startRemoteControl (a : ℕ) (leaseId : Uuid) (leaseToken : String)
  | sendRequest (j : ℕ) (settings : Fields)
  | sendReply (j : ℕ) (kind : SignalKind) (body : Fields)
  | stopStreaming (a : ℕ) (controlled : String)
  | hostMessage (h i : ℕ)
  | hostStarted (h : ℕ)
  | hostFailed (h : ℕ)
  | sendSignal (h : ℕ) (o : HostSession) (kind : SignalKind) (body : Fields)
  | stopHosted (h : ℕ) (controller : String)

def deliveries (r : StepResult) (session : Option ℕ) : List (Packet Message) :=
  r.sends.flatMap (fun send =>
    (recipients r.server send.target).map (fun c => ⟨c,send.message,session⟩))

def opened : Event → List (String × WsAuth)
  | .connect auth c _ => [(c,auth)]
  | _ => []

/-- The server handles an event on behalf of a session. -/
def Network.serve (w : Network) (e : Event) (session : Option ℕ) : Network :=
  { w with
    server := (handle e w.server).server
    issued := w.issued ++ opened e
    delivered := w.delivered ++ deliveries (handle e w.server) session }

def Network.setController (w : Network) (a : ℕ) (app : ControllerApp) : Network :=
  { w with controllers := Function.update w.controllers a app }

def Network.setHost (w : Network) (h : ℕ) (app : HostApp) : Network :=
  { w with hosts := Function.update w.hosts h app }

/-- A message written to a socket, or lost when there is none. -/
def Network.send (w : Network) (socket : Option String) (message : ClientMessage)
    (session : Option ℕ) : Network :=
  match socket with
  | none => w
  | some c => { w with sent := w.sent ++ [⟨c,message,session⟩] }

def sourceConnectionid (data : Fields) : Option Json := getField data "source_connectionid"

/-- The addresses of a signaling message, with the rest of its fields. -/
def signalData (source target : String) (body : Fields) : Fields :=
  ("source_connectionid",.str source)::("target_connectionid",.str target)::body

/-- The session under a key of the table. -/
def ControllerApp.find (app : ControllerApp) : Option Json → Option ControllerSession
  | some (.str key) => app.sessions.find? (fun s => s.controlled = key)
  | _ => none

def HostApp.find (app : HostApp) : Option Json → Option HostSession
  | some (.str key) => app.sessions.find? (fun o => o.controller = key)
  | _ => none

/-- A message that arrives at a controller. Offers and candidates go to the
session found under their source and leave the table as it is. -/
def ControllerApp.onMessage (app : ControllerApp) (p : Packet Message) : ControllerApp :=
  if app.socket = some p.connectionId then
    match p.message with
    | .connectionInfo c _ _ => { app with websocketSessionid := c }
    | _ => app
  else app

/-- A message that arrives at a node. A request that the checks of
`startStreaming` turn down changes nothing, as one whose key is taken. -/
def HostApp.onMessage (app : HostApp) (p : Packet Message) : HostApp :=
  if app.socket = some p.connectionId then
    match p.message with
    | .connectionInfo c _ _ => { app with websocketSessionid := c }
    | .remoteSessionRequested requester _ =>
      if app.starting.isNone ∧ requester.connectionId ∉ app.sessions.map HostSession.controller then
        { app with starting := some ⟨requester.connectionId,app.websocketSessionid,p.session⟩ }
      else app
    | _ => app
  else app

/-- The token the caller passes, or the lease's own. -/
def streamToken (leaseToken : String) (lease : Lease) : String :=
  if leaseToken = "" then lease.leaseToken else leaseToken

/-- `LeaseStreamingService.startRemoteControl` on a lease the server has
listed. A session that exists for the device is kept. -/
def Network.startRemoteControl (w : Network) (a : ℕ) (leaseId : Uuid) (leaseToken : String) :
    Network :=
  match w.server.db.leases.get? leaseId with
  | none => w
  | some lease =>
    if streamToken leaseToken lease = "" ∨
        lease.deviceId ∈ (w.controllers a).sessions.map ControllerSession.controlled then w
    else
      let session : ControllerSession :=
        ⟨w.started.length,(w.controllers a).websocketSessionid,lease.deviceId,leaseId⟩
      { w.setController a
          { w.controllers a with sessions := session::(w.controllers a).sessions } with
        started := w.started ++ [(a,session)] }

/-- The kinds that travel from the node to the controller. -/
def fromHost : SignalKind → Bool
  | .offer => true
  | .candidate => true
  | _ => false

def step : Action → Network → Network
  | .serve e, w => w.serve e none
  | .receive i now, w =>
    match w.sent[i]? with
    | none => w
    | some p => w.serve (.receive p.connectionId p.message now) p.session
  | .openController a u c now, w => (w.serve (.connect (.user u) c now) none).setController a
      { w.controllers a with socket := some c }
  | .openHost h c now, w => (w.serve (.connect (.device (w.hosts h).deviceId) c now) none).setHost h
      { w.hosts h with socket := some c }
  | .closeController a, w => w.setController a { w.controllers a with socket := none }
  | .closeHost h, w => w.setHost h { w.hosts h with socket := none }
  | .controllerMessage a i, w =>
    match w.delivered[i]? with
    | none => w
    | some p => w.setController a ((w.controllers a).onMessage p)
  | .startRemoteControl a leaseId leaseToken, w => w.startRemoteControl a leaseId leaseToken
  | .sendRequest j settings, w =>
    match w.started[j]? with
    | none => w
    | some (a,s) => w.send (w.controllers a).socket
        (.requestRemoteControlLease (.uuid s.leaseId) settings) (some s.number)
  | .sendReply j kind body, w =>
    match w.started[j]? with
    | none => w
    | some (a,s) =>
      if fromHost kind then w
      else w.send (w.controllers a).socket
        (.signal kind (some s.controlled) (signalData s.controller s.controlled body))
        (some s.number)
  | .stopStreaming a controlled, w => w.setController a
      { w.controllers a with
        sessions := (w.controllers a).sessions.filter (fun s => s.controlled ≠ controlled) }
  | .hostMessage h i, w =>
    match w.delivered[i]? with
    | none => w
    | some p => w.setHost h ((w.hosts h).onMessage p)
  | .hostStarted h, w => w.setHost h
      { w.hosts h with starting := none, sessions := (w.hosts h).alive }
  | .hostFailed h, w => w.setHost h { w.hosts h with starting := none }
  | .sendSignal h o kind body, w =>
    if fromHost kind ∧ o ∈ (w.hosts h).alive then
      w.send (w.hosts h).socket
        (.signal kind (some o.controller) (signalData o.controlled o.controller body)) o.number
    else w
  | .stopHosted h controller, w => w.setHost h
      { w.hosts h with
        sessions := (w.hosts h).sessions.filter (fun o => o.controller ≠ controller) }

def initial (timeZone : Instant) (deviceIds : ℕ → String) : Network :=
  { server := ControlPlaneServer.initial timeZone, hosts := fun h => { deviceId := deviceIds h } }

end CloudPlay.SignalingNetwork
