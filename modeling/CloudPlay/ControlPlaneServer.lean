import CloudPlay.ControlPlaneConsumer
import CloudPlay.TransitionRun

/-!
# The server as a transition system

One event is one request, one socket event or one run of the heartbeat
checker, handled without interruption. The events carry everything the server
does not decide itself: payloads, the clock, connection ids and the random
draws. `check_node_heartbeats` looks up the silent nodes once and then takes
them down one by one; the first exception ends it.
-/

set_option autoImplicit false

namespace CloudPlay.ControlPlaneServer
open KeyedTable ControlPlaneModels ControlPlaneSerializers ControlPlaneDatabase LeaseLifecycle
open ControlPlaneViews ControlPlaneConsumer TransitionRun

inductive Event where
  | rent (user : User) (req : RentRequest) (now : Instant) (draw : ℕ → Uuid × String)
  | release (user : User) (req : ReleaseRequest) (now : Instant)
  | leaseList (user : User)
  | billingInfo (user : User)
  | poolNodes (user : User) (region gpuTier : Option String) (status : Option NodeStatus)
  | deviceToken (deviceId : String) (now : Instant)
  | adminNodes (user : User)
  | adminSetNodeState (user : User) (deviceId : String) (state : Option String)
  | adminForceReleaseLease (user : User) (leaseId : Uuid) (now : Instant)
  | adminForceReleaseNode (user : User) (deviceId : String) (now : Instant)
  | adminRebootNode (user : User) (deviceId : String)
  | adminDeleteNode (user : User) (deviceId : String)
  | adminUpdateNode (user : User) (deviceId : String) (patch : NodePatch)
  | savePricePlan (plan : PricePlan)
  | connect (auth : WsAuth) (connectionId : String) (now : Instant)
  | disconnect (connectionId : String) (now : Instant)
  | receive (connectionId : String) (message : ClientMessage) (now : Instant)
  | checkHeartbeats (timeoutSeconds : ℤ) (now : Instant)

def heartbeatTimeout : String := "heartbeat_timeout"

def staleNodes (db : Database) (timeoutSeconds : ℤ) (now : Instant) : List Node :=
  db.nodes.rows.filter (fun n =>
    n.lastSeen < now-timeoutSeconds*BillingRules.microseconds && n.status ≠ .offline)

def takeDown (now : Instant) : List Node → Database → Database × List Send
  | [], db => (db,[])
  | n::rest, db =>
    match markNodeOfflineAndEndLeases n.deviceId heartbeatTimeout now db with
    | none => (db,[])
    | some (db',sends) => ((takeDown now rest db').1,sends ++ (takeDown now rest db').2)

/-- The price table is edited in the Django admin site. -/
def savePricePlan (plan : PricePlan) (db : Database) : Database :=
  match db.prices.insert? plan with
  | some prices => { db with prices := prices }
  | none =>
    { db with prices := db.prices.modify plan.key (fun p => { p with unitPrice := plan.unitPrice }) }

def ofView (s : Server) (v : ViewResult) : StepResult :=
  { server := { s with db := v.db }, sends := v.sends, response := some v.response }

def handle : Event → Server → StepResult
  | .rent user req now draw, s => ofView s (rentLease user req now draw s.db)
  | .release user req now, s => ofView s (releaseLease user req now s.db)
  | .leaseList user, s => ofView s (leaseList user s.db)
  | .billingInfo user, s => ofView s (billingInfo user s.db)
  | .poolNodes _ region tier status, s => ofView s (poolNodes region tier status s.db)
  | .deviceToken d now, s => ofView s (deviceToken d now s.db)
  | .adminNodes user, s => ofView s (adminOnly user s.db (adminNodes s.db))
  | .adminSetNodeState user d state, s =>
    ofView s (adminOnly user s.db (adminSetNodeState d state s.db))
  | .adminForceReleaseLease user id now, s =>
    ofView s (adminOnly user s.db (adminForceReleaseLease id now s.db))
  | .adminForceReleaseNode user d now, s =>
    ofView s (adminOnly user s.db (adminForceReleaseNode d now s.db))
  | .adminRebootNode user d, s => ofView s (adminOnly user s.db (adminRebootNode d s.db))
  | .adminDeleteNode user d, s => ofView s (adminOnly user s.db (adminDeleteNode d s.db))
  | .adminUpdateNode user d patch, s =>
    ofView s (adminOnly user s.db (adminUpdateNode d patch s.db))
  | .savePricePlan plan, s => { server := { s with db := savePricePlan plan s.db } }
  | .connect auth c now, s => connect auth c now s
  | .disconnect c now, s => disconnect c now s
  | .receive c msg now, s =>
    match s.connections.get? c with
    | none => { server := s }
    | some m => (handleMessage m msg now s).getD { server := s }
  | .checkHeartbeats timeout now, s =>
    { server := { s with db := (takeDown now (staleNodes s.db timeout now) s.db).1 }
      sends := (takeDown now (staleNodes s.db timeout now) s.db).2 }

def step (e : Event) (s : Server) : Server := (handle e s).server

def initial (timeZone : Instant) : Server := ⟨Database.empty timeZone,Table.empty⟩

def ServerReachable (s : Server) : Prop := ∃ timeZone, Reachable step (initial timeZone) s

/-- The connections a message is delivered to. -/
def recipients (s : Server) : Target → List String
  | .channel c => [c]
  | .group .users =>
    (s.connections.rows.filter (fun m => m.role = .user)).map ConnectionMeta.connectionId
  | .group (.user uid) =>
    (s.connections.rows.filter (fun m => m.role = .user && m.userId = some uid)).map
      ConnectionMeta.connectionId
  | .group (.node d) =>
    (s.connections.rows.filter (fun m => m.role = .device && m.deviceId = some d)).map
      ConnectionMeta.connectionId

end CloudPlay.ControlPlaneServer
