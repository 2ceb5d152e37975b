import CloudPlay.LeaseAnnouncements
import CloudPlay.SnapshotReplica

/-!
# The lease table of a client

`ControlPlaneController` of one user beside the server. Pushes and the answers
to rentals, releases and lists are four streams that each keep their order.
Every message carries the number of the server step that produced it, which
the controller does not know. The client starts with an empty table at any
time.
-/

set_option autoImplicit false

namespace CloudPlay.ControlPlaneController
open ControlPlaneModels ControlPlaneSerializers ControlPlaneConsumer ControlPlaneServer
open LeaseAnnouncements

structure LeaseMessage where
  time : ℕ
  full : Bool
  leases : List LeaseData

inductive Channel where
  | pushes
  | rents
  | releases
  | lists
  deriving DecidableEq, Repr

abbrev LeaseTable := Uuid → Option LeaseData

def put (table : LeaseTable) (l : LeaseData) : LeaseTable :=
  Function.update table l.leaseId (some l)

/-- The loops of `rent` and `release`; a push is a list of one. -/
def putAll (table : LeaseTable) (leases : List LeaseData) : LeaseTable := leases.foldl put table

/-- `refreshLeases` clears the table first. -/
def LeaseMessage.apply (m : LeaseMessage) (table : LeaseTable) : LeaseTable :=
  if m.full then putAll (fun _ => none) m.leases else putAll table m.leases

def LeaseMessage.about (m : LeaseMessage) (id : Uuid) : Prop :=
  m.full = true ∨ id ∈ m.leases.map LeaseData.leaseId

instance (m : LeaseMessage) (id : Uuid) : Decidable (m.about id) :=
  inferInstanceAs (Decidable (_ ∨ _))

/-- What a message says of a lease. -/
def LeaseMessage.value (m : LeaseMessage) : LeaseTable := putAll (fun _ => none) m.leases

/-- `changed` and `heard` number the last step that changed a lease and the
newest message about it that has arrived; `newest` is what this message says. -/
structure Client where
  server : Server
  clock : ℕ := 1
  changed : Uuid → ℕ
  inbox : Channel → List LeaseMessage := fun _ => []
  leasesById : LeaseTable := fun _ => none
  heard : Uuid → ℕ := fun _ => 0
  newest : LeaseTable := fun _ => none
  listed : Bool := false

inductive Action where
  | serve (e : Event)
  | deliver (c : Channel)

/-- The body of a successful answer; any other answer throws. -/
def body (r : StepResult) : Option Body :=
  (r.response.filter (fun r => r.status = 200)).map Response.body

section User
variable (u : UserId)

/-- What an event gives each stream of the user. -/
def produced (e : Event) (r : StepResult) (time : ℕ) :
    Channel → List LeaseMessage
  | .pushes => (pushes u r.sends).map (fun l => ⟨time,false,[l]⟩)
  | .rents =>
    match e, body r with
    | .rent user _ _ _, some (.rented leases _) => if user.id = u then [⟨time,false,leases⟩] else []
    | _, _ => []
  | .releases =>
    match e, body r with
    | .release user _ _, some (.leases leases) => if user.id = u then [⟨time,false,leases⟩] else []
    | _, _ => []
  | .lists =>
    match e, body r with
    | .leaseList user, some (.leases leases) => if user.id = u then [⟨time,true,leases⟩] else []
    | _, _ => []

def Client.serve (w : Client) (e : Event) : Client :=
  { w with
    server := step e w.server
    clock := w.clock+1
    changed := fun id =>
      if seen u (step e w.server).db id = seen u w.server.db id then w.changed id else w.clock+1
    inbox := fun c => w.inbox c ++ produced u e (handle e w.server) (w.clock+1) c }

def Client.receive (w : Client) (c : Channel) (m : LeaseMessage) (rest : List LeaseMessage) :
    Client :=
  { w with
    inbox := Function.update w.inbox c rest
    leasesById := m.apply w.leasesById
    heard := fun id => if m.about id then max (w.heard id) m.time else w.heard id
    newest := fun id =>
      if m.about id ∧ w.heard id ≤ m.time then m.value id else w.newest id
    listed := w.listed || m.full }

def clientStep : Action → Client → Client
  | .serve e, w => w.serve u e
  | .deliver c, w =>
    match w.inbox c with
    | [] => w
    | m::rest => w.receive c m rest

def isOpen (l : LeaseData) : Bool := l.status ≠ .ended

/-- The client starts. What the user has by then is told by a list only. -/
def start (s : Server) : Client where
  server := s
  changed := fun id => if (seen u s.db id).any isOpen then 1 else 0

end User

end CloudPlay.ControlPlaneController
