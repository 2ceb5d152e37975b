import CloudPlay.LeaseLifecycle

/-!
# HTTP views as single steps

The handlers of `control_plane/views.py` that touch the tables, each run to
its end without interruption. An exception undoes the open transaction and is
answered by the framework. A `return` inside `transaction.atomic()` leaves
the block normally and therefore commits what was written before it.
-/

set_option autoImplicit false

namespace CloudPlay.ControlPlaneViews
open KeyedTable ControlPlaneModels ControlPlaneSerializers ControlPlaneDatabase LeaseLifecycle

structure ViewResult where
  db : Database
  sends : List Send := []
  response : Response

/-- A response that leaves the tables as they are. -/
def answer (db : Database) (r : Response) : ViewResult := { db := db, response := r }

def ok (body : Body) : Response := ⟨200,body⟩

def notFound (message : String) : Response := errorResponse "NOT_FOUND" message .none 404

/-- `IsAdminUser`. -/
def adminOnly (user : User) (db : Database) (view : ViewResult) : ViewResult :=
  if user.isStaff then view
  else answer db (errorResponse "FORBIDDEN" "permission denied" .none 403)

/-- `_get_price`; a missing plan costs nothing. -/
def getPrice (db : Database) (region gpuTier : String) (unit : BillingUnit) : Money :=
  match db.prices.get? (region,gpuTier,unit) with
  | none => 0
  | some plan => plan.unitPrice

/-- The key is already stripped; `none` is an absent or blank one. -/
structure RentRequest where
  region : String
  gpuTier : String
  billingUnit : BillingUnit
  count : ℕ
  clientRequestId : Option String := none

structure ReleaseRequest where
  leaseIds : List LeaseRef
  clientRequestId : Option String := none

/-- The stored answer to an idempotency key. -/
def existing (db : Database) (user : User) (scope : Scope) (key : Option String) : Option Body :=
  key.bind (fun k => (db.idempotencyKeys.get? (user.id,scope,k)).map IdempotencyKey.responseJson)

/-- The last transaction of a view with an idempotency key. The insertion
raises when the key exists by now. -/
def remember (db : Database) (sends : List Send) (user : User) (scope : Scope)
    (key : Option String) (body : Body) : ViewResult :=
  match key with
  | none => ⟨db,sends,ok body⟩
  | some k =>
    match db.createIdempotencyKey ⟨user.id,scope,k,body⟩ with
    | none => ⟨db,sends,serverError⟩
    | some db' => ⟨db',sends,ok body⟩

/-- The filter of the rent query; the region named `default` matches all. -/
def rentable (region gpuTier : String) (n : Node) : Bool :=
  n.status = .free && n.gpuTier = gpuTier && (region = "default" || n.region = region)

/-- `order_by("last_seen")[:count]`; ties keep the table's order. -/
def freeNodes (db : Database) (region gpuTier : String) (count : ℕ) : List Node :=
  ((db.nodes.rows.filter (rentable region gpuTier)).insertionSort
    (fun a b => a.lastSeen ≤ b.lastSeen)).take count

def newLease (user : UserId) (unit : BillingUnit) (price : Money) (now : Instant)
    (draw : Uuid × String) (n : Node) : Lease :=
  { leaseId := draw.1
    user := user
    deviceId := n.deviceId
    status := .assigned
    billingUnit := unit
    unitPrice := some price
    assignedAt := some now
    leaseToken := draw.2
    createdAt := now }

/-- The loop over the picked nodes. The first argument numbers the draws of
lease id and token. -/
def rentNodes (user : UserId) (unit : BillingUnit) (price : Money) (now : Instant)
    (draw : ℕ → Uuid × String) : ℕ → List Node → Database → Option (Database × List Lease)
  | _, [], db => some (db,[])
  | i, n::rest, db => do
    let l := newLease user unit price now (draw i) n
    let db' ← db.createLease l
    let (db'',ls) ← rentNodes user unit price now draw (i+1) rest
      (db'.setNodeStatus n.deviceId .assigned)
    return (db'',l::ls)

def leaseAssigned (l : Lease) : Send :=
  ⟨.group (.node l.deviceId),.leaseAssigned l.leaseId l.deviceId l.leaseToken l.billingUnit⟩

def leaseRelease (l : Lease) (reason : EndReason) : Send :=
  ⟨.group (.node l.deviceId),.leaseRelease l.leaseId l.deviceId reason.value⟩

def rentLease (user : User) (req : RentRequest) (now : Instant) (draw : ℕ → Uuid × String)
    (db : Database) : ViewResult :=
  if req.region = "" ∨ req.gpuTier = "" ∨ req.count < 1 ∨ 100 < req.count then
    answer db (errorResponse "BAD_REQUEST" "invalid payload" .none 400)
  else
    match existing db user .rent req.clientRequestId with
    | some body => answer db (ok body)
    | none =>
      let nodes := freeNodes db req.region req.gpuTier req.count
      if nodes.length < req.count then
        answer db (errorResponse "NO_CAPACITY" "no capacity"
          (.capacity req.count nodes.length) 409)
      else
        let price := getPrice db req.region req.gpuTier req.billingUnit
        match rentNodes user.id req.billingUnit price now draw 0 nodes db with
        | none => answer db serverError
        | some (db',leases) =>
          let sends := leases.flatMap (fun l => [leaseAssigned l,pushLeaseUpdate l]) ++
            [pushPoolUpdate db']
          remember db' sends user .rent req.clientRequestId
            (.rented (leases.map serializeLease) (leases.map (fun l => (l.leaseId,l.leaseToken))))

/-- `Lease.objects.select_for_update().get(lease_id=..., user=user)`. -/
def leaseOfUser (db : Database) (user : UserId) (id : Uuid) : Option Lease :=
  (db.leases.get? id).filter (fun l => l.user = user)

/-- The node update of the release views. It reads the node again, so it sees
a status written earlier in the same request. -/
def setReleasing (db : Database) (deviceId : String) : Database :=
  match db.nodes.get? deviceId with
  | none => db
  | some n => if n.blocked then db else db.setNodeStatus deviceId .releasing

/-- How the loop of `ReleaseLeaseView` ends: with every id released, or at an
id the user has no lease for. In both cases the database is committed. -/
structure ReleaseOutcome where
  db : Database
  leases : List Lease
  missing : Option LeaseRef

/-- `none` is an exception: a string that is no UUID, or a failing save. -/
def releaseLeases (user : UserId) (endedAt : Instant) : List LeaseRef → Database →
    Option ReleaseOutcome
  | [], db => some ⟨db,[],none⟩
  | .uuid id::rest, db =>
    match leaseOfUser db user id with
    | none => some ⟨db,[],some (.uuid id)⟩
    | some l => do
      let (l',db') ← endLease EndReason.userRelease.value endedAt l db
      let out ← releaseLeases user endedAt rest (setReleasing db' l.deviceId)
      return { out with leases := l'::out.leases }
  | _::_, _ => none

def releaseLease (user : User) (req : ReleaseRequest) (now : Instant) (db : Database) :
    ViewResult :=
  if req.leaseIds = [] ∨ .absent ∈ req.leaseIds then
    answer db (errorResponse "BAD_REQUEST" "invalid payload" .none 400)
  else
    match existing db user .release req.clientRequestId with
    | some body => answer db (ok body)
    | none =>
      match releaseLeases user.id now req.leaseIds db with
      | none => answer db serverError
      | some out =>
        match out.missing with
        | some ref => answer out.db (errorResponse "NOT_FOUND" "lease not found" (.lease ref) 404)
        | none =>
          let sends := out.leases.flatMap (fun l =>
            [leaseRelease l .userRelease,pushLeaseUpdate l]) ++ [pushPoolUpdate out.db]
          remember out.db sends user .release req.clientRequestId
            (.leases (out.leases.map serializeLease))

/-- Rows of one user, newest first. -/
def leasesOfUser (db : Database) (user : UserId) : List Lease :=
  (db.leases.rows.filter (fun l => l.user = user && l.unfinished)).insertionSort
    (fun a b => b.createdAt ≤ a.createdAt)

def leaseList (user : User) (db : Database) : ViewResult :=
  answer db (ok (.leases ((leasesOfUser db user.id).map serializeLease)))

def billingInfo (user : User) (db : Database) : ViewResult :=
  let db := db.ensureAccount user.id
  let account := (db.accounts.get? user.id).getD { user := user.id }
  let history := ((db.billingRecords.filter (fun b => b.user = user.id)).insertionSort
    (fun a b => b.createdAt ≤ a.createdAt)).take 50
  answer db (ok (.billing account.currency account.balance
    ((leasesOfUser db user.id).map serializeLease) (history.map serializeBillingRecord)))

def poolNodes (region gpuTier : Option String) (status : Option NodeStatus) (db : Database) :
    ViewResult :=
  let admits := fun (wanted : Option String) (value : String) => wanted.all (· = value)
  let nodes := db.nodes.rows.filter (fun n =>
    admits region n.region && admits gpuTier n.gpuTier && status.all (· = n.status))
  let prices := db.prices.rows.filter (fun p => admits region p.region && admits gpuTier p.gpuTier)
  answer db (ok (.pool ((orderByDeviceId nodes).map serializeNode) prices))

/-- The row of a device that registers itself by asking for a token. -/
def registeredNode (deviceId : String) (now : Instant) : Node :=
  { deviceId := deviceId
    region := "unknown"
    gpuTier := "unknown"
    lastSeen := now }

/-- `DeviceTokenView`, open to everyone. A known device keeps its row. -/
def deviceToken (deviceId : String) (now : Instant) (db : Database) : ViewResult :=
  let body := Body.deviceToken deviceId
  match db.nodes.insert? (registeredNode deviceId now) with
  | none => answer db (ok body)
  | some nodes => answer { db with nodes := nodes } (ok body)

def adminNodes (db : Database) : ViewResult :=
  answer db (ok (.nodes ((orderByDeviceId db.nodes.rows).map serializeNode)))

/-- The three states an administrator may ask for. -/
def requestedState : Option String → Option NodeStatus
  | some "DISABLED" => some .disabled
  | some "MAINTENANCE" => some .maintenance
  | some "FREE" => some .free
  | _ => none

/-- FREE is only given to a node with a connection; leases are not consulted. -/
def adminState (n : Node) : NodeStatus → NodeStatus
  | .free => if n.hasConnection then .free else .offline
  | state => state

def adminSetNodeState (deviceId : String) (state : Option String) (db : Database) : ViewResult :=
  match requestedState state with
  | none => answer db (errorResponse "BAD_REQUEST" "invalid state" (.state state) 400)
  | some wanted =>
    match db.nodes.get? deviceId with
    | none => answer db (notFound "node not found")
    | some n =>
      let db' := db.setNodeStatus deviceId (adminState n wanted)
      ⟨db',[pushPoolUpdate db'],ok (.node (serializeNode { n with status := adminState n wanted }))⟩

/-- The lease is read before the transaction opens. -/
def adminForceReleaseLease (leaseId : Uuid) (now : Instant) (db : Database) : ViewResult :=
  match db.leases.get? leaseId with
  | none => answer db (notFound "lease not found")
  | some l =>
    match endLease EndReason.adminForceRelease.value now l db with
    | none => answer db serverError
    | some (l',db') =>
      let db'' := setReleasing db' l.deviceId
      ⟨db'',[leaseRelease l' .adminForceRelease,pushLeaseUpdate l',pushPoolUpdate db''],
        ok (.lease (serializeLease l'))⟩

/-- The status a node gets when an administrator releases it. -/
def forcedStatus (n : Node) : NodeStatus :=
  if n.blocked then n.status else if n.hasConnection then .free else .offline

def adminForceReleaseNode (deviceId : String) (now : Instant) (db : Database) : ViewResult :=
  match db.nodes.get? deviceId with
  | none => answer db (notFound "node not found")
  | some n =>
    match endLeases EndReason.adminForceRelease.value now
        (db.leasesOf deviceId Lease.unfinished) db with
    | none => answer db serverError
    | some (leases,db') =>
      let db'' := db'.setNodeStatus deviceId (forcedStatus n)
      ⟨db'',leases.flatMap (fun l => [leaseRelease l .adminForceRelease,pushLeaseUpdate l]) ++
          [pushPoolUpdate db''],
        ok (.nodeReleased deviceId leases.length (forcedStatus n))⟩

/-- The soft reboot; the BMC branch runs an external command. -/
def adminRebootNode (deviceId : String) (db : Database) : ViewResult :=
  match db.nodes.get? deviceId with
  | none => answer db (notFound "node not found")
  | some _ => ⟨db,[⟨.group (.node deviceId),.nodeReboot deviceId⟩],⟨202,.accepted⟩⟩

/-- Deleting the leases of a device deletes their billing records with them. -/
def deleteLeasesOf (db : Database) (deviceId : String) : Database :=
  { db with
    leases := db.leases.filter (fun l => l.deviceId ≠ deviceId)
    billingRecords := db.billingRecords.filter (fun b =>
      (db.leases.get? b.lease).all (fun l => l.deviceId ≠ deviceId)) }

def deleteNode (db : Database) (deviceId : String) : Database :=
  { db with nodes := db.nodes.filter (fun n => n.deviceId ≠ deviceId) }

def adminDeleteNode (deviceId : String) (db : Database) : ViewResult :=
  match db.nodes.get? deviceId with
  | none => answer db (notFound "node not found")
  | some _ =>
    let active := (db.leasesOf deviceId Lease.unfinished).length
    if 0 < active then
      answer db (errorResponse "HAS_ACTIVE_LEASES"
        ("Cannot delete node with " ++ toString active ++
          " active lease(s). Please release all leases first.") .none 400)
    else
      let db' := deleteNode (deleteLeasesOf db deviceId) deviceId
      ⟨db',[pushPoolUpdate db'],ok (.deleted deviceId)⟩

structure NodePatch where
  nickname : Option (Option String) := none
  region : Option String := none
  gpuTier : Option String := none

def NodePatch.apply (p : NodePatch) (n : Node) : Node :=
  { n with
    nickname := p.nickname.getD n.nickname
    region := p.region.getD n.region
    gpuTier := p.gpuTier.getD n.gpuTier }

def NodePatch.isEmpty (p : NodePatch) : Bool :=
  p.nickname.isNone && p.region.isNone && p.gpuTier.isNone

def adminUpdateNode (deviceId : String) (patch : NodePatch) (db : Database) : ViewResult :=
  match db.nodes.get? deviceId with
  | none => answer db (notFound "node not found")
  | some n =>
    if patch.isEmpty then answer db (ok (.node (serializeNode n)))
    else
      let db' := db.updateNode deviceId patch.apply
      ⟨db',[pushPoolUpdate db'],ok (.node (serializeNode (patch.apply n)))⟩

end CloudPlay.ControlPlaneViews
