import CloudPlay.ControlPlaneServer
import CloudPlay.TransactionProgram

/-!
# Requests as programs of database statements

The handlers that rent nodes, end leases or save a node's status, cut into
their single statements: every query and every `timezone.now()` is a read,
`select_for_update` a locking read, `save` and `create` are writes, and
`transaction.atomic()` encloses what it encloses in the source. A statement
works with the objects the handler holds, however old they are; what the
columns of an object look like in the store by then is the expectation of its
save. The messages that follow a commit are left out, a request comes to its
response.
-/

set_option autoImplicit false

namespace CloudPlay.ControlPlanePrograms
open KeyedTable ControlPlaneModels ControlPlaneSerializers ControlPlaneDatabase LeaseLifecycle
open ControlPlaneViews ControlPlaneConsumer ControlPlaneServer
open TransactionProgram

structure Store where
  db : Database
  clock : Instant

def Store.with (s : Store) (db : Database) : Store := ⟨db,s.clock⟩

inductive Row where
  | node (deviceId : String)
  | lease (leaseId : Uuid)
  deriving DecidableEq, Repr

/-- `none` is the result of a handler that is no view. -/
abbrev Program := Prog Store Row (Option Response)

/-- What a save can expect of the store. The two about leases concern the save
in `end_lease` of a lease that was read under its lock, or without. -/
structure Expectations where
  lockedLease : Lease → Instant → Store → Bool := fun _ _ _ => true
  unlockedLease : Lease → Instant → Store → Bool := fun _ _ _ => true
  reportedNode : Node → Store → Bool := fun _ _ => true
  requestedState : Node → NodeStatus → Store → Bool := fun _ _ _ => true

def anyState (_ : Store) : Bool := true

def answered (r : Response) : Program := .done (some r)

/-- `timezone.now()`. -/
def timezoneNow (k : Instant → Program) : Program := .read (fun s => k s.clock)

def query (k : Database → Program) : Program := .read (fun s => k s.db)

def forUpdate (rows : Database → List Row) (k : Database → Program) : Program :=
  .lock (fun s => rows s.db) (fun s => k s.db)

def save (expects : Store → Bool) (rows : List Row) (ok : Database → Bool)
    (u : Database → Database) (k : Program) : Program :=
  .write expects rows (fun s => ok s.db) (fun s => s.with (u s.db)) k .fail

/-- `node.save(update_fields=[...])`, which raises when the row is gone. -/
def saveNode (expects : Store → Bool) (deviceId : String) (f : Node → Node)
    (hf : ∀ n, (f n).deviceId = n.deviceId) (k : Program) : Program :=
  save expects [.node deviceId] (fun db => (db.nodes.get? deviceId).isSome)
    (fun db => db.updateNode deviceId f hf) k

theorem withStatus_deviceId (status : NodeStatus) (n : Node) :
    { n with status := status }.deviceId = n.deviceId := rfl

def saveNodeStatus (expects : Store → Bool) (deviceId : String) (status : NodeStatus)
    (k : Program) : Program :=
  saveNode expects deviceId (fun n => { n with status := status }) (withStatus_deviceId status) k

/-- The save and the creation in `end_lease`. -/
def endLease (expects : Lease → Instant → Store → Bool) (endReason : String)
    (endedAt timeZone : Instant) (l : Lease) (k : Lease → Program) : Program :=
  if l.endedAt.isSome then k l
  else
    let ended := settle endReason endedAt timeZone l
    save (expects l endedAt) [.lease l.leaseId]
      (fun db => (db.leases.get? l.leaseId).isSome && fitsColumn (ended.amount.getD 0))
      (fun db => saveEnded db ended)
      (save anyState [] (fun _ => true)
        (fun db => db.createBillingRecord ended endReason endedAt) (k ended))

def endLeases (expects : Lease → Instant → Store → Bool) (endReason : String)
    (endedAt timeZone : Instant) : List Lease → (List Lease → Program) → Program
  | [], k => k []
  | l::ls, k => endLease expects endReason endedAt timeZone l
      (fun l' => endLeases expects endReason endedAt timeZone ls (fun ls' => k (l'::ls')))

/-- The lookup of an idempotency key, before anything else. -/
def lookup (user : User) (scope : Scope) (key : Option String) (k : Program) : Program :=
  match key with
  | none => k
  | some _ => query (fun db =>
      match existing db user scope key with
      | some body => answered (ok body)
      | none => k)

/-- `IdempotencyKey.objects.create`, after the transaction. -/
def rememberKey (user : User) (scope : Scope) (key : Option String) (body : Body) : Program :=
  match key with
  | none => answered (ok body)
  | some k => save anyState [] (fun db => (db.createIdempotencyKey ⟨user.id,scope,k,body⟩).isSome)
      (fun db => (db.createIdempotencyKey ⟨user.id,scope,k,body⟩).getD db) (answered (ok body))

def nodeRows (nodes : List Node) : List Row := nodes.map (fun n => .node n.deviceId)

def leaseRows (ls : List Lease) : List Row := ls.map (fun l => .lease l.leaseId)

def lockNode (deviceId : String) (k : Database → Program) : Program :=
  forUpdate (fun db => nodeRows (db.nodes.get? deviceId).toList) k

/-- The loop over the picked nodes. -/
def allocate (user : UserId) (unit : BillingUnit) (price : Money) (now : Instant)
    (draw : ℕ → Uuid × String) : ℕ → List Node → (List Lease → Program) → Program
  | _, [], k => k []
  | i, n::rest, k =>
    let l := newLease user unit price now (draw i) n
    save anyState [.lease l.leaseId] (fun db => (db.createLease l).isSome)
      (fun db => (db.createLease l).getD db)
      (saveNodeStatus anyState n.deviceId .assigned
        (allocate user unit price now draw (i+1) rest (fun ls => k (l::ls))))

def rentedBody (leases : List Lease) : Body :=
  .rented (leases.map serializeLease) (leases.map (fun l => (l.leaseId,l.leaseToken)))

/-- From the opening of the transaction on. -/
def rentTransaction (user : User) (req : RentRequest) (draw : ℕ → Uuid × String)
    (now : Instant) : Program :=
  .enter (forUpdate (fun db => nodeRows (freeNodes db req.region req.gpuTier req.count)) (fun db =>
    let nodes := freeNodes db req.region req.gpuTier req.count
    if nodes.length < req.count then
      .commit (answered (errorResponse "NO_CAPACITY" "no capacity"
        (.capacity req.count nodes.length) 409))
    else query (fun db =>
      allocate user.id req.billingUnit (getPrice db req.region req.gpuTier req.billingUnit) now
        draw 0 nodes (fun leases =>
          .commit (rememberKey user .rent req.clientRequestId (rentedBody leases))))))

def rentProgram (user : User) (req : RentRequest) (draw : ℕ → Uuid × String) : Program :=
  if req.region = "" ∨ req.gpuTier = "" ∨ req.count < 1 ∨ 100 < req.count then
    answered (errorResponse "BAD_REQUEST" "invalid payload" .none 400)
  else lookup user .rent req.clientRequestId (timezoneNow (rentTransaction user req draw))

/-- `lease.device` is fetched without a lock. -/
def releasingStatements (deviceId : String) (k : Program) : Program :=
  query (fun db =>
    match db.nodes.get? deviceId with
    | none => k
    | some n => if n.blocked then k else saveNodeStatus anyState deviceId .releasing k)

section Ending
variable (expects : Expectations)

/-- The loop of `ReleaseLeaseView`; its `return` commits. -/
def releaseStatements (user : UserId) (endedAt : Instant) : List LeaseRef →
    (List Lease → Program) → Program
  | [], k => k []
  | .uuid id::rest, k =>
    forUpdate (fun db => leaseRows (leaseOfUser db user id).toList) (fun db =>
      match leaseOfUser db user id with
      | none =>
        .commit (answered (errorResponse "NOT_FOUND" "lease not found" (.lease (.uuid id)) 404))
      | some l =>
        endLease expects.lockedLease EndReason.userRelease.value endedAt db.timeZone l (fun l' =>
          releasingStatements l.deviceId
            (releaseStatements user endedAt rest (fun ls => k (l'::ls)))))
  | _::_, _ => .fail

def releaseProgram (user : User) (req : ReleaseRequest) : Program :=
  if req.leaseIds = [] ∨ .absent ∈ req.leaseIds then
    answered (errorResponse "BAD_REQUEST" "invalid payload" .none 400)
  else lookup user .release req.clientRequestId (timezoneNow (fun now =>
    .enter (releaseStatements expects user.id now req.leaseIds (fun leases =>
      .commit (rememberKey user .release req.clientRequestId
        (.leases (leases.map serializeLease)))))))

def adminProgram (user : User) (p : Program) : Program :=
  if user.isStaff then p else answered (errorResponse "FORBIDDEN" "permission denied" .none 403)

/-- The node was read together with the lease. -/
def forcedStatements (db : Database) (deviceId : String) (ended : Lease) : Program :=
  let finished := Prog.commit (answered (ok (.lease (serializeLease ended))))
  match db.nodes.get? deviceId with
  | none => finished
  | some n =>
    if n.blocked then finished else saveNodeStatus anyState deviceId .releasing finished

/-- The lease and its node are read in one query before the transaction,
without locks. -/
def forceReleaseLeaseProgram (leaseId : Uuid) : Program :=
  query (fun db =>
    match db.leases.get? leaseId with
    | none => answered (notFound "lease not found")
    | some l =>
      .enter (timezoneNow (fun now =>
        endLease expects.unlockedLease EndReason.adminForceRelease.value now db.timeZone l
          (forcedStatements db l.deviceId))))

def forceReleaseNodeProgram (deviceId : String) : Program :=
  timezoneNow (fun now =>
    .enter (lockNode deviceId (fun db =>
      match db.nodes.get? deviceId with
      | none => .commit (answered (notFound "node not found"))
      | some n =>
        forUpdate (fun db => leaseRows (db.leasesOf deviceId Lease.unfinished)) (fun db =>
          endLeases expects.lockedLease EndReason.adminForceRelease.value now db.timeZone
            (db.leasesOf deviceId Lease.unfinished) (fun leases =>
              let finished := Prog.commit
                (answered (ok (.nodeReleased deviceId leases.length (forcedStatus n))))
              if n.blocked then finished
              else saveNodeStatus anyState deviceId (forcedStatus n) finished)))))

def markOfflineProgram (deviceId reason : String) (k : Program) : Program :=
  timezoneNow (fun now =>
    .enter (lockNode deviceId (fun db =>
      match db.nodes.get? deviceId with
      | none => .commit k
      | some _ =>
        saveNode anyState deviceId (offlineNode now) (offlineNode_deviceId now)
          (forUpdate (fun db => leaseRows (db.leasesOf deviceId Lease.engaged)) (fun db =>
            endLeases expects.lockedLease reason now db.timeZone
              (db.leasesOf deviceId Lease.engaged) (fun _ => .commit k))))))

def takeDownProgram : List Node → Program
  | [] => .done none
  | n::rest => markOfflineProgram expects n.deviceId heartbeatTimeout (takeDownProgram rest)

def checkHeartbeatsProgram (timeoutSeconds : ℤ) : Program :=
  timezoneNow (fun now =>
    query (fun db => takeDownProgram expects (staleNodes db timeoutSeconds now)))

end Ending

/-- The node's part of `_mark_lease_ready`. -/
def inUseStatements (deviceId : String) (now : Instant) : Program :=
  lockNode deviceId (fun db =>
    match db.nodes.get? deviceId with
    | none => .commit (.done none)
    | some n =>
      if n.blocked then .commit (.done none)
      else
        saveNode anyState deviceId (fun row => { row with status := .inUse, lastSeen := now })
          (fun _ => rfl) (.commit (.done none)))

/-- `_mark_lease_ready`. The object's start, which was read under the lock, is
saved with the new status. -/
def leaseReadyProgram (leaseId : Uuid) (deviceId : String) : Program :=
  timezoneNow (fun now =>
    .enter (forUpdate (fun db => leaseRows (db.leases.get? leaseId).toList) (fun db =>
      match db.leases.get? leaseId with
      | none => .commit (.done none)
      | some l =>
        if l.deviceId ≠ deviceId ∨ ¬Startable l then .commit (.done none)
        else
          save anyState [.lease leaseId] (fun db => (db.leases.get? leaseId).isSome)
            (fun db => db.updateLease leaseId (fun row =>
              { row with startedAt := (readyLease now l).startedAt, status := .ready }))
            (inUseStatements deviceId now))))

/-- `get_or_create`. When the row appears in between, it is read again. -/
def getOrCreateNode (deviceId : String) (k : Node → Program) : Program :=
  .read (fun s =>
    match s.db.nodes.get? deviceId with
    | some n => k n
    | none =>
      let n : Node := { deviceId := deviceId, lastSeen := s.clock }
      .write anyState [.node deviceId] (fun s => (s.db.nodes.get? deviceId).isNone)
        (fun s => s.with (s.db.getOrCreateNode deviceId n.lastSeen)) (k n)
        (query (fun db =>
          match db.nodes.get? deviceId with
          | some n => k n
          | none => .fail)))

section Saving
variable (expects : Expectations)

def nodeConnectedProgram (deviceId connectionId : String) : Program :=
  timezoneNow (fun now =>
    getOrCreateNode deviceId (fun n =>
      let saved := fun active => saveNode (expects.reportedNode n) deviceId
        (fun row =>
          { row with
            connectionId := some connectionId
            lastSeen := now
            status := (connectedNode connectionId now active n).status }) (fun _ => rfl)
        (.done none)
      if n.blocked then saved true
      else query (fun db => saved (hasEngagedLease db deviceId))))

def nodeHelloProgram (deviceId : String) (hello : NodeHello) : Program :=
  timezoneNow (fun now =>
    getOrCreateNode deviceId (fun n =>
      let saved := fun active => saveNode (expects.reportedNode n) deviceId
        (fun row =>
          { row with
            region := (helloNode hello now active n).region
            gpuTier := (helloNode hello now active n).gpuTier
            agentVersion := (helloNode hello now active n).agentVersion
            capabilities := (helloNode hello now active n).capabilities
            lastSeen := now
            status := (helloNode hello now active n).status }) (fun _ => rfl)
        (.done none)
      if n.status = .offline ∨ n.status = .releasing then
        query (fun db => saved (hasEngagedLease db deviceId))
      else saved true))

def setNodeStateProgram (deviceId : String) (state : Option String) : Program :=
  match ControlPlaneViews.requestedState state with
  | none => answered (errorResponse "BAD_REQUEST" "invalid state" (.state state) 400)
  | some wanted => query (fun db =>
      match db.nodes.get? deviceId with
      | none => answered (notFound "node not found")
      | some n =>
        saveNodeStatus (expects.requestedState n (adminState n wanted)) deviceId
          (adminState n wanted)
          (answered (ok (.node (serializeNode { n with status := adminState n wanted })))))

end Saving

/-- Time passes, and never goes back. -/
def tickProgram (t : Instant) : Program :=
  .write anyState [] (fun s => s.clock ≤ t) (fun s => ⟨s.db,t⟩) (.done none) (.done none)

inductive Request where
  | rent (user : User) (req : RentRequest) (draw : ℕ → Uuid × String)
  | release (user : User) (req : ReleaseRequest)
  | forceReleaseLease (user : User) (leaseId : Uuid)
  | forceReleaseNode (user : User) (deviceId : String)
  | disconnect (deviceId : String)
  | checkHeartbeats (timeoutSeconds : ℤ)
  | leaseReady (leaseId : Uuid) (deviceId : String)
  | nodeConnected (deviceId connectionId : String)
  | nodeHello (deviceId : String) (hello : NodeHello)
  | setNodeState (user : User) (deviceId : String) (state : Option String)
  | tick (t : Instant)

def Request.program (expects : Expectations) : Request → Program
  | .rent user req draw => rentProgram user req draw
  | .release user req => releaseProgram expects user req
  | .forceReleaseLease user id => adminProgram user (forceReleaseLeaseProgram expects id)
  | .forceReleaseNode user d => adminProgram user (forceReleaseNodeProgram expects d)
  | .disconnect d => markOfflineProgram expects d EndReason.nodeOffline.value (.done none)
  | .checkHeartbeats timeout => checkHeartbeatsProgram expects timeout
  | .leaseReady id d => leaseReadyProgram id d
  | .nodeConnected d c => nodeConnectedProgram expects d c
  | .nodeHello d hello => nodeHelloProgram expects d hello
  | .setNodeState user d state => adminProgram user (setNodeStateProgram expects d state)
  | .tick t => tickProgram t

/-- Requests that start together, each in a thread of its own. -/
def serving (expects : Expectations) (rs : List Request) (s : Store) :
    System Store Row (Option Response) :=
  begin (rs.map (Request.program expects)) s

end CloudPlay.ControlPlanePrograms
