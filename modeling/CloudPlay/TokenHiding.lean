import CloudPlay.ControlPlaneEffects

/-!
# The server without the tokens of others

Hiding blanks the tokens in the leases of every user but one, and in the
stored answers of those users. No handler decides anything by a token, so each
database operation commutes with hiding.
-/

set_option autoImplicit false

namespace CloudPlay.TokenHiding
open KeyedTable ControlPlaneModels ControlPlaneSerializers ControlPlaneDatabase LeaseLifecycle
open ControlPlaneViews ControlPlaneConsumer ControlPlaneServer

/-- A token of `owner` as far as `U` is concerned. -/
def shown (U owner : UserId) (token : String) : String := if owner = U then token else ""

def hideLease (U : UserId) (l : Lease) : Lease :=
  { l with leaseToken := shown U l.user l.leaseToken }

def blank (d : LeaseData) : LeaseData := { d with leaseToken := "" }

/-- The bodies stored under idempotency keys are those of rent and release. -/
def hideBody : Body → Body
  | .rented leases tokens => .rented (leases.map blank) (tokens.map (fun p => (p.1,"")))
  | .leases leases => .leases (leases.map blank)
  | body => body

def hideKey (U : UserId) (k : IdempotencyKey) : IdempotencyKey :=
  { k with responseJson := if k.user = U then k.responseJson else hideBody k.responseJson }

@[simp] theorem hideLease_leaseId (U : UserId) (l : Lease) :
    (hideLease U l).leaseId = l.leaseId := rfl

@[simp] theorem hideKey_id (U : UserId) (k : IdempotencyKey) : (hideKey U k).id = k.id := rfl

def hide (U : UserId) (db : Database) : Database :=
  { db with
    leases := db.leases.map (hideLease U) (hideLease_leaseId U)
    idempotencyKeys := db.idempotencyKeys.map (hideKey U) (hideKey_id U) }

variable {U : UserId}

@[simp] theorem hide_nodes (db : Database) : (hide U db).nodes = db.nodes := rfl

@[simp] theorem hide_timeZone (db : Database) : (hide U db).timeZone = db.timeZone := rfl

theorem hideLease_own {l : Lease} (h : l.user = U) : hideLease U l = l := by
  subst h
  simp [hideLease, shown]

theorem hideLeases_own {ls : List Lease} (h : ∀ l ∈ ls, l.user = U) :
    ls.map (hideLease U) = ls := map_eq_self_iff.mpr fun l hl => hideLease_own (h l hl)

theorem serialize_other {l : Lease} (h : l.user ≠ U) :
    serializeLease (hideLease U l) = blank (serializeLease l) := by
  simp [serializeLease, hideLease, shown, h, blank]

theorem hide_get? (db : Database) (i : Uuid) :
    (hide U db).leases.get? i = (db.leases.get? i).map (hideLease U) :=
  Table.get?_map _ _ (hideLease_leaseId U) i

theorem hide_createLease (db : Database) (l : Lease) :
    (hide U db).createLease (hideLease U l) = (db.createLease l).map (hide U) := by
  have h := Table.insert?_map db.leases (hideLease U) (hideLease_leaseId U) l
  simp only [Database.createLease, hide, h, Option.map_map]
  rfl

theorem hide_updateLease (db : Database) (i : Uuid) (f : Lease → Lease)
    (hf : ∀ l, (f l).leaseId = l.leaseId) (h : ∀ l, f (hideLease U l) = hideLease U (f l)) :
    (hide U db).updateLease i f hf = hide U (db.updateLease i f hf) := by
  simp only [Database.updateLease, hide]
  rw [Table.modify_map db.leases (hideLease U) (hideLease_leaseId U) i f hf h]

theorem hide_setNodeStatus (db : Database) (d : String) (st : NodeStatus) :
    (hide U db).setNodeStatus d st = hide U (db.setNodeStatus d st) := rfl

theorem hide_getOrCreateNode (db : Database) (d : String) (now : Instant) :
    (hide U db).getOrCreateNode d now = hide U (db.getOrCreateNode d now) := by
  by_cases h : db.nodes.get? d = none
  · rw [Database.getOrCreateNode_new db d now h, Database.getOrCreateNode_new (hide U db) d now h]
    rfl
  · rw [Database.getOrCreateNode_known db d now h,
      Database.getOrCreateNode_known (hide U db) d now h]

theorem hide_newest (db : Database) (p : Lease → Bool) (hp : ∀ l, p (hideLease U l) = p l) :
    ((hide U db).leases.rows.filter p).insertionSort (fun a b => b.createdAt ≤ a.createdAt) =
      ((db.leases.rows.filter p).insertionSort (fun a b => b.createdAt ≤ a.createdAt)).map
        (hideLease U) := by
  have hrows : (hide U db).leases.rows = db.leases.rows.map (hideLease U) := rfl
  have hfilter : db.leases.rows.filter (p ∘ hideLease U) = db.leases.rows.filter p :=
    List.filter_congr fun l _ => hp l
  rw [hrows, List.filter_map, hfilter]
  exact (List.map_insertionSort _ _ (hideLease U) _ fun _ _ _ _ => Iff.rfl).symm

theorem hide_leasesOf (db : Database) (d : String) (p : Lease → Bool)
    (hp : ∀ l, p (hideLease U l) = p l) :
    (hide U db).leasesOf d p = (db.leasesOf d p).map (hideLease U) :=
  hide_newest db _ fun l => congrArg (l.deviceId = d && ·) (hp l)

theorem hide_settle (reason : String) (t tz : Instant) (l : Lease) :
    settle reason t tz (hideLease U l) = hideLease U (settle reason t tz l) := rfl

theorem hide_saveEnded (db : Database) (l : Lease) :
    saveEnded (hide U db) (hideLease U l) = hide U (saveEnded db l) :=
  hide_updateLease db l.leaseId _ _ (fun _ => rfl)

theorem hide_createBillingRecord (db : Database) (l : Lease) (reason : String) (t : Instant) :
    (hide U db).createBillingRecord (hideLease U l) reason t =
      hide U (db.createBillingRecord l reason t) := rfl

/-- Ending a lease looks at no token. -/
theorem hide_endLease (reason : String) (t : Instant) (l : Lease) (db : Database) :
    endLease reason t (hideLease U l) (hide U db) =
      (endLease reason t l db).map (fun p => (hideLease U p.1,hide U p.2)) := by
  have hend : (hideLease U l).endedAt = l.endedAt := rfl
  simp only [endLease, hend, hide_timeZone, hide_settle, hide_saveEnded,
    hide_createBillingRecord]
  split
  · rfl
  · have hamount : (hideLease U (settle reason t db.timeZone l)).amount =
      (settle reason t db.timeZone l).amount := rfl
    rw [hamount]
    split <;> rfl

theorem hide_endLeases (reason : String) (t : Instant) (ls : List Lease) (db : Database) :
    endLeases reason t (ls.map (hideLease U)) (hide U db) =
      (endLeases reason t ls db).map (fun p => (p.1.map (hideLease U),hide U p.2)) := by
  induction ls generalizing db with
  | nil => rfl
  | cons l ls ih =>
    simp only [List.map_cons, endLeases, hide_endLease]
    cases endLease reason t l db with
    | none => rfl
    | some p =>
      simp only [Option.map_some, Option.bind_eq_bind, Option.bind_some, ih]
      cases endLeases reason t ls p.2 <;> rfl

theorem hide_setReleasing (db : Database) (d : String) :
    setReleasing (hide U db) d = hide U (setReleasing db d) := by
  simp only [setReleasing, hide_nodes]
  split
  · rfl
  · split <;> rfl

theorem hide_pushPoolUpdate (db : Database) : pushPoolUpdate (hide U db) = pushPoolUpdate db := rfl

/-- The sends a user connection of `U` can receive. -/
def visible (U : UserId) (send : Send) : Bool :=
  match send.target with
  | .group .users => true
  | .group (.user V) => V = U
  | .group (.node _) => false
  | .channel _ => true

theorem visible_leaseUpdate (l : Lease) :
    [pushLeaseUpdate (hideLease U l)].filter (visible U) =
      [pushLeaseUpdate l].filter (visible U) := by
  by_cases h : l.user = U
  · rw [hideLease_own h]
  · have hv : visible U (pushLeaseUpdate l) = false := by simp [visible, pushLeaseUpdate, h]
    have hv' : visible U (pushLeaseUpdate (hideLease U l)) = false := hv
    simp [hv, hv']

theorem visible_leaseUpdates (ls : List Lease) :
    ((ls.map (hideLease U)).map pushLeaseUpdate).filter (visible U) =
      (ls.map pushLeaseUpdate).filter (visible U) := by
  induction ls with
  | nil => rfl
  | cons l ls ih =>
    have h := visible_leaseUpdate (U := U) l
    simp only [List.map_cons]
    rw [← List.singleton_append, List.filter_append, h, ih, ← List.filter_append]
    rfl

/-- The notices of rent and release: one to the device, one to the owner. -/
theorem visible_notices (notice : Lease → Send) (ls : List Lease)
    (hn : ∀ l, visible U (notice l) = false) :
    ((ls.map (hideLease U)).flatMap (fun l => [notice l,pushLeaseUpdate l])).filter (visible U) =
      (ls.flatMap (fun l => [notice l,pushLeaseUpdate l])).filter (visible U) := by
  have hone : ∀ l, [notice l,pushLeaseUpdate l].filter (visible U) =
      [pushLeaseUpdate l].filter (visible U) := by
    intro l
    simp [hn l, List.filter_cons]
  induction ls with
  | nil => rfl
  | cons l ls ih =>
    rw [List.map_cons, List.flatMap_cons, List.flatMap_cons, List.filter_append,
      List.filter_append, hone, hone, visible_leaseUpdate, ih]

end CloudPlay.TokenHiding
