import CloudPlay.TokenHiding

/-!
# Handlers on the hidden server

Run on the hidden tables, and with hidden draws, a handler ends in the hidden
tables, sends the same to the connections of `U`, and gives `U` the same
answer.
-/

set_option autoImplicit false

namespace CloudPlay.TokenFlow
open KeyedTable ControlPlaneModels ControlPlaneSerializers ControlPlaneDatabase LeaseLifecycle
open ControlPlaneViews ControlPlaneConsumer ControlPlaneServer ControlPlaneEffects TokenHiding

/-- The result `r'` of the hidden run beside the result `r` of the other. The
answer is compared when it goes to `U`. -/
structure Alike (U : UserId) (own : Prop) (r r' : ViewResult) : Prop where
  db : r'.db = hide U r.db
  sends : r'.sends.filter (visible U) = r.sends.filter (visible U)
  response : own → r'.response = r.response

variable {U : UserId}

theorem alike_answer {own : Prop} (db : Database) {r r' : Response} (h : own → r' = r) :
    Alike U own (answer db r) (answer (hide U db) r') := ⟨rfl,rfl,h⟩

def hideDraw (U owner : UserId) (draw : ℕ → Uuid × String) (i : ℕ) : Uuid × String :=
  ((draw i).1,shown U owner (draw i).2)

section Keys
variable (user : User) (scope : Scope) (key : Option String)

def ownBody (U : UserId) (owner : UserId) (body : Body) : Body :=
  if owner = U then body else hideBody body

theorem existing_hide (db : Database) : existing (hide U db) user scope key =
    (existing db user scope key).map (ownBody U user.id) := by
  cases key with
  | none => rfl
  | some k =>
    have hget : (hide U db).idempotencyKeys.get? (user.id,scope,k) =
        (db.idempotencyKeys.get? (user.id,scope,k)).map (hideKey U) :=
      Table.get?_map _ _ (hideKey_id U) _
    simp only [existing, Option.bind_some, hget, Option.map_map]
    cases hrow : db.idempotencyKeys.get? (user.id,scope,k) with
    | none => rfl
    | some row =>
      have huser : row.user = user.id := congrArg Prod.fst (Table.get?_key hrow)
      simp [hideKey, ownBody, huser]

theorem remember_alike {db : Database} {sends sends' : List Send} {body body' : Body}
    (hs : sends'.filter (visible U) = sends.filter (visible U))
    (hb : body' = ownBody U user.id body) :
    Alike U (user.id = U) (remember db sends user scope key body)
      (remember (hide U db) sends' user scope key body') := by
  have hok : user.id = U → ok body' = ok body := by
    intro hu
    rw [hb, ownBody, if_pos hu]
  cases key with
  | none => exact ⟨rfl,hs,hok⟩
  | some k =>
    have hrow : (⟨user.id,scope,k,body'⟩ : IdempotencyKey) = hideKey U ⟨user.id,scope,k,body⟩ := by
      rw [hb]
      rfl
    have hcreate : (hide U db).createIdempotencyKey ⟨user.id,scope,k,body'⟩ =
        (db.createIdempotencyKey ⟨user.id,scope,k,body⟩).map (hide U) := by
      have h := Table.insert?_map db.idempotencyKeys (hideKey U) (hideKey_id U)
        ⟨user.id,scope,k,body⟩
      simp only [Database.createIdempotencyKey, hide, hrow, h, Option.map_map]
      rfl
    simp only [remember, hcreate]
    cases db.createIdempotencyKey ⟨user.id,scope,k,body⟩ with
    | none => exact ⟨rfl,hs,fun _ => rfl⟩
    | some db' => exact ⟨rfl,hs,hok⟩

end Keys

section Rent
variable {user : UserId} {unit : BillingUnit} {price : Money} {now : Instant}
variable {draw : ℕ → Uuid × String}

theorem rentNodes_hide (i : ℕ) (nodes : List Node) (db : Database) :
    rentNodes user unit price now (hideDraw U user draw) i nodes (hide U db) =
      (rentNodes user unit price now draw i nodes db).map
        (fun p => (hide U p.1,p.2.map (hideLease U))) := by
  induction nodes generalizing i db with
  | nil => rfl
  | cons n nodes ih =>
    have hnew : newLease user unit price now (hideDraw U user draw i) n =
        hideLease U (newLease user unit price now (draw i) n) := rfl
    simp only [rentNodes, hnew, hide_createLease]
    cases db.createLease (newLease user unit price now (draw i) n) with
    | none => rfl
    | some db' =>
      simp only [Option.map_some, Option.bind_eq_bind, Option.bind_some, hide_setNodeStatus, ih]
      cases rentNodes user unit price now draw (i+1) nodes
        (db'.setNodeStatus n.deviceId .assigned) <;> rfl

theorem rentNodes_user {i : ℕ} {nodes : List Node} {db db' : Database} {ls : List Lease}
    (h : rentNodes user unit price now draw i nodes db = some (db',ls)) :
    ∀ l ∈ ls, l.user = user := by
  induction nodes generalizing i db ls with
  | nil =>
    simp only [rentNodes, Option.some.injEq, Prod.mk.injEq] at h
    simp [← h.2]
  | cons n nodes ih =>
    simp only [rentNodes, Option.bind_eq_bind, Option.bind_eq_some_iff, Option.pure_def,
      Option.some.injEq, Prod.mk.injEq, Prod.exists] at h
    obtain ⟨db₁, -, db₂, ls₂, h₂, rfl, rfl⟩ := h
    intro l hl
    rcases List.mem_cons.mp hl with rfl | hl
    · rfl
    · exact ih h₂ l hl

theorem rented_body {ls : List Lease} (hu : ∀ l ∈ ls, l.user = user) :
    Body.rented ((ls.map (hideLease U)).map serializeLease)
        ((ls.map (hideLease U)).map (fun l => (l.leaseId,l.leaseToken))) =
      ownBody U user (.rented (ls.map serializeLease)
        (ls.map (fun l => (l.leaseId,l.leaseToken)))) := by
  by_cases h : user = U
  · rw [hideLeases_own fun l hl => (hu l hl).trans h, ownBody, if_pos h]
  · have hother : ∀ l ∈ ls, l.user ≠ U := fun l hl he => h ((hu l hl).symm.trans he)
    simp only [ownBody, if_neg h, hideBody, List.map_map]
    congr 1
    · exact List.map_congr_left fun l hl => serialize_other (hother l hl)
    · exact List.map_congr_left fun l hl => by simp [hideLease, shown, hother l hl]

theorem leases_body {ls : List Lease} (hu : ∀ l ∈ ls, l.user = user) :
    Body.leases ((ls.map (hideLease U)).map serializeLease) =
      ownBody U user (.leases (ls.map serializeLease)) := by
  by_cases h : user = U
  · rw [hideLeases_own fun l hl => (hu l hl).trans h, ownBody, if_pos h]
  · have hother : ∀ l ∈ ls, l.user ≠ U := fun l hl he => h ((hu l hl).symm.trans he)
    simp only [ownBody, if_neg h, hideBody, List.map_map]
    congr 1
    exact List.map_congr_left fun l hl => serialize_other (hother l hl)

theorem rentLease_alike (user : User) (req : RentRequest) (now : Instant)
    (draw : ℕ → Uuid × String) (db : Database) :
    Alike U (user.id = U) (rentLease user req now draw db)
      (rentLease user req now (hideDraw U user.id draw) (hide U db)) := by
  have hfree : freeNodes (hide U db) req.region req.gpuTier req.count =
      freeNodes db req.region req.gpuTier req.count := rfl
  have hprice : getPrice (hide U db) req.region req.gpuTier req.billingUnit =
      getPrice db req.region req.gpuTier req.billingUnit := rfl
  simp only [rentLease, existing_hide, hfree, hprice, rentNodes_hide]
  split
  · exact alike_answer db (fun _ => rfl)
  · cases existing db user .rent req.clientRequestId with
    | some body => exact alike_answer db (fun hu => by simp [ownBody, hu])
    | none =>
      simp only [Option.map_none]
      split
      · exact alike_answer db (fun _ => rfl)
      · cases hrent : rentNodes user.id req.billingUnit
          (getPrice db req.region req.gpuTier req.billingUnit) now draw 0
          (freeNodes db req.region req.gpuTier req.count) db with
        | none => exact alike_answer db (fun _ => rfl)
        | some p =>
          refine remember_alike user .rent req.clientRequestId ?_
            (rented_body (rentNodes_user hrent))
          rw [List.filter_append, List.filter_append,
            visible_notices leaseAssigned p.2 (fun _ => rfl)]
          rfl

end Rent

section Release
variable {t : Instant}

theorem leaseOfUser_hide (db : Database) (user : UserId) (id : Uuid) :
    leaseOfUser (hide U db) user id = (leaseOfUser db user id).map (hideLease U) := by
  rw [leaseOfUser, leaseOfUser, hide_get?]
  cases db.leases.get? id with
  | none => rfl
  | some l => by_cases hu : l.user = user <;> simp [Option.filter_some, hideLease, hu]

def hideOutcome (U : UserId) (out : ReleaseOutcome) : ReleaseOutcome :=
  ⟨hide U out.db,out.leases.map (hideLease U),out.missing⟩

theorem releaseLeases_hide (user : UserId) (refs : List LeaseRef) (db : Database) :
    releaseLeases user t refs (hide U db) =
      (releaseLeases user t refs db).map (hideOutcome U) := by
  induction refs generalizing db with
  | nil => rfl
  | cons ref refs ih =>
    cases ref with
    | absent => rfl
    | malformed => rfl
    | uuid id =>
      simp only [releaseLeases, leaseOfUser_hide]
      cases leaseOfUser db user id with
      | none => rfl
      | some l =>
        simp only [Option.map_some, hide_endLease]
        cases endLease EndReason.userRelease.value t l db with
        | none => rfl
        | some p =>
          have hd : (hideLease U l).deviceId = l.deviceId := rfl
          simp only [Option.map_some, Option.bind_eq_bind, Option.bind_some, hd,
            hide_setReleasing, ih]
          cases releaseLeases user t refs (setReleasing p.2 l.deviceId) <;> rfl

theorem endLease_user {reason : String} {l l' : Lease} {db db' : Database}
    (h : endLease reason t l db = some (l',db')) : l'.user = l.user := by
  rcases endLease_cases reason t h with ⟨-, rfl, -⟩ | ⟨-, rfl, -⟩ <;> rfl

theorem releaseLeases_user {user : UserId} {refs : List LeaseRef} {db : Database}
    {out : ReleaseOutcome} (h : releaseLeases user t refs db = some out) :
    ∀ l ∈ out.leases, l.user = user := by
  induction refs generalizing db out with
  | nil =>
    simp only [releaseLeases, Option.some.injEq] at h
    simp [← h]
  | cons ref refs ih =>
    cases ref with
    | absent => simp [releaseLeases] at h
    | malformed => simp [releaseLeases] at h
    | uuid id =>
      simp only [releaseLeases] at h
      cases hl : leaseOfUser db user id with
      | none =>
        simp only [hl, Option.some.injEq] at h
        simp [← h]
      | some l =>
        simp only [hl, Option.bind_eq_bind, Option.bind_eq_some_iff, Option.pure_def,
          Option.some.injEq, Prod.exists] at h
        obtain ⟨l', db', he, out', hrest, rfl⟩ := h
        intro q hq
        rcases List.mem_cons.mp hq with rfl | hq
        · exact (endLease_user he).trans (leaseOfUser_eq_some.mp hl).2
        · exact ih hrest q hq

theorem releaseLease_alike (user : User) (req : ReleaseRequest) (now : Instant)
    (db : Database) : Alike U (user.id = U) (releaseLease user req now db)
      (releaseLease user req now (hide U db)) := by
  simp only [releaseLease, existing_hide, releaseLeases_hide]
  split
  · exact alike_answer db (fun _ => rfl)
  · cases existing db user .release req.clientRequestId with
    | some body => exact alike_answer db (fun hu => by simp [ownBody, hu])
    | none =>
      simp only [Option.map_none]
      cases hloop : releaseLeases user.id now req.leaseIds db with
      | none => exact alike_answer db (fun _ => rfl)
      | some out =>
        simp only [Option.map_some, hideOutcome]
        cases out.missing with
        | some ref => exact alike_answer out.db (fun _ => rfl)
        | none =>
          refine remember_alike user .release req.clientRequestId ?_
            (leases_body (releaseLeases_user hloop))
          rw [List.filter_append, List.filter_append,
            visible_notices (leaseRelease · .userRelease) out.leases (fun _ => rfl)]
          rfl

end Release

section Reads

theorem leasesOfUser_hide (db : Database) (user : UserId) :
    leasesOfUser (hide U db) user = (leasesOfUser db user).map (hideLease U) :=
  hide_newest db _ fun _ => rfl

theorem leasesOfUser_own (db : Database) :
    leasesOfUser (hide U db) U = leasesOfUser db U := by
  rw [leasesOfUser_hide]
  refine hideLeases_own fun l hl => ?_
  rw [leasesOfUser, List.mem_insertionSort, List.mem_filter] at hl
  simpa using (Bool.and_eq_true_iff.mp hl.2).1

theorem leaseList_alike (user : User) (db : Database) :
    Alike U (user.id = U) (leaseList user db) (leaseList user (hide U db)) := by
  refine alike_answer db fun hu => ?_
  rw [hu, leasesOfUser_own]

theorem billingInfo_alike (user : User) (db : Database) :
    Alike U (user.id = U) (billingInfo user db) (billingInfo user (hide U db)) := by
  have hacc : (hide U db).ensureAccount user.id = hide U (db.ensureAccount user.id) := by
    by_cases h : db.accounts.get? user.id = none
    · rw [Database.ensureAccount_new db user.id h,
        Database.ensureAccount_new (hide U db) user.id h]
      rfl
    · rw [Database.ensureAccount_known db user.id h,
        Database.ensureAccount_known (hide U db) user.id h]
  simp only [billingInfo, hacc]
  refine alike_answer _ fun hu => ?_
  rw [hu, leasesOfUser_own]
  rfl

end Reads

section Admin
variable {now : Instant}

/-- An administrator's view shows tokens to administrators only. -/
theorem adminOnly_alike (user : User) (db : Database) {v v' : ViewResult}
    (hdb : v'.db = hide U v.db)
    (hs : v'.sends.filter (visible U) = v.sends.filter (visible U)) :
    Alike U (user.id = U ∧ user.isStaff = false) (adminOnly user db v)
      (adminOnly user (hide U db) v') := by
  cases h : user.isStaff with
  | true => exact ⟨by simp [adminOnly, h, hdb],by simp [adminOnly, h, hs],fun hu => by simp at hu⟩
  | false =>
    simp only [adminOnly, h, Bool.false_eq_true, if_false]
    exact alike_answer db fun _ => rfl

/-- The database and the visible messages of two runs of a view. -/
def Matched (U : UserId) (v v' : ViewResult) : Prop :=
  v'.db = hide U v.db ∧ v'.sends.filter (visible U) = v.sends.filter (visible U)

theorem adminSetNodeState_matched (d : String) (state : Option String) (db : Database) :
    Matched U (adminSetNodeState d state db) (adminSetNodeState d state (hide U db)) := by
  simp only [adminSetNodeState, hide_nodes]
  split
  · exact ⟨rfl,rfl⟩
  · split <;> exact ⟨rfl,rfl⟩

theorem adminForceReleaseLease_matched (id : Uuid) (db : Database) :
    Matched U (adminForceReleaseLease id now db) (adminForceReleaseLease id now (hide U db)) := by
  simp only [adminForceReleaseLease, hide_get?]
  cases db.leases.get? id with
  | none => exact ⟨rfl,rfl⟩
  | some l =>
    simp only [Option.map_some, hide_endLease]
    cases endLease EndReason.adminForceRelease.value now l db with
    | none => exact ⟨rfl,rfl⟩
    | some p =>
      have hd : (hideLease U l).deviceId = l.deviceId := rfl
      simp only [Option.map_some, hd, hide_setReleasing, hide_pushPoolUpdate]
      refine ⟨rfl,?_⟩
      have hn := visible_notices (leaseRelease · .adminForceRelease) [p.1] (U := U) (fun _ => rfl)
      simp only [List.map_cons, List.map_nil, List.flatMap_cons, List.flatMap_nil,
        List.append_nil] at hn
      have hsplit : ∀ x y z : Send, [x,y,z] = [x,y]++[z] := fun _ _ _ => rfl
      simp only [hsplit, List.filter_append, hn]

theorem adminForceReleaseNode_matched (d : String) (db : Database) :
    Matched U (adminForceReleaseNode d now db) (adminForceReleaseNode d now (hide U db)) := by
  have hleases := hide_leasesOf db d Lease.unfinished (U := U) fun _ => rfl
  simp only [adminForceReleaseNode, hide_nodes, hleases, hide_endLeases]
  split
  · exact ⟨rfl,rfl⟩
  · rename_i n hn
    cases endLeases EndReason.adminForceRelease.value now (db.leasesOf d Lease.unfinished) db with
    | none => exact ⟨rfl,rfl⟩
    | some p =>
      refine ⟨rfl,?_⟩
      simp only [Option.map_some]
      rw [List.filter_append, List.filter_append,
        visible_notices (leaseRelease · .adminForceRelease) p.1 (fun _ => rfl)]
      rfl

theorem adminRebootNode_matched (d : String) (db : Database) :
    Matched U (adminRebootNode d db) (adminRebootNode d (hide U db)) := by
  simp only [adminRebootNode, hide_nodes]
  split <;> exact ⟨rfl,rfl⟩

theorem deleteLeasesOf_hide (db : Database) (d : String) :
    deleteLeasesOf (hide U db) d = hide U (deleteLeasesOf db d) := by
  have hleases := Table.filter_map db.leases (hideLease U) (hideLease_leaseId U)
    (fun l => l.deviceId ≠ d) (fun _ => rfl)
  have hrecords : db.billingRecords.filter (fun b =>
      ((hide U db).leases.get? b.lease).all (fun l => l.deviceId ≠ d)) =
        db.billingRecords.filter (fun b =>
          (db.leases.get? b.lease).all (fun l => l.deviceId ≠ d)) := by
    refine List.filter_congr fun b _ => ?_
    rw [hide_get?, Option.all_map]
    rfl
  have hrec : (hide U db).billingRecords = db.billingRecords := rfl
  simp only [deleteLeasesOf, hrec, hrecords]
  simp only [hide, hleases]

theorem adminDeleteNode_matched (d : String) (db : Database) :
    Matched U (adminDeleteNode d db) (adminDeleteNode d (hide U db)) := by
  have hleases := hide_leasesOf db d Lease.unfinished (U := U) fun _ => rfl
  simp only [adminDeleteNode, hide_nodes, hleases, List.length_map, deleteLeasesOf_hide]
  split
  · exact ⟨rfl,rfl⟩
  · split <;> exact ⟨rfl,rfl⟩

theorem adminUpdateNode_matched (d : String) (patch : NodePatch) (db : Database) :
    Matched U (adminUpdateNode d patch db) (adminUpdateNode d patch (hide U db)) := by
  simp only [adminUpdateNode, hide_nodes]
  split
  · exact ⟨rfl,rfl⟩
  · split <;> exact ⟨rfl,rfl⟩

end Admin

end CloudPlay.TokenFlow
