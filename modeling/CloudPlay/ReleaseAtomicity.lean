import CloudPlay.WrittenRows

/-!
# A failed release and its effects

The view leaves its transaction by `return` at an id that is not the user's,
so the rounds before that id are committed although the answer is an error.
Nothing is changed in this way exactly when those rounds had nothing to save. A node
that is already RELEASING is saved like any other, with a new `updated_at`.
-/

set_option autoImplicit false

namespace CloudPlay.ReleaseAtomicity
open KeyedTable ControlPlaneModels ControlPlaneSerializers ControlPlaneDatabase LeaseLifecycle
open ControlPlaneViews ControlPlaneServer ControlPlaneEffects LeaseEnding BatchRelease
open ControlPlanePrograms ExclusiveAssignment TransitionRun WrittenRows

variable {user : User} {req : ReleaseRequest} {now : Instant} {db db' : Database}

/-- The rows of nodes and leases that the request saves. -/
def releaseWrites (user : User) (req : ReleaseRequest) (now : Instant) (db : Database) :
    List Row := (releaseProgram {} user req).written ⟨db,now⟩

/-- No row of a lease, a node or a record is other than before: none is saved, and those of
the tables are the same. -/
structure RowsKept (db : Database) (written : List Row) (db' : Database) : Prop where
  same : SameRows db db'
  unsaved : written = []

/-- The request gets past validation and the stored answers, to the loop. -/
structure Attempted (user : User) (req : ReleaseRequest) (db : Database) : Prop where
  nonempty : req.leaseIds ≠ []
  present : .absent ∉ req.leaseIds
  fresh : existing db user .release req.clientRequestId = none

theorem release_not_attempted (h : ¬Attempted user req db) :
    ∃ r, releaseLease user req now db = answer db r := by
  unfold releaseLease
  split
  · exact ⟨_,rfl⟩
  · rename_i hvalid
    rw [not_or] at hvalid
    split
    · exact ⟨_,rfl⟩
    · rename_i hfresh
      exact absurd ⟨hvalid.1,hvalid.2,hfresh⟩ h

theorem writes_not_attempted (h : ¬Attempted user req db) : releaseWrites user req now db = [] := by
  apply written_unattempted
  by_contra hno
  simp only [not_or, not_not] at hno
  exact h ⟨hno.1,hno.2.1,hno.2.2⟩

theorem writes_attempted (h : Attempted user req db) : releaseWrites user req now db =
    match releaseLeases user.id now req.leaseIds db with
    | none => []
    | some _ => loopRows user.id now req.leaseIds db :=
  written_release (fun hor => hor.elim h.nonempty h.present) h.fresh

/-- What a request saves that stops at an id of another. -/
theorem mem_writes_stopped (h : Attempted user req db) {ls : List Lease} {id : Uuid}
    (hs : StopsAfter user.id now db req.leaseIds ls id) (row : Row) :
    row ∈ releaseWrites user req now db ↔
      (∃ l ∈ ls, row = .lease l.leaseId ∧ l.endedAt = none) ∨
      ∃ l ∈ ls, row = .node l.deviceId ∧
        ∃ n ∈ db.nodes, n.deviceId = l.deviceId ∧ n.blocked = false := by
  obtain ⟨db', -, hloop⟩ := releaseLeases_stops hs
  rw [writes_attempted h, hloop]
  exact mem_stoppedRows hs row

theorem release_raises (h : Attempted user req db)
    (hloop : releaseLeases user.id now req.leaseIds db = none) :
    releaseLease user req now db = answer db serverError := by
  simp [releaseLease, h.nonempty, h.present, h.fresh, hloop]

theorem release_stops (h : Attempted user req db) {ls : List Lease} {ref : LeaseRef}
    (hloop : releaseLeases user.id now req.leaseIds db = some ⟨db',ls,some ref⟩) :
    releaseLease user req now db =
      answer db' (errorResponse "NOT_FOUND" "lease not found" (.lease ref) 404) := by
  simp [releaseLease, h.nonempty, h.present, h.fresh, hloop]

/-- A fresh key is still free when the answer is stored under it. -/
theorem remember_fresh {scope : Scope} {key : Option String} {body : Body} {sends : List Send}
    (hkeys : db'.idempotencyKeys = db.idempotencyKeys)
    (h : existing db user scope key = none) :
    (remember db' sends user scope key body).response = ok body ∧
      (remember db' sends user scope key body).sends = sends := by
  cases key with
  | none => exact ⟨rfl,rfl⟩
  | some k =>
    have hfree : db'.idempotencyKeys.get? (user.id,scope,k) = none := by
      rw [hkeys]
      simpa [existing] using h
    have hk : (IdempotencyKey.id ⟨user.id,scope,k,body⟩) = (user.id,scope,k) := rfl
    simp [remember, Database.createIdempotencyKey, Table.insert?, hk, hfree]

theorem release_completes (h : Attempted user req db) {ls : List Lease}
    (hkeys : db'.idempotencyKeys = db.idempotencyKeys)
    (hloop : releaseLeases user.id now req.leaseIds db = some ⟨db',ls,none⟩) :
    (releaseLease user req now db).response = ok (.leases (ls.map serializeLease)) ∧
    (releaseLease user req now db).sends = ls.flatMap (fun l =>
      [leaseRelease l .userRelease,pushLeaseUpdate l]) ++ [pushPoolUpdate db'] := by
  have hvalid : ¬(req.leaseIds = [] ∨ .absent ∈ req.leaseIds) :=
    fun hor => hor.elim h.nonempty h.present
  simp only [releaseLease, if_neg hvalid, h.fresh, hloop]
  exact remember_fresh hkeys h.fresh

/-- Releasing leaves every row as it was exactly when there is nothing to end
and no node to mark. -/
theorem releases_sameRows_iff {reason : String} {t : Instant} {ls : List Lease}
    (h : Releases reason t ls db db') (hls : ∀ l ∈ ls, l ∈ db.leases) :
    SameRows db db' ↔ ∀ l ∈ ls, l.endedAt.isSome ∧
      ∀ n ∈ db.nodes, n.deviceId = l.deviceId → ¬Awake n := by
  have hleases : db'.leases = db.leases ↔
      ∀ l ∈ db.leases, l.leaseId ∈ ls.map Lease.leaseId → l.endedAt.isSome :=
    h.ends.leases_eq_iff
  have hnodes : db'.nodes = db.nodes ↔
      ∀ n ∈ db.nodes, ¬(n.deviceId ∈ ls.map Lease.deviceId ∧ Awake n) := by
    rw [Table.ext_iff, h.nodes, map_eq_self_iff]
    exact forall_congr' fun n => forall_congr' fun _ => releasingIn_eq_iff _ n
  constructor
  · intro hsame l hl
    refine ⟨hleases.mp hsame.leases l (hls l hl) (List.mem_map_of_mem hl),fun n hn hd ha => ?_⟩
    exact hnodes.mp hsame.nodes n hn ⟨hd ▸ List.mem_map_of_mem hl,ha⟩
  · intro hq
    have hended : ∀ l ∈ db.leases, l.leaseId ∈ ls.map Lease.leaseId → l.endedAt.isSome := by
      intro l hl hid
      obtain ⟨q, hqmem, hqid⟩ := List.mem_map.mp hid
      rw [← db.leases.key_injective (hls q hqmem) hl hqid]
      exact (hq q hqmem).1
    refine ⟨hnodes.mpr ?_,hleases.mpr hended,h.ends.records_eq hended⟩
    rintro n hn ⟨hd, ha⟩
    obtain ⟨l, hl, hld⟩ := List.mem_map.mp hd
    exact (hq l hl).2 n hn hld.symm ha

/-- What the early return commits: an id of another, after an id whose lease
had not ended or whose node is saved. -/
def PartialCommit (user : User) (req : ReleaseRequest) (now : Instant) (db : Database) : Prop :=
  Attempted user req db ∧ ∃ ls id, StopsAfter user.id now db req.leaseIds ls id ∧
    ∃ l ∈ ls, l.endedAt = none ∨ ∃ n ∈ db.nodes, n.deviceId = l.deviceId ∧ n.blocked = false

theorem stops_kept_iff (h : Attempted user req db) {ls : List Lease} {id : Uuid}
    (hs : StopsAfter user.id now db req.leaseIds ls id) :
    (releaseLease user req now db).response.success = false ∧
    (RowsKept db (releaseWrites user req now db) (releaseLease user req now db).db ↔
      ¬∃ l ∈ ls, l.endedAt = none ∨
        ∃ n ∈ db.nodes, n.deviceId = l.deviceId ∧ n.blocked = false) := by
  obtain ⟨db', hdb, hloop⟩ := releaseLeases_stops hs
  have hwritten := mem_writes_stopped h hs
  rw [release_stops h hloop]
  refine ⟨by simp [answer, errorResponse, Response.success],?_⟩
  constructor
  · rintro ⟨-, hnone⟩ ⟨l, hl, hlive | hnode⟩
    · have hsaved := (hwritten (.lease l.leaseId)).mpr (Or.inl ⟨l,hl,rfl,hlive⟩)
      rw [hnone] at hsaved
      cases hsaved
    · have hsaved := (hwritten (.node l.deviceId)).mpr (Or.inr ⟨l,hl,rfl,hnode⟩)
      rw [hnone] at hsaved
      cases hsaved
  · intro hno
    constructor
    · refine (releases_sameRows_iff hdb fun l hl => (hs.rows l hl).1).mpr fun l hl => ⟨?_,?_⟩
      · rw [Option.isSome_iff_ne_none]
        exact fun hlive => hno ⟨l,hl,Or.inl hlive⟩
      · exact fun n hn hd ha => hno ⟨l,hl,Or.inr ⟨n,hn,hd,ha.1⟩⟩
    · refine List.eq_nil_iff_forall_not_mem.mpr fun row hrow => ?_
      rcases (hwritten row).mp hrow with ⟨l, hl, -, hlive⟩ | ⟨l, hl, -, hnode⟩
      · exact hno ⟨l,hl,Or.inl hlive⟩
      · exact hno ⟨l,hl,Or.inr hnode⟩

/-- A release that is not answered with success has changed no row, unless the
early return committed a beginning of the list. -/
theorem failed_release_iff (user : User) (req : ReleaseRequest) (now : Instant) (db : Database) :
    ((releaseLease user req now db).response.success = false →
      RowsKept db (releaseWrites user req now db) (releaseLease user req now db).db) ↔
        ¬PartialCommit user req now db := by
  by_cases h : Attempted user req db
  · rcases releaseLeases_outcomes user.id now db req.leaseIds with hall | ⟨ls, id, hs⟩ | hnone
    · obtain ⟨ls, db', -, -, hdb, hloop⟩ := releaseLeases_complete hall
      have hkeys : db'.idempotencyKeys = db.idempotencyKeys := hdb.ends.idempotencyKeys
      have hdone := (release_completes h hkeys hloop).1
      refine iff_of_true (fun hfail => ?_) ?_
      · simp [hdone, ok, Response.success] at hfail
      · rintro ⟨-, ls', id, hs, -⟩
        obtain ⟨rest, hlist⟩ := hs.list
        obtain ⟨l, hl, hid, hu, -⟩ := hall (.uuid id) (by simp [hlist])
        have hfound := leaseOfUser_eq_some.mpr ⟨(db.leases.mem_iff_get? l).mp hl,hu⟩
        rw [← LeaseRef.uuid.inj hid, hs.unknown] at hfound
        cases hfound
    · constructor
      · rintro hkept ⟨-, ls', id', hs', hl⟩
        obtain ⟨hfail, hiff⟩ := stops_kept_iff h hs'
        exact hiff.mp (hkept hfail) hl
      · intro hno _
        exact (stops_kept_iff h hs).2.mpr fun hl => hno ⟨h,ls,id,hs,hl⟩
    · refine iff_of_true (fun _ => ?_) ?_
      · rw [release_raises h hnone]
        exact ⟨SameRows.refl db,by rw [writes_attempted h, hnone]⟩
      · rintro ⟨-, ls, id, hs, -⟩
        obtain ⟨db', -, hloop⟩ := releaseLeases_stops hs
        rw [hnone] at hloop
        cases hloop
  · obtain ⟨r, hr⟩ := @release_not_attempted _ _ now _ h
    refine iff_of_true (fun _ => ?_) (fun hp => h hp.1)
    rw [hr]
    exact ⟨SameRows.refl db,writes_not_attempted h⟩

/-- The first lease of the list is ended and billed, the second id is unknown. -/
theorem failed_release_commits :
    ServerReachable (run step rentedRun (initial 0)) ∧
    (releaseLease ann { leaseIds := [.uuid 1,.uuid 99] } 4
      (run step rentedRun (initial 0)).db).response.success = false ∧
    ¬RowsKept (run step rentedRun (initial 0)).db
      (releaseWrites ann { leaseIds := [.uuid 1,.uuid 99] } 4
        (run step rentedRun (initial 0)).db)
      (releaseLease ann { leaseIds := [.uuid 1,.uuid 99] } 4
        (run step rentedRun (initial 0)).db).db := by
  refine ⟨⟨0,rentedRun,rfl⟩,by decide,fun h => ?_⟩
  have hbilled : (releaseLease ann { leaseIds := [.uuid 1,.uuid 99] } 4
      (run step rentedRun (initial 0)).db).db.billingRecords ≠
        (run step rentedRun (initial 0)).db.billingRecords := by
    decide
  exact hbilled h.same.records

end CloudPlay.ReleaseAtomicity
