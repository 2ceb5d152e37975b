import CloudPlay.ReleaseAtomicity

/-!
# Releasing a lease that has ended

Ending guards itself, but both release paths go on to save the node and to
notify the device. A repeated release is therefore without effect only when
its request does not get that far.
-/

set_option autoImplicit false

namespace CloudPlay.ReleaseIdempotency
open KeyedTable ControlPlaneModels ControlPlaneSerializers ControlPlaneDatabase LeaseLifecycle
open ControlPlaneViews ControlPlaneServer ControlPlaneEffects LeaseEnding BatchRelease
open ControlPlanePrograms ReleaseAtomicity ExclusiveAssignment TransitionRun

def EndedBy (db' : Database) (q : Lease) : Prop :=
  q.endedAt = none ∧ ∃ q' ∈ db'.leases, q'.leaseId = q.leaseId ∧ q'.endedAt.isSome

/-- What a request that releases the ended lease `l` again leaves alone: a row that it saves
is changed. Rows of leases that the same request ends, and their nodes, are its own affair. -/
structure LeavesAlone (l : Lease) (db : Database) (written : List Row) (r : ViewResult) :
    Prop where
  nodes : ∀ n ∈ db.nodes, n ∉ r.db.nodes ∨ .node n.deviceId ∈ written →
    ∃ q ∈ db.leases, q.deviceId = n.deviceId ∧ EndedBy r.db q
  leases : ∀ q ∈ db.leases, q ∉ r.db.leases ∨ .lease q.leaseId ∈ written → EndedBy r.db q
  records : r.db.recordsOf l.leaseId = db.recordsOf l.leaseId
  silent : ∀ send ∈ r.sends, send.target = .group (.node l.deviceId) →
    ∀ d reason, send.message ≠ .leaseRelease l.leaseId d reason

/-- The rows that the forced release of a lease saves. -/
def adminWrites (user : User) (leaseId : Uuid) (now : Instant) (db : Database) : List Row :=
  (adminProgram user (forceReleaseLeaseProgram {} leaseId)).written ⟨db,now⟩

/-- The request reaches the save of an ended lease's node, or the notices: every id goes
through, or the loop stops after an ended lease whose node is not blocked and not also the
node of a lease ended before the stop. -/
def Disturbs (user : User) (req : ReleaseRequest) (now : Instant) (db : Database) : Prop :=
  Attempted user req db ∧
    ((∀ ref ∈ req.leaseIds, Releasable user.id now db ref) ∨
    ∃ ls id, StopsAfter user.id now db req.leaseIds ls id ∧
      ∃ l ∈ ls, ∃ n ∈ db.nodes, n.deviceId = l.deviceId ∧ n.blocked = false ∧
        ∀ q ∈ ls, q.deviceId = l.deviceId → q.endedAt.isSome)

variable {user : User} {req : ReleaseRequest} {now : Instant} {db db' : Database} {l : Lease}

theorem leavesAlone_answer (r : Response) : LeavesAlone l db [] (answer db r) := by
  refine ⟨fun n hn hno => ?_,fun q hq hno => ?_,rfl,by simp [answer]⟩
  · exact absurd hn (hno.resolve_right List.not_mem_nil)
  · exact absurd hq (hno.resolve_right List.not_mem_nil)

section Rows
variable {reason : String} {t : Instant} {ls : List Lease}

theorem endedBy_iff (h : Releases reason t ls db db') (hls : ∀ q ∈ ls, q ∈ db.leases)
    {q : Lease} (hq : q ∈ db.leases) : EndedBy db' q ↔ q.endedAt = none ∧ q ∈ ls := by
  have hmem : ∀ q', q' ∈ db'.leases ↔
      ∃ p ∈ db.leases, finishIn reason t (ls.map Lease.leaseId) db.timeZone p = q' := h.ends.mem
  constructor
  · rintro ⟨hlive, q', hq', hid, hend⟩
    refine ⟨hlive,?_⟩
    obtain ⟨p, hp, rfl⟩ := (hmem q').mp hq'
    rw [finishIn_leaseId] at hid
    rw [db.leases.key_injective hp hq hid] at hend
    by_contra hout
    have hids : q.leaseId ∉ ls.map Lease.leaseId := by
      intro hin
      obtain ⟨p', hp', hpid⟩ := List.mem_map.mp hin
      exact hout (db.leases.key_injective (hls p' hp') hq hpid ▸ hp')
    simp [finishIn, hids, hlive] at hend
  · rintro ⟨hlive, hin⟩
    refine ⟨hlive,_,(hmem _).mpr ⟨q,hq,rfl⟩,by simp,?_⟩
    simp only [finishIn, List.mem_map_of_mem hin, if_true]
    exact finish_endedAt reason t db.timeZone q

theorem releases_lease (h : Releases reason t ls db db') (hls : ∀ q ∈ ls, q ∈ db.leases)
    {q : Lease} (hq : q ∈ db.leases) (hno : q ∉ db'.leases) : EndedBy db' q := by
  rw [endedBy_iff h hls hq]
  have hmem : q ∈ db'.leases ↔
      ∃ p ∈ db.leases, finishIn reason t (ls.map Lease.leaseId) db.timeZone p = q :=
    h.ends.mem q
  have hmoved : finishIn reason t (ls.map Lease.leaseId) db.timeZone q ≠ q :=
    fun hf => hno (hmem.mpr ⟨q,hq,hf⟩)
  by_cases hin : q.leaseId ∈ ls.map Lease.leaseId
  · obtain ⟨p, hp, hpid⟩ := List.mem_map.mp hin
    rw [db.leases.key_injective (hls p hp) hq hpid] at hp
    refine ⟨?_,hp⟩
    cases he : q.endedAt with
    | none => rfl
    | some e =>
      refine absurd ?_ hmoved
      simp [finishIn, finish_ended reason t (l := q) (by simp [he])]
  · exact absurd (by simp [finishIn, hin]) hmoved

theorem releases_node (h : Releases reason t ls db db') {n : Node} (hn : n ∈ db.nodes) :
    n ∈ db'.nodes ↔ ¬(n.deviceId ∈ ls.map Lease.deviceId ∧ Awake n) := by
  rw [← releasingIn_eq_iff, Table.mem_rows, h.nodes, List.mem_map]
  constructor
  · rintro ⟨m, hm, hmn⟩
    have hd : m.deviceId = n.deviceId := by rw [← hmn, releasingIn_deviceId]
    rwa [db.nodes.key_injective hm hn hd] at hmn
  · exact fun hf => ⟨n,hn,hf⟩

theorem releases_records (h : Releases reason t ls db db') (hl : l ∈ db.leases)
    (hend : l.endedAt.isSome) : db'.recordsOf l.leaseId = db.recordsOf l.leaseId := by
  obtain ⟨new, hnew, hfrom⟩ := h.ends.records
  have hrecords : db'.billingRecords = db.billingRecords ++ new := hnew
  have hnone : new.filter (fun b => b.lease = l.leaseId) = [] := by
    refine List.filter_eq_nil_iff.mpr fun b hb hbl => ?_
    obtain ⟨q, hq, -, hlive, hbq, -⟩ := hfrom b hb
    have hid : q.leaseId = l.leaseId := hbq.symm.trans (of_decide_eq_true hbl)
    rw [db.leases.key_injective hq hl hid] at hlive
    simp [hlive] at hend
  rw [Database.recordsOf, hrecords, List.filter_append, hnone, List.append_nil]
  rfl

end Rows

theorem stops_leavesAlone_iff (h : Attempted user req db) (hl : l ∈ db.leases)
    (hend : l.endedAt.isSome) {ls : List Lease} {id : Uuid}
    (hs : StopsAfter user.id now db req.leaseIds ls id) :
    LeavesAlone l db (releaseWrites user req now db) (releaseLease user req now db) ↔
      ¬∃ l ∈ ls, ∃ n ∈ db.nodes, n.deviceId = l.deviceId ∧ n.blocked = false ∧
        ∀ q ∈ ls, q.deviceId = l.deviceId → q.endedAt.isSome := by
  obtain ⟨db', hdb, hloop⟩ := releaseLeases_stops hs
  have hls : ∀ q ∈ ls, q ∈ db.leases := fun q hq => (hs.rows q hq).1
  have hwritten := mem_writes_stopped h hs
  rw [release_stops h hloop]
  constructor
  · rintro halone ⟨p, hp, n, hn, hd, hb, hquiet⟩
    have hsaved := (hwritten (.node p.deviceId)).mpr (Or.inr ⟨p,hp,rfl,n,hn,hd,hb⟩)
    obtain ⟨q, hq, hqd, hby⟩ := halone.nodes n hn (Or.inr (by rwa [hd]))
    obtain ⟨hlive, hin⟩ := (endedBy_iff hdb hls hq).mp hby
    have hended := hquiet q hin (hqd.trans hd)
    simp [hlive] at hended
  · intro hno
    refine ⟨fun n hn hchanged => ?_,fun q hq hchanged => ?_,releases_records hdb hl hend,
      by simp [answer]⟩
    · obtain ⟨p, hp, hpd, hb⟩ : ∃ p ∈ ls, p.deviceId = n.deviceId ∧ n.blocked = false := by
        rcases hchanged with hgone | hsaved
        · change n ∉ db'.nodes at hgone
          rw [releases_node hdb hn, not_not] at hgone
          obtain ⟨p, hp, hpd⟩ := List.mem_map.mp hgone.1
          exact ⟨p,hp,hpd,hgone.2.1⟩
        · rcases (hwritten _).mp hsaved with ⟨p, -, hrow, -⟩ | ⟨p, hp, hrow, m, hm, hmd, hb⟩
          · cases hrow
          · have hd : p.deviceId = n.deviceId := (Row.node.inj hrow).symm
            rw [db.nodes.key_injective hm hn (hmd.trans hd)] at hb
            exact ⟨p,hp,hd,hb⟩
      by_contra hby
      refine hno ⟨p,hp,n,hn,hpd.symm,hb,fun q hq hqd => ?_⟩
      by_contra hlive
      rw [Option.not_isSome_iff_eq_none] at hlive
      exact hby ⟨q,hls q hq,hqd.trans hpd,(endedBy_iff hdb hls (hls q hq)).mpr ⟨hlive,hq⟩⟩
    · rcases hchanged with hgone | hsaved
      · exact releases_lease hdb hls hq hgone
      · rcases (hwritten _).mp hsaved with ⟨p, hp, hrow, hlive⟩ | ⟨p, -, hrow, -⟩
        · obtain rfl := db.leases.key_injective hq (hls p hp) (Row.lease.inj hrow)
          exact (endedBy_iff hdb hls hq).mpr ⟨hlive,hp⟩
        · cases hrow

/-- When every id goes through, each of them is announced to its device. -/
theorem complete_announces (h : Attempted user req db) (hl : l ∈ db.leases)
    (hin : .uuid l.leaseId ∈ req.leaseIds)
    (hall : ∀ ref ∈ req.leaseIds, Releasable user.id now db ref) :
    ¬LeavesAlone l db (releaseWrites user req now db) (releaseLease user req now db) := by
  intro halone
  obtain ⟨ls, db', hlist, hls, hdb, hloop⟩ := releaseLeases_complete hall
  have hkeys : db'.idempotencyKeys = db.idempotencyKeys := hdb.ends.idempotencyKeys
  have hsends := (release_completes h hkeys hloop).2
  have hmem : l ∈ ls := by
    rw [hlist, refs, List.mem_map] at hin
    obtain ⟨q, hq, hid⟩ := hin
    exact db.leases.key_injective (hls q hq).1 hl (LeaseRef.uuid.inj hid) ▸ hq
  refine halone.silent (leaseRelease (finish EndReason.userRelease.value now db.timeZone l)
    .userRelease) ?_ ?_ l.deviceId EndReason.userRelease.value ?_
  · rw [hsends]
    refine List.mem_append_left _ (List.mem_flatMap.mpr ⟨_,List.mem_map_of_mem hmem,?_⟩)
    exact List.mem_cons_self
  · simp [leaseRelease]
  · simp [leaseRelease]

theorem admin_announces (u : User) (hl : l ∈ db.leases) (hend : l.endedAt.isSome) :
    LeavesAlone l db (adminWrites u l.leaseId now db)
        (adminOnly u db (adminForceReleaseLease l.leaseId now db)) ↔ u.isStaff = false := by
  rcases adminOnly_cases u db (adminForceReleaseLease l.leaseId now db) with
    ⟨hu, h⟩ | ⟨hu, hdb, hsends⟩
  · refine iff_of_false (fun halone => ?_) (by simp [hu])
    rw [h] at halone
    refine halone.silent (leaseRelease l .adminForceRelease) ?_ rfl l.deviceId
      EndReason.adminForceRelease.value rfl
    simp [adminForceReleaseLease, (db.leases.mem_iff_get? l).mp hl,
      endLease_ended EndReason.adminForceRelease.value now l db hend]
  · refine iff_of_true ?_ hu
    have hwritten : adminWrites u l.leaseId now db = [] := by
      simp only [adminWrites, adminProgram, hu, Bool.false_eq_true, if_false]
      rfl
    rw [hwritten]
    refine ⟨fun n hn hno => ?_,fun q hq hno => ?_,by rw [hdb],by simp [hsends]⟩
    · exact absurd hn (hdb ▸ hno.resolve_right List.not_mem_nil)
    · exact absurd hq (hdb ▸ hno.resolve_right List.not_mem_nil)

/-- Releasing an ended lease again is without effect on others exactly when the
user's request does not disturb, and by an administrator never. -/
theorem repeated_release_iff (hl : l ∈ db.leases) (hend : l.endedAt.isSome)
    (hin : .uuid l.leaseId ∈ req.leaseIds) :
    (LeavesAlone l db (releaseWrites user req now db) (releaseLease user req now db) ↔
      ¬Disturbs user req now db) ∧
    ∀ u : User, LeavesAlone l db (adminWrites u l.leaseId now db)
        (adminOnly u db (adminForceReleaseLease l.leaseId now db)) ↔ u.isStaff = false := by
  refine ⟨?_,fun u => admin_announces u hl hend⟩
  by_cases h : Attempted user req db
  · rcases releaseLeases_outcomes user.id now db req.leaseIds with hall | ⟨ls, id, hs⟩ | hnone
    · exact iff_of_false (complete_announces h hl hin hall) (fun hno => hno ⟨h,Or.inl hall⟩)
    · constructor
      · rintro halone ⟨-, hall | ⟨ls', id', hs', hquiet⟩⟩
        · exact complete_announces h hl hin hall halone
        · exact (stops_leavesAlone_iff h hl hend hs').mp halone hquiet
      · intro hno
        exact (stops_leavesAlone_iff h hl hend hs).mpr fun hquiet =>
          hno ⟨h,Or.inr ⟨ls,id,hs,hquiet⟩⟩
    · rw [release_raises h hnone, writes_attempted h, hnone]
      refine iff_of_true (leavesAlone_answer _) ?_
      rintro ⟨-, hall | ⟨ls, id, hs, -⟩⟩
      · obtain ⟨_, _, -, -, -, hloop⟩ := releaseLeases_complete hall
        rw [hnone] at hloop
        cases hloop
      · obtain ⟨_, -, hloop⟩ := releaseLeases_stops hs
        rw [hnone] at hloop
        cases hloop
  · obtain ⟨r, hr⟩ := @release_not_attempted _ _ now _ h
    rw [hr, writes_not_attempted h]
    exact iff_of_true (leavesAlone_answer r) (fun hd => h hd.1)

/-- A customer releases the lease under an idempotency key. -/
def keyedRelease : ReleaseRequest := { leaseIds := [.uuid 1], clientRequestId := some "k" }

def releasedRun : List Event := rentedRun ++ [.release ann keyedRelease 4]

/-- The retry under the same key is answered from the table. -/
theorem keyed_retry_leavesAlone : ∃ l ∈ (run step releasedRun (initial 0)).db.leases,
    l.leaseId = 1 ∧ LeavesAlone l (run step releasedRun (initial 0)).db
      (releaseWrites ann keyedRelease 8 (run step releasedRun (initial 0)).db)
      (releaseLease ann keyedRelease 8 (run step releasedRun (initial 0)).db) := by
  obtain ⟨l, hl, hid, hend⟩ : ∃ l ∈ (run step releasedRun (initial 0)).db.leases.rows,
      l.leaseId = 1 ∧ l.endedAt.isSome := by decide
  have hstored : (existing (run step releasedRun (initial 0)).db ann .release
      keyedRelease.clientRequestId).isSome := by decide
  refine ⟨l,hl,hid,((repeated_release_iff hl hend (hid ▸ List.mem_singleton.mpr rfl)).1).mpr ?_⟩
  rintro ⟨⟨-, -, hfresh⟩, -⟩
  rw [hfresh] at hstored
  cases hstored

/-- The lease is ended by the administrator, and the node rented out again. -/
def rentedAgainRun : List Event :=
  rentedRun ++ [.adminForceReleaseLease admin 1 4,
    .receive "c1" (.nodeHello "cn" "a" "1.0" none) 5,
    rentOne bob 6 2 "t2"]

/-- The first customer's release then takes the node from the second. -/
theorem late_release_disturbs :
    ServerReachable (run step rentedAgainRun (initial 0)) ∧
    (∃ l ∈ (run step rentedAgainRun (initial 0)).db.leases, l.leaseId = 1 ∧ l.endedAt.isSome ∧
      ¬LeavesAlone l (run step rentedAgainRun (initial 0)).db
        (releaseWrites ann { leaseIds := [.uuid 1] } 8 (run step rentedAgainRun (initial 0)).db)
        (releaseLease ann { leaseIds := [.uuid 1] } 8
          (run step rentedAgainRun (initial 0)).db)) ∧
    (run step rentedAgainRun (initial 0)).db.nodes.rows.map Node.status = [.assigned] ∧
    (releaseLease ann { leaseIds := [.uuid 1] } 8
      (run step rentedAgainRun (initial 0)).db).db.nodes.rows.map Node.status = [.releasing] := by
  refine ⟨⟨0,rentedAgainRun,rfl⟩,?_,by decide,by decide⟩
  obtain ⟨l, hl, hid, hu, hend⟩ : ∃ l ∈ (run step rentedAgainRun (initial 0)).db.leases.rows,
      l.leaseId = 1 ∧ l.user = ann.id ∧ l.endedAt.isSome := by decide
  have hin : LeaseRef.uuid l.leaseId ∈ ([.uuid 1] : List LeaseRef) := by simp [hid]
  refine ⟨l,hl,hid,hend,complete_announces ⟨by simp,by simp,rfl⟩ hl hin fun ref href => ?_⟩
  rw [List.mem_singleton.mp href, ← hid]
  exact ⟨l,hl,rfl,hu,Or.inl hend⟩

end CloudPlay.ReleaseIdempotency
