import CloudPlay.EndedTerminal
import CloudPlay.NodeNotices
import CloudPlay.ReleaseAtomicity

/-!
# What the server tells a user about a change of a lease

Every write to a lease is followed by a `lease_update` to its user with the
row as written, and answers to rentals and releases carry the rows too. Two
writes are not announced: a release that stops at an unknown id, and the rows
that go with a deleted node.
-/

set_option autoImplicit false

namespace CloudPlay.LeaseAnnouncements
open KeyedTable ControlPlaneModels ControlPlaneSerializers ControlPlaneDatabase LeaseLifecycle
open ControlPlaneViews ControlPlaneConsumer ControlPlaneServer ControlPlaneEffects LeaseEnding
open ExclusiveAssignment EndedTerminal NodeNotices

/-- A lease as its user sees it. -/
def seen (u : UserId) (db : Database) (id : Uuid) : Option LeaseData :=
  ((db.leases.get? id).filter (fun l => l.user = u)).map serializeLease

def pushed (u : UserId) : Send → Option LeaseData
  | ⟨.group (.user v),.leaseUpdate l⟩ => if v = u then some l else none
  | _ => none

/-- The `lease_update` messages for the group of the user. -/
def pushes (u : UserId) (sends : List Send) : List LeaseData := sends.filterMap (pushed u)

theorem mem_pushes (u : UserId) (sends : List Send) (p : LeaseData) :
    p ∈ pushes u sends ↔ ⟨.group (.user u),.leaseUpdate p⟩ ∈ sends := by
  rw [pushes, List.mem_filterMap]
  constructor
  · rintro ⟨send, hs, hp⟩
    unfold pushed at hp
    split at hp
    · split at hp
      · rename_i hu
        rw [hu, Option.some.inj hp] at hs
        exact hs
      · cases hp
    · cases hp
  · intro h
    exact ⟨_,h,if_pos rfl⟩

theorem pushes_append (u : UserId) (sends rest : List Send) :
    pushes u (sends ++ rest) = pushes u sends ++ pushes u rest := List.filterMap_append

theorem pushes_poolUpdate (u : UserId) (db : Database) : pushes u [pushPoolUpdate db] = [] := rfl

/-- The messages that tell of rows, with or without a notice to the node. -/
theorem mem_pushes_updates (u : UserId) (ls : List Lease) (db : Database) (p : LeaseData) :
    p ∈ pushes u (ls.map pushLeaseUpdate ++ [pushPoolUpdate db]) ↔
      ∃ l ∈ ls, l.user = u ∧ p = serializeLease l := by
  rw [pushes_append, pushes_poolUpdate, List.append_nil, mem_pushes, List.mem_map]
  refine exists_congr fun l => and_congr_right fun _ => ?_
  simp only [pushLeaseUpdate, Send.mk.injEq, Target.group.injEq, Group.user.injEq,
    Message.leaseUpdate.injEq]
  exact and_congr_right fun _ => eq_comm

theorem mem_pushes_notices (u : UserId) (ls : List Lease) (notice : Lease → Send) (db : Database)
    (hn : ∀ l, pushed u (notice l) = none) (p : LeaseData) :
    p ∈ pushes u (ls.flatMap (fun l => [notice l,pushLeaseUpdate l]) ++ [pushPoolUpdate db]) ↔
      ∃ l ∈ ls, l.user = u ∧ p = serializeLease l := by
  rw [← mem_pushes_updates u ls db]
  have hsame : pushes u (ls.flatMap (fun l => [notice l,pushLeaseUpdate l])) =
      pushes u (ls.map pushLeaseUpdate) := by
    induction ls with
    | nil => rfl
    | cons l ls ih =>
      have hone : pushes u [notice l,pushLeaseUpdate l] = pushes u [pushLeaseUpdate l] := by
        rw [pushes, List.filterMap_cons, hn]
        rfl
      rw [List.flatMap_cons, pushes_append, ih, hone, ← pushes_append]
      rfl
  rw [pushes_append, hsame, ← pushes_append]

/-- The rows `ls` are those that may have been written, as they are now. -/
structure Wrote (db db' : Database) (ls : List Lease) : Prop where
  rows : ∀ l ∈ ls, l ∈ db'.leases
  others : ∀ id, id ∉ ls.map Lease.leaseId → db'.leases.get? id = db.leases.get? id
  users : ∀ l ∈ ls, ∀ q ∈ db.leases.get? l.leaseId, q.user = l.user

/-- Every change of a lease of the user is among the messages, and every
message carries the lease as it is now. -/
structure Announced (u : UserId) (db db' : Database) (told : List LeaseData) : Prop where
  current : ∀ l ∈ told, seen u db' l.leaseId = some l
  changes : ∀ id, seen u db' id ≠ seen u db id → ∃ l ∈ told, l.leaseId = id

section Writing
variable {db db' db'' : Database} {ls ls' : List Lease}

theorem wrote_nothing (h : db'.leases = db.leases) : Wrote db db' [] where
  rows := fun _ hl => by cases hl
  others := fun id _ => by rw [h]
  users := fun _ hl => by cases hl

theorem Wrote.append (h : Wrote db db' ls) (h' : Wrote db' db'' ls')
    (hkept : ∀ l ∈ ls, l ∈ db''.leases) : Wrote db db'' (ls ++ ls') where
  rows := by
    intro l hl
    rcases List.mem_append.mp hl with hl | hl
    · exact hkept l hl
    · exact h'.rows l hl
  others := by
    intro id hid
    rw [List.map_append, List.mem_append, not_or] at hid
    rw [h'.others id hid.2, h.others id hid.1]
  users := by
    intro l hl q hq
    rcases List.mem_append.mp hl with hl | hl
    · exact h.users l hl q hq
    · by_cases hid : l.leaseId ∈ ls.map Lease.leaseId
      · obtain ⟨p, hp, hpid⟩ := List.mem_map.mp hid
        have hrow := (db'.leases.mem_iff_get? p).mp (h.rows p hp)
        rw [hpid] at hrow
        rw [h.users p hp q (hpid ▸ hq)]
        exact h'.users l hl p hrow
      · exact h'.users l hl q (by rw [h.others l.leaseId hid]; exact hq)

theorem Wrote.leases_right (h : Wrote db db' ls) (he : db''.leases = db'.leases) :
    Wrote db db'' ls :=
  ⟨fun l hl => he ▸ h.rows l hl,fun id hid => by rw [he]; exact h.others id hid,h.users⟩

theorem wrote_row {id : Uuid} {f : Lease → Lease} (hf : ∀ l, (f l).leaseId = l.leaseId) {l : Lease}
    (hl : db.leases.get? id = some l) (hu : (f l).user = l.user) :
    Wrote db (db.updateLease id f hf) [f l] where
  rows := by
    intro q hq
    rw [List.mem_singleton.mp hq, Database.updateLease_leases, Table.mem_modify]
    exact ⟨l,Table.get?_mem hl,by rw [if_pos (Table.get?_key hl)]⟩
  others := by
    intro i hi
    rw [List.map_singleton, List.mem_singleton, hf, Table.get?_key hl] at hi
    rw [Database.updateLease_leases, Table.get?_modify_ne _ _ _ hi]
  users := by
    intro q hq p hp
    rw [List.mem_singleton.mp hq, hf, Table.get?_key hl] at hp
    rw [List.mem_singleton.mp hq, hu, Option.some.inj (hl.symm.trans hp)]

theorem wrote_ends {reason : String} {t : Instant} {qs : List Lease}
    (h : Ends reason t (qs.map Lease.leaseId) db db') (hqs : ∀ q ∈ qs, q ∈ db.leases) :
    Wrote db db' (qs.map (finish reason t db.timeZone)) where
  rows := by
    intro l hl
    obtain ⟨q, hq, rfl⟩ := List.mem_map.mp hl
    exact (h.mem _).mpr ⟨q,hqs q hq,if_pos (List.mem_map_of_mem hq)⟩
  others := by
    intro id hid
    have hids : (qs.map (finish reason t db.timeZone)).map Lease.leaseId =
        qs.map Lease.leaseId := by simp
    rw [hids] at hid
    rw [h.get?]
    cases hq : db.leases.get? id with
    | none => rfl
    | some q =>
      rw [Option.map_some, finishIn, if_neg]
      rwa [Table.get?_key hq]
  users := by
    intro l hl p hp
    obtain ⟨q, hq, rfl⟩ := List.mem_map.mp hl
    rw [finish_leaseId, (db.leases.mem_iff_get? q).mp (hqs q hq)] at hp
    rw [finish_user, Option.some.inj hp]

theorem seen_row {u : UserId} {l : Lease} (hl : l ∈ db.leases) (hu : l.user = u) :
    seen u db l.leaseId = some (serializeLease l) := by
  rw [seen, (db.leases.mem_iff_get? l).mp hl, Option.filter_some, if_pos (by simpa using hu)]
  rfl

theorem seen_congr {u : UserId} {id : Uuid} (h : db'.leases.get? id = db.leases.get? id) :
    seen u db' id = seen u db id := by
  rw [seen, h, seen]

/-- What is told about the written rows tells every change. -/
theorem Wrote.announced (h : Wrote db db' ls) {u : UserId} {told : List LeaseData}
    (ht : ∀ p, p ∈ told ↔ ∃ l ∈ ls, l.user = u ∧ p = serializeLease l) :
    Announced u db db' told where
  current := by
    intro p hp
    obtain ⟨l, hl, hu, rfl⟩ := (ht p).mp hp
    exact seen_row (h.rows l hl) hu
  changes := by
    intro id hne
    by_cases hid : id ∈ ls.map Lease.leaseId
    · obtain ⟨l, hl, rfl⟩ := List.mem_map.mp hid
      by_cases hu : l.user = u
      · exact ⟨serializeLease l,(ht _).mpr ⟨l,hl,hu,rfl⟩,rfl⟩
      · have hafter : seen u db' l.leaseId = none := by
          rw [seen, (db'.leases.mem_iff_get? l).mp (h.rows l hl)]
          simp [Option.filter, hu]
        have hbefore : seen u db l.leaseId = none := by
          rw [seen]
          cases hq : db.leases.get? l.leaseId with
          | none => rfl
          | some q =>
            have hqu := h.users l hl q hq
            simp [Option.filter, hqu, hu]
        exact absurd (hafter.trans hbefore.symm) hne
    · exact absurd (seen_congr (h.others id hid)) hne

theorem rentNodes_wrote {user : UserId} {unit : BillingUnit} {price : Money} {now : Instant}
    {draw : ℕ → Uuid × String} {i : ℕ} {nodes : List Node}
    (h : rentNodes user unit price now draw i nodes db = some (db',ls)) :
    Wrote db db' ls ∧ ∀ l ∈ ls, l.user = user := by
  induction nodes generalizing i db ls with
  | nil =>
    simp only [rentNodes, Option.some.injEq, Prod.mk.injEq] at h
    obtain ⟨rfl, rfl⟩ := h
    exact ⟨wrote_nothing rfl,by simp⟩
  | cons n nodes ih =>
    simp only [rentNodes, Option.bind_eq_bind, Option.bind_eq_some_iff, Option.pure_def,
      Option.some.injEq, Prod.mk.injEq, Prod.exists] at h
    obtain ⟨db₁, h₁, db₂, ls₂, h₂, rfl, rfl⟩ := h
    obtain ⟨hrest, husers⟩ := ih h₂
    simp only [Database.createLease, Option.map_eq_some_iff] at h₁
    obtain ⟨leases, hl, rfl⟩ := h₁
    obtain ⟨hk, rfl⟩ := Table.insert?_eq_some.mp hl
    have hfirst : Wrote db
        (Database.setNodeStatus { db with leases := db.leases.insert _ hk } n.deviceId .assigned)
        [newLease user unit price now (draw i) n] := by
      constructor
      · intro l hl
        exact (Table.mem_insert _ _ _ hk).mpr (Or.inr (List.mem_singleton.mp hl))
      · intro id hid
        rw [List.map_singleton, List.mem_singleton] at hid
        exact (Table.get?_insert _ _ hk id).trans (if_neg hid)
      · intro l hl q hq
        rw [List.mem_singleton.mp hl, hk] at hq
        cases hq
    refine ⟨hfirst.append hrest (fun l hl => (rentNodes_leases h₂).2 l (hfirst.rows l hl)),?_⟩
    intro l hl
    rcases List.mem_cons.mp hl with rfl | hl
    · rfl
    · exact husers l hl

theorem endLease_wrote {reason : String} {t : Instant} {l l' : Lease} (hl : l ∈ db.leases)
    (h : endLease reason t l db = some (l',db')) :
    Wrote db db' [l'] ∧ KeepsEnded db db' ∧ l'.endedAt.isSome ∧ l'.user = l.user := by
  obtain ⟨he, rfl⟩ := endLease_ends hl h
  refine ⟨?_,ends_keepsEnded he,finish_endedAt reason t db.timeZone l,finish_user reason t _ l⟩
  exact @wrote_ends db db' reason t [l] he (by simpa using hl)

theorem releaseLeases_wrote {user : UserId} {t : Instant} {refs : List LeaseRef}
    {out : ReleaseOutcome} (h : releaseLeases user t refs db = some out) :
    Wrote db out.db out.leases ∧ KeepsEnded db out.db ∧ ∀ l ∈ out.leases, l.user = user := by
  induction refs generalizing db out with
  | nil =>
    simp only [releaseLeases, Option.some.injEq] at h
    subst h
    exact ⟨wrote_nothing rfl,keepsEnded_refl _,by simp⟩
  | cons ref refs ih =>
    cases ref with
    | absent => simp [releaseLeases] at h
    | malformed => simp [releaseLeases] at h
    | uuid id =>
      simp only [releaseLeases] at h
      cases hl : leaseOfUser db user id with
      | none =>
        simp only [hl, Option.some.injEq] at h
        subst h
        exact ⟨wrote_nothing rfl,keepsEnded_refl _,by simp⟩
      | some l =>
        simp only [hl, Option.bind_eq_bind, Option.bind_eq_some_iff, Option.pure_def,
          Option.some.injEq, Prod.exists] at h
        obtain ⟨l', db₁, he, out', hrest, rfl⟩ := h
        obtain ⟨hrow, hu⟩ := leaseOfUser_eq_some.mp hl
        obtain ⟨hw, hk, hend, husr⟩ := endLease_wrote (Table.get?_mem hrow) he
        obtain ⟨hw', hk', hu'⟩ := ih hrest
        have hset := setReleasing_leases db₁ l.deviceId
        have hkeep : KeepsEnded db₁ out'.db := (keepsEnded_of_leases hset).trans hk'
        refine ⟨(hw.leases_right hset).append hw' ?_,hk.trans hkeep,?_⟩
        · intro q hq
          rw [List.mem_singleton.mp hq]
          exact hkeep l' (hw.rows l' (List.mem_singleton_self _)) hend
        · intro q hq
          rcases List.mem_cons.mp hq with rfl | hq
          · exact husr.trans hu
          · exact hu' q hq

theorem markOffline_wrote {d reason : String} {t : Instant} {sends : List Send}
    (h : markNodeOfflineAndEndLeases d reason t db = some (db',sends)) :
    ∃ ls, Wrote db db' ls ∧ (∀ l ∈ ls, l.endedAt.isSome) ∧
      (sends = [] ∧ ls = [] ∨ sends = ls.map pushLeaseUpdate ++ [pushPoolUpdate db']) := by
  rcases markOffline_cases h with ⟨-, rfl, rfl⟩ | ⟨n, -, he, hs⟩
  · exact ⟨[],wrote_nothing rfl,by simp,Or.inl ⟨rfl,rfl⟩⟩
  · refine ⟨(db.leasesOf d Lease.engaged).map (finish reason t db.timeZone),?_,?_,Or.inr ?_⟩
    · have hw := wrote_ends he (fun q hq => leasesOf_rows d Lease.engaged q hq)
      exact ⟨hw.rows,hw.others,hw.users⟩
    · intro l hl
      obtain ⟨q, -, rfl⟩ := List.mem_map.mp hl
      exact finish_endedAt reason t _ q
    · rw [hs, List.map_map]
      rfl

theorem takeDown_wrote {now : Instant} (nodes : List Node) (db : Database) :
    ∃ ls, Wrote db (takeDown now nodes db).1 ls ∧ KeepsEnded db (takeDown now nodes db).1 ∧
      ∀ u p, p ∈ pushes u (takeDown now nodes db).2 ↔
        ∃ l ∈ ls, l.user = u ∧ p = serializeLease l := by
  induction nodes generalizing db with
  | nil => exact ⟨[],wrote_nothing rfl,keepsEnded_refl db,by simp [takeDown, pushes]⟩
  | cons n nodes ih =>
    unfold takeDown
    split
    · exact ⟨[],wrote_nothing rfl,keepsEnded_refl db,by simp [pushes]⟩
    · rename_i db₁ sends h
      obtain ⟨ls, hw, hend, hs⟩ := markOffline_wrote h
      obtain ⟨ls', hw', hk', hp'⟩ := ih db₁
      refine ⟨ls ++ ls',hw.append hw' ?_,(markOffline_keepsEnded h).trans hk',?_⟩
      · exact fun l hl => hk' l (hw.rows l hl) (hend l hl)
      · intro u p
        have hfirst : p ∈ pushes u sends ↔ ∃ l ∈ ls, l.user = u ∧ p = serializeLease l := by
          rcases hs with ⟨rfl, rfl⟩ | rfl
          · simp [pushes]
          · exact mem_pushes_updates u ls db₁ p
        rw [pushes_append, List.mem_append, hfirst, hp']
        simp [or_and_right, exists_or]

theorem quiet_announced {u : UserId} {sends : List Send} (hl : db'.leases = db.leases)
    (hs : ∀ send ∈ sends, ∀ l, send.message ≠ .leaseUpdate l) :
    Announced u db db' (pushes u sends) := by
  refine (wrote_nothing hl).announced fun p => ?_
  rw [mem_pushes]
  constructor
  · exact fun h => absurd rfl (hs _ h p)
  · rintro ⟨l, hl, -⟩
    cases hl

theorem answer_announced (u : UserId) (r : Response) :
    Announced u db (answer db r).db (pushes u (answer db r).sends) :=
  quiet_announced rfl (by simp [answer])

theorem admin_announced {u : UserId} {user : User} {view : ViewResult}
    (h : Announced u db view.db (pushes u view.sends)) :
    Announced u db (adminOnly user db view).db (pushes u (adminOnly user db view).sends) := by
  unfold adminOnly
  split
  · exact h
  · exact answer_announced u _

end Writing

section Views
variable (u : UserId)

theorem rentLease_announced (user : User) (req : RentRequest) (now : Instant)
    (draw : ℕ → Uuid × String) (db : Database) :
    Announced u db (rentLease user req now draw db).db
      (pushes u (rentLease user req now draw db).sends) := by
  unfold rentLease
  split
  · exact answer_announced u _
  · split
    · exact answer_announced u _
    · dsimp only
      split
      · exact answer_announced u _
      · split
        · exact answer_announced u _
        · rename_i db' ls h
          rw [remember_sends]
          refine ((rentNodes_wrote h).1.leases_right (remember_rows db' _ _ _ _ _).leases).announced
            (mem_pushes_notices u ls leaseAssigned db' (fun _ => rfl))

/-- Every id of the list names a lease of the user. -/
def Known (user : UserId) (refs : List LeaseRef) (db : Database) : Prop :=
  ∀ id, LeaseRef.uuid id ∈ refs → (leaseOfUser db user id).isSome

theorem releaseLeases_known {user : UserId} {t : Instant} {refs : List LeaseRef} {db : Database}
    {out : ReleaseOutcome} (hk : Known user refs db)
    (h : releaseLeases user t refs db = some out) : out.missing = none := by
  induction refs generalizing db out with
  | nil =>
    simp only [releaseLeases, Option.some.injEq] at h
    exact h ▸ rfl
  | cons ref refs ih =>
    cases ref with
    | absent => simp [releaseLeases] at h
    | malformed => simp [releaseLeases] at h
    | uuid id =>
      obtain ⟨l, hl⟩ := Option.isSome_iff_exists.mp (hk id List.mem_cons_self)
      simp only [releaseLeases, hl, Option.bind_eq_bind, Option.bind_eq_some_iff,
        Option.pure_def, Option.some.injEq, Prod.exists] at h
      obtain ⟨l', db₁, he, out', hrest, rfl⟩ := h
      have hends := (endLease_ends (Table.get?_mem (leaseOfUser_eq_some.mp hl).1) he).1
      have hrow' : ∀ i q, leaseOfUser db user i = some q →
          leaseOfUser (setReleasing db₁ l.deviceId) user i =
            some (finishIn EndReason.userRelease.value t [l.leaseId] db.timeZone q) := by
        intro i q hq
        obtain ⟨hrow, hu⟩ := leaseOfUser_eq_some.mp hq
        refine leaseOfUser_eq_some.mpr ⟨?_,by unfold finishIn; split <;> simp [hu]⟩
        rw [setReleasing_leases, hends.get?, hrow]
        rfl
      have hrest' : out'.missing = none := by
        refine ih (fun i hi => ?_) hrest
        obtain ⟨q, hq⟩ := Option.isSome_iff_exists.mp (hk i (List.mem_cons_of_mem _ hi))
        rw [hrow' i q hq]
        rfl
      exact hrest'

theorem releaseLease_announced (user : User) (req : ReleaseRequest) (now : Instant)
    (db : Database) (hk : user.id = u → Known u req.leaseIds db) :
    Announced u db (releaseLease user req now db).db
      (pushes u (releaseLease user req now db).sends) := by
  unfold releaseLease
  split
  · exact answer_announced u _
  · split
    · exact answer_announced u _
    · split
      · exact answer_announced u _
      · rename_i out h
        obtain ⟨hw, -, husers⟩ := releaseLeases_wrote h
        split
        · rename_i ref hmissing
          refine hw.announced fun p => ?_
          have hother : user.id ≠ u := by
            intro hu
            rw [releaseLeases_known (hu ▸ hk hu) h] at hmissing
            cases hmissing
          constructor
          · intro hp
            cases hp
          · rintro ⟨l, hl, hu, -⟩
            exact absurd ((husers l hl).symm.trans hu) hother
        · rw [remember_sends]
          exact (hw.leases_right (remember_rows out.db _ _ _ _ _).leases).announced
            (mem_pushes_notices u out.leases (fun l => leaseRelease l .userRelease) out.db
              (fun _ => rfl))

theorem adminForceReleaseLease_announced (id : Uuid) (now : Instant) (db : Database) :
    Announced u db (adminForceReleaseLease id now db).db
      (pushes u (adminForceReleaseLease id now db).sends) := by
  unfold adminForceReleaseLease
  split
  · exact answer_announced u _
  · rename_i l hl
    split
    · exact answer_announced u _
    · rename_i l' db' he
      have hw := (endLease_wrote (Table.get?_mem hl) he).1
      exact (hw.leases_right (setReleasing_leases db' l.deviceId)).announced
        (mem_pushes_notices u [l'] (fun l => leaseRelease l .adminForceRelease) _ (fun _ => rfl))

theorem adminForceReleaseNode_announced (d : String) (now : Instant) (db : Database) :
    Announced u db (adminForceReleaseNode d now db).db
      (pushes u (adminForceReleaseNode d now db).sends) := by
  unfold adminForceReleaseNode
  split
  · exact answer_announced u _
  · rename_i n hn
    split
    · exact answer_announced u _
    · rename_i ls db' he
      obtain ⟨hends, rfl⟩ := endLeasesOf_ends he
      have hw : Wrote db (db'.setNodeStatus d (forcedStatus n)) _ :=
        (wrote_ends hends (leasesOf_rows d Lease.unfinished)).leases_right rfl
      exact hw.announced
        (mem_pushes_notices u _ (fun l => leaseRelease l .adminForceRelease) _ (fun _ => rfl))

theorem adminDeleteNode_announced (d : String) (db : Database)
    (h : ∀ l ∈ db.leases, l.deviceId = d → l.user ≠ u) :
    Announced u db (adminDeleteNode d db).db (pushes u (adminDeleteNode d db).sends) := by
  unfold adminDeleteNode
  split
  · exact answer_announced u _
  · dsimp only
    split
    · exact answer_announced u _
    · have hsame : ∀ id, seen u (deleteNode (deleteLeasesOf db d) d) id = seen u db id := by
        intro id
        have hget : (deleteNode (deleteLeasesOf db d) d).leases.get? id =
            (db.leases.get? id).filter (fun l => l.deviceId ≠ d) :=
          Table.get?_filter db.leases _ id
        rw [seen, seen, hget]
        cases hl : db.leases.get? id with
        | none => rfl
        | some l =>
          by_cases hd : l.deviceId = d
          · have hu := h l (Table.get?_mem hl) hd
            simp [Option.filter, hd, hu]
          · simp [Option.filter, hd]
      constructor
      · exact fun p hp => by cases hp
      · exact fun id hne => absurd (hsame id) hne

theorem lease_written {db : Database} {id : Uuid} {f : Lease → Lease}
    (hf : ∀ l, (f l).leaseId = l.leaseId) {l : Lease} (hl : db.leases.get? id = some l)
    (hu : (f l).user = l.user) {db' : Database}
    (he : db'.leases = (db.updateLease id f hf).leases) {sends : List Send}
    (hs : ∀ p, p ∈ pushes u sends ↔ (f l).user = u ∧ p = serializeLease (f l)) :
    Announced u db db' (pushes u sends) := by
  refine ((wrote_row hf hl hu).leases_right he).announced fun p => ?_
  rw [hs]
  simp

theorem markLeaseReady_cases (id : Uuid) (d : String) (now : Instant) (db : Database) :
    markLeaseReady id d now db = (db,none) ∨ ∃ l, db.leases.get? id = some l ∧
      (markLeaseReady id d now db = (db,some l) ∨ markLeaseReady id d now db =
        ((db.updateLease id (readyLease now) (readyLease_leaseId now)).updateNode d
          (inUseNode now) (inUseNode_deviceId now),some (readyLease now l))) := by
  unfold markLeaseReady
  split
  · exact Or.inl rfl
  · rename_i l hl
    split
    · exact Or.inl rfl
    · refine Or.inr ⟨l,hl,?_⟩
      split
      · exact Or.inl rfl
      · exact Or.inr rfl

theorem handleLeaseReady_announced {m : ConnectionMeta} {ref : LeaseRef} {claimed : Option String}
    {now : Instant} {s : Server} {r : StepResult}
    (h : handleLeaseReady m ref claimed now s = some r) :
    Announced u s.db r.server.db (pushes u r.sends) := by
  have hpush : ∀ l db p, p ∈ pushes u [pushLeaseUpdate l,pushPoolUpdate db] ↔
      l.user = u ∧ p = serializeLease l := by
    intro l db p
    have hone := mem_pushes_updates u [l] db p
    simpa using hone
  unfold handleLeaseReady at h
  split at h
  · cases h
    exact quiet_announced rfl (by simp)
  · cases h
    exact quiet_announced rfl (by simp)
  · cases h
  · rename_i id d hd
    rcases markLeaseReady_cases id d now s.db with hm | ⟨l, hl, hm | hm⟩ <;>
      rw [hm] at h <;> cases h
    · exact quiet_announced rfl (by simp)
    · refine lease_written u (fun _ => rfl) hl rfl ?_ (hpush l s.db)
      exact ((Table.modify_eq_self_iff s.db.leases id (fun q => q) (fun _ => rfl)).mpr
        (fun _ _ _ => rfl)).symm
    · refine lease_written u (readyLease_leaseId now) hl rfl ?_ (hpush (readyLease now l) _)
      rfl

theorem handleRequestRemoteControlLease_announced {m : ConnectionMeta} {ref : LeaseRef}
    {settings : Fields} {s : Server} {r : StepResult}
    (h : handleRequestRemoteControlLease m ref settings s = some r) :
    Announced u s.db r.server.db (pushes u r.sends) := by
  unfold handleRequestRemoteControlLease at h
  split at h
  · cases h
    exact quiet_announced rfl (by simp [errorMessage])
  · cases h
  · rename_i id
    split at h
    · cases h
      exact quiet_announced rfl (by simp [errorMessage])
    · rename_i l hl
      simp only [authorizeLeaseStream, Option.filter_eq_some_iff] at hl
      split at h
      · cases h
        exact quiet_announced rfl (by simp [errorMessage])
      · split at h
        · cases h
          refine lease_written u activeLease_leaseId hl.1 rfl rfl fun p => ?_
          rw [mem_pushes]
          simp only [pushLeaseUpdate, forwardRequest, List.mem_cons, Send.mk.injEq,
            Target.group.injEq, Group.user.injEq, Message.leaseUpdate.injEq, reduceCtorEq,
            and_false, List.not_mem_nil, or_false]
          exact and_congr_left fun _ => eq_comm
        · cases h
          exact quiet_announced rfl (by simp [forwardRequest])

theorem handleMessage_announced {m : ConnectionMeta} {msg : ClientMessage} {now : Instant}
    {s : Server} {r : StepResult} (h : handleMessage m msg now s = some r) :
    Announced u s.db r.server.db (pushes u r.sends) := by
  unfold handleMessage at h
  split at h
  · cases h
    exact quiet_announced rfl (by simp)
  · cases h
    unfold handleUpdateDeviceInfo
    dsimp only
    split
    · exact quiet_announced rfl (by simp)
    · exact quiet_announced rfl (by simp [broadcastConnectedDevices])
  · cases h
    exact quiet_announced (by simp [updateNodeHello]) (by simp [pushPoolUpdate])
  · cases h
    exact quiet_announced rfl (by simp)
  · exact handleLeaseReady_announced u h
  · exact handleRequestRemoteControlLease_announced u h
  · cases h
    refine quiet_announced rfl fun send hs l => ?_
    rw [relay_sends send hs]
    exact Message.noConfusion
  · cases h
    refine quiet_announced rfl fun send hs l => ?_
    rw [relay_sends send hs]
    exact Message.noConfusion
  · cases h
    exact quiet_announced rfl (by simp)

theorem connect_announced (auth : WsAuth) (c : String) (now : Instant) (s : Server) :
    Announced u s.db (connect auth c now s).server.db (pushes u (connect auth c now s).sends) := by
  unfold connect
  split
  · split
    · exact quiet_announced rfl (by simp)
    · exact quiet_announced rfl (by simp)
  · split
    · exact quiet_announced rfl (by simp)
    · split
      · exact quiet_announced rfl (by simp)
      · exact quiet_announced (by simp [nodeConnected]) (by simp)

theorem disconnect_announced (c : String) (now : Instant) (s : Server) :
    Announced u s.db (disconnect c now s).server.db (pushes u (disconnect c now s).sends) := by
  unfold disconnect
  split
  · exact quiet_announced rfl (by simp)
  · dsimp only
    split
    · split
      · exact quiet_announced rfl (by simp)
      · rename_i db sends h
        obtain ⟨ls, hw, -, hs⟩ := markOffline_wrote h
        refine hw.announced fun p => ?_
        rcases hs with ⟨rfl, rfl⟩ | rfl
        · simp [pushes]
        · exact mem_pushes_updates u ls db p
    · exact quiet_announced rfl (by simp [broadcastConnectedDevices])

end Views

/-- The changes the event makes to leases of the user are announced. -/
def Announces (u : UserId) : Event → Server → Prop
  | .release user req _, s => user.id = u → Known u req.leaseIds s.db
  | .adminDeleteNode _ d, s => ∀ l ∈ s.db.leases, l.deviceId = d → l.user ≠ u
  | _, _ => True

/-- The user's view of an ended lease does not change again. -/
theorem seen_ended {u : UserId} {e : Event} {s : Server} (hg : Announces u e s)
    (hc : Consistent s.db) {id : Uuid} {p : LeaseData} (hp : seen u s.db id = some p)
    (hend : p.status = .ended) : seen u (step e s).db id = some p := by
  obtain ⟨l, hl, rfl⟩ := Option.map_eq_some_iff.mp hp
  obtain ⟨hrow, hu⟩ := Option.filter_eq_some_iff.mp hl
  have hmem : l ∈ s.db.leases := Table.get?_mem hrow
  have hkept : l ∈ (step e s).db.leases := by
    by_cases hdel : ∃ user d, e = .adminDeleteNode user d
    · obtain ⟨user, d, rfl⟩ := hdel
      have hother : l.deviceId ≠ d := fun hd => hg l hmem hd (by simpa using hu)
      change l ∈ (adminOnly user s.db (adminDeleteNode d s.db)).db.leases
      rcases adminOnly_cases user s.db (adminDeleteNode d s.db) with ⟨-, h⟩ | ⟨-, h, -⟩ <;> rw [h]
      · rcases adminDeleteNode_cases d s.db with h | ⟨-, h⟩ <;> rw [h]
        · exact hmem
        · exact (Table.mem_filter _ _ _).mpr ⟨hmem,by simpa using hother⟩
      · exact hmem
    · exact step_keepsEnded e s hc (fun user d h => hdel ⟨user,d,h⟩) l hmem
        ((hc l hmem).2.mpr hend)
  rw [← Table.get?_key hrow]
  exact seen_row hkept (by simpa using hu)

theorem handle_announced (u : UserId) (e : Event) (s : Server) (hg : Announces u e s) :
    Announced u s.db (step e s).db (pushes u (handle e s).sends) := by
  cases e with
  | rent user req now draw => exact rentLease_announced u user req now draw s.db
  | release user req now => exact releaseLease_announced u user req now s.db hg
  | leaseList user => exact quiet_announced rfl (by simp [handle, ofView, leaseList, answer])
  | billingInfo user =>
    exact quiet_announced (billingInfo_rows user s.db).leases
      (by simp [handle, ofView, billingInfo, answer])
  | poolNodes user region tier status =>
    exact quiet_announced rfl (by simp [handle, ofView, poolNodes, answer])
  | deviceToken d now =>
    simp only [step, handle, ofView, deviceToken]
    split <;> exact quiet_announced rfl (by simp [answer])
  | adminNodes user => exact admin_announced (quiet_announced rfl (by simp [adminNodes, answer]))
  | adminSetNodeState user d state =>
    refine admin_announced ?_
    unfold adminSetNodeState
    split
    · exact answer_announced u _
    · split
      · exact answer_announced u _
      · exact quiet_announced rfl (by simp [pushPoolUpdate])
  | adminForceReleaseLease user id now =>
    exact admin_announced (adminForceReleaseLease_announced u id now s.db)
  | adminForceReleaseNode user d now =>
    exact admin_announced (adminForceReleaseNode_announced u d now s.db)
  | adminRebootNode user d =>
    refine admin_announced ?_
    unfold adminRebootNode
    split
    · exact answer_announced u _
    · exact quiet_announced rfl (by simp)
  | adminDeleteNode user d => exact admin_announced (adminDeleteNode_announced u d s.db hg)
  | adminUpdateNode user d patch =>
    refine admin_announced ?_
    unfold adminUpdateNode
    split
    · exact answer_announced u _
    · split
      · exact answer_announced u _
      · exact quiet_announced rfl (by simp [pushPoolUpdate])
  | savePricePlan plan =>
    exact quiet_announced (savePricePlan_rows plan s.db).leases (by simp [handle])
  | connect auth c now => exact connect_announced u auth c now s
  | disconnect c now => exact disconnect_announced u c now s
  | receive c msg now =>
    simp only [step, handle]
    split
    · exact quiet_announced rfl (by simp)
    · rename_i m hm
      cases h : handleMessage m msg now s with
      | none => exact quiet_announced rfl (by simp)
      | some r => exact handleMessage_announced u h
  | checkHeartbeats timeout now =>
    obtain ⟨ls, hw, -, hs⟩ := @takeDown_wrote now (staleNodes s.db timeout now) s.db
    exact hw.announced (hs u)

/-- The answer to a rental or a release that is not a stored one. -/
def Fresh (u : UserId) : Event → Server → Prop
  | .rent user req _ _, s => user.id = u → existing s.db user .rent req.clientRequestId = none
  | .release user req _, s => user.id = u → existing s.db user .release req.clientRequestId = none
  | _, _ => True

section Answers
variable {user : User} {now : Instant} {db : Database} {ps : List LeaseData}

theorem rent_answer {req : RentRequest} {draw : ℕ → Uuid × String}
    (hfresh : existing db user .rent req.clientRequestId = none) {tokens : List (Uuid × String)}
    (h : (rentLease user req now draw db).response = ok (.rented ps tokens)) :
    ∀ p ∈ ps, seen user.id (rentLease user req now draw db).db p.leaseId = some p := by
  unfold rentLease at h ⊢
  split at h
  · cases h
  · rename_i hvalid
    rw [if_neg hvalid]
    simp only [hfresh] at h ⊢
    split at h
    · cases h
    · rename_i hmany
      rw [if_neg hmany]
      split at h
      · cases h
      · rename_i db' ls hr
        obtain ⟨hw, husers⟩ := rentNodes_wrote hr
        have hrows := (remember_rows db' (ls.flatMap (fun l => [leaseAssigned l,pushLeaseUpdate l]) ++
          [pushPoolUpdate db']) user .rent req.clientRequestId (.rented (ls.map serializeLease)
            (ls.map (fun l => (l.leaseId,l.leaseToken))))).leases
        have hbody : ps = ls.map serializeLease := by
          unfold remember at h
          split at h
          · cases h
            rfl
          · split at h <;> cases h
            rfl
        subst hbody
        intro p hp
        obtain ⟨l, hl, rfl⟩ := List.mem_map.mp hp
        exact seen_row (hrows ▸ hw.rows l hl) (husers l hl)

theorem release_answer {req : ReleaseRequest}
    (hfresh : existing db user .release req.clientRequestId = none)
    (h : (releaseLease user req now db).response = ok (.leases ps)) :
    ∀ p ∈ ps, seen user.id (releaseLease user req now db).db p.leaseId = some p := by
  unfold releaseLease at h ⊢
  split at h
  · cases h
  · rename_i hvalid
    rw [if_neg hvalid]
    simp only [hfresh] at h ⊢
    split at h
    · cases h
    · rename_i out hr
      obtain ⟨hw, -, husers⟩ := releaseLeases_wrote hr
      split at h
      · cases h
      · have hrows := (remember_rows out.db (out.leases.flatMap (fun l =>
          [leaseRelease l .userRelease,pushLeaseUpdate l]) ++ [pushPoolUpdate out.db]) user
            .release req.clientRequestId (.leases (out.leases.map serializeLease))).leases
        have hbody : ps = out.leases.map serializeLease := by
          unfold remember at h
          split at h
          · cases h
            rfl
          · split at h <;> cases h
            rfl
        subst hbody
        intro p hp
        obtain ⟨l, hl, rfl⟩ := List.mem_map.mp hp
        exact seen_row (hrows ▸ hw.rows l hl) (husers l hl)

/-- The list has all leases of the user that have not ended. -/
theorem list_answer (h : (leaseList user db).response = ok (.leases ps)) :
    (∀ p ∈ ps, seen user.id db p.leaseId = some p) ∧
    ∀ id p, seen user.id db id = some p → p.status ≠ .ended → p ∈ ps := by
  have hbody : ps = (leasesOfUser db user.id).map serializeLease := by
    simp only [leaseList, answer, ok, Response.mk.injEq, Body.leases.injEq, true_and] at h
    exact h.symm
  subst hbody
  have hmem : ∀ l, l ∈ leasesOfUser db user.id ↔
      l ∈ db.leases ∧ l.user = user.id ∧ l.unfinished = true := by
    intro l
    simp [leasesOfUser, Table.mem_rows]
  constructor
  · intro p hp
    obtain ⟨l, hl, rfl⟩ := List.mem_map.mp hp
    obtain ⟨hl, hu, -⟩ := (hmem l).mp hl
    exact seen_row hl hu
  · intro id p hp hopen
    obtain ⟨l, hl, rfl⟩ := Option.map_eq_some_iff.mp hp
    obtain ⟨hrow, hu⟩ := Option.filter_eq_some_iff.mp hl
    refine List.mem_map_of_mem ((hmem l).mpr ⟨Table.get?_mem hrow,by simpa using hu,?_⟩)
    exact (unfinished_iff l).mpr hopen

end Answers

end CloudPlay.LeaseAnnouncements
