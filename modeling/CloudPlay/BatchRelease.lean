import CloudPlay.ExclusiveAssignment

/-!
# Releasing a list of leases

The loop of `ReleaseLeaseView` goes through the ids that name leases of the
user, and stops at the first that does not. What it has written by then is
committed when it stops at an unknown id, and undone when it raises.
-/

set_option autoImplicit false

namespace CloudPlay.BatchRelease
open KeyedTable ControlPlaneModels ControlPlaneSerializers ControlPlaneDatabase LeaseLifecycle
open ControlPlaneViews ControlPlaneServer ControlPlaneEffects LeaseEnding

variable {user : UserId} {t : Instant} {db db' db'' : Database}

/-- The round of the loop for this id goes through. -/
def Releasable (user : UserId) (t : Instant) (db : Database) (ref : LeaseRef) : Prop :=
  ∃ l ∈ db.leases, ref = .uuid l.leaseId ∧ l.user = user ∧ Billable t db.timeZone l

/-- The node update of the release views takes effect. -/
def Awake (n : Node) : Prop := n.blocked = false ∧ n.status ≠ .releasing

def releasingIn (devices : List String) (n : Node) : Node :=
  if n.deviceId ∈ devices ∧ n.blocked = false then { n with status := .releasing } else n

/-- What releasing leases of the table does to it. -/
structure Releases (reason : String) (t : Instant) (ls : List Lease) (db db' : Database) :
    Prop where
  ends : Ends reason t (ls.map Lease.leaseId) db { db' with nodes := db.nodes }
  nodes : db'.nodes.rows = db.nodes.rows.map (releasingIn (ls.map Lease.deviceId))

@[simp] theorem releasingIn_deviceId (ds : List String) (n : Node) :
    (releasingIn ds n).deviceId = n.deviceId := by
  unfold releasingIn
  split <;> rfl

theorem releasingIn_eq_iff (ds : List String) (n : Node) :
    releasingIn ds n = n ↔ ¬(n.deviceId ∈ ds ∧ Awake n) := by
  unfold releasingIn
  split
  · rename_i h
    simp only [Awake, h.1, h.2, true_and, ne_eq, not_not]
    constructor
    · exact fun hn => (congrArg Node.status hn).symm
    · intro hn
      rw [← hn]
  · rename_i h
    simp only [true_iff]
    exact fun ha => h ⟨ha.1,ha.2.1⟩

theorem releasingIn_append (ds ds' : List String) (n : Node) :
    releasingIn ds' (releasingIn ds n) = releasingIn (ds++ds') n := by
  by_cases h : n.deviceId ∈ ds ∧ n.blocked = false
  · have hn : releasingIn ds n = { n with status := .releasing } := if_pos h
    have hn' : releasingIn (ds++ds') n = { n with status := .releasing } :=
      if_pos ⟨List.mem_append_left _ h.1,h.2⟩
    rw [hn, hn', releasingIn_eq_iff]
    simp [Awake]
  · have hn : releasingIn ds n = n := if_neg h
    rw [hn]
    unfold releasingIn
    refine if_congr ?_ rfl rfl
    rw [List.mem_append]
    constructor
    · exact fun h' => ⟨Or.inr h'.1,h'.2⟩
    · exact fun h' => ⟨h'.1.resolve_left (fun hd => h ⟨hd,h'.2⟩),h'.2⟩

theorem releases_nil (reason : String) (t : Instant) (db : Database) :
    Releases reason t [] db db :=
  ⟨ends_refl (by simp),(map_eq_self_iff.mpr fun n _ => by simp [releasingIn]).symm⟩

theorem Releases.append {reason : String} {ls ls' : List Lease} (h : Releases reason t ls db db')
    (h' : Releases reason t ls' db' db'') : Releases reason t (ls++ls') db db'' where
  ends := by
    rw [List.map_append]
    exact h.ends.append (h'.ends.withNodes db.nodes)
  nodes := by
    rw [h'.nodes, h.nodes, List.map_map, List.map_append]
    exact List.map_congr_left fun n _ => releasingIn_append _ _ n

theorem setReleasing_rows (db : Database) (d : String) :
    (setReleasing db d).nodes.rows = db.nodes.rows.map (releasingIn [d]) := by
  have hrow : ∀ n ∈ db.nodes.rows, ∀ q, db.nodes.get? d = some q → n.deviceId = d → n = q := by
    intro n hn q hq hd
    exact db.nodes.key_injective hn (Table.get?_mem hq) (hd.trans (Table.get?_key hq).symm)
  cases hq : db.nodes.get? d with
  | none =>
    have hno := (db.nodes.get?_eq_none d).mp hq
    simp only [setReleasing, hq]
    refine (map_eq_self_iff.mpr fun n hn => ?_).symm
    simp [releasingIn, hno n hn]
  | some q =>
    simp only [setReleasing, hq]
    cases hb : q.blocked with
    | true =>
      rw [if_pos rfl]
      refine (map_eq_self_iff.mpr fun n hn => ?_).symm
      by_cases hd : n.deviceId = d
      · simp [releasingIn, hrow n hn q hq hd, hb]
      · simp [releasingIn, hd]
    | false =>
      rw [if_neg (by simp)]
      refine List.map_congr_left fun n hn => ?_
      by_cases hd : n.deviceId = d
      · rw [if_pos hd]
        simp [releasingIn, hrow n hn q hq hd, hb, Table.get?_key hq]
      · rw [if_neg hd]
        simp [releasingIn, hd]

theorem setReleasing_withNodes (db : Database) (d : String) (nodes : Table Node.deviceId) :
    { setReleasing db d with nodes := nodes } = { db with nodes := nodes } := by
  rcases setReleasing_cases db d with h | ⟨_, -, -, h⟩ <;> rw [h]
  rfl

/-- One round of the loop, or the whole of a forced release. -/
theorem round_releases {reason : String} {l l' : Lease} (hl : l ∈ db.leases)
    (h : endLease reason t l db = some (l',db')) :
    Releases reason t [l] db (setReleasing db' l.deviceId) := by
  have he := (endLease_ends hl h).1
  refine ⟨?_,?_⟩
  · rw [setReleasing_withNodes]
    exact he.withNodes db.nodes
  · rw [setReleasing_rows, he.nodes]
    rfl

theorem Releases.of_eq {reason : String} {ls ls' : List Lease} (h : Releases reason t ls db db')
    (hids : ls.map Lease.leaseId = ls'.map Lease.leaseId)
    (hdevices : ls.map Lease.deviceId = ls'.map Lease.deviceId) : Releases reason t ls' db db' :=
  ⟨hids ▸ h.ends,hdevices ▸ h.nodes⟩

@[simp] theorem finishIn_user {reason : String} (ids : List Uuid) (tz : Instant) (l : Lease) :
    (finishIn reason t ids tz l).user = l.user := by
  unfold finishIn
  split <;> simp

@[simp] theorem finishIn_deviceId {reason : String} (ids : List Uuid) (tz : Instant) (l : Lease) :
    (finishIn reason t ids tz l).deviceId = l.deviceId := by
  unfold finishIn
  split <;> simp

theorem finish_finishIn {reason : String} (ids : List Uuid) (tz : Instant) (l : Lease) :
    finish reason t tz (finishIn reason t ids tz l) = finish reason t tz l := by
  unfold finishIn
  split
  · exact finish_finish tz l
  · rfl

theorem finishIn_billable {reason : String} {tz : Instant} (ids : List Uuid) {l : Lease}
    (h : Billable t tz l) : Billable t tz (finishIn reason t ids tz l) := by
  unfold finishIn
  split
  · exact Or.inl (finish_endedAt reason t tz l)
  · exact h

theorem Releases.leaseOfUser_eq {reason : String} {ls : List Lease}
    (h : Releases reason t ls db db') (id : Uuid) : leaseOfUser db' user id =
      (leaseOfUser db user id).map (finishIn reason t (ls.map Lease.leaseId) db.timeZone) := by
  have hget : db'.leases.get? id = (db.leases.get? id).map
      (finishIn reason t (ls.map Lease.leaseId) db.timeZone) := h.ends.get? id
  rw [leaseOfUser, leaseOfUser, hget]
  cases db.leases.get? id with
  | none => rfl
  | some l => by_cases hu : l.user = user <;> simp [Option.filter_some, hu]

section Loop

def refs (ls : List Lease) : List LeaseRef := ls.map (fun l => .uuid l.leaseId)

/-- The rows of releasable ids. -/
def Rows (user : UserId) (t : Instant) (db : Database) (ls : List Lease) : Prop :=
  ∀ l ∈ ls, l ∈ db.leases ∧ l.user = user ∧ Billable t db.timeZone l

theorem releasable_rows {rs : List LeaseRef} (h : ∀ ref ∈ rs, Releasable user t db ref) :
    ∃ ls, rs = refs ls ∧ Rows user t db ls := by
  induction rs with
  | nil => exact ⟨[],rfl,by simp [Rows]⟩
  | cons ref rs ih =>
    obtain ⟨ls, rfl, hls⟩ := ih fun r hr => h r (List.mem_cons_of_mem _ hr)
    obtain ⟨l, hl, rfl, hrest⟩ := h ref List.mem_cons_self
    refine ⟨l::ls,rfl,fun q hq => ?_⟩
    rcases List.mem_cons.mp hq with rfl | hq
    · exact ⟨hl,hrest⟩
    · exact hls q hq

def prepend (ls : List Lease) (out : ReleaseOutcome) : ReleaseOutcome :=
  { out with leases := ls++out.leases }

/-- A round of the loop over releasable ids, from the state that releasing other leases has
left. The row is one of the table the request found. -/
theorem round_rows {done : List Lease} {l : Lease}
    (hdone : Releases EndReason.userRelease.value t done db db') (hl : l ∈ db.leases)
    (hu : l.user = user) (hb : Billable t db.timeZone l) :
    leaseOfUser db' user l.leaseId = some (finishIn EndReason.userRelease.value t
        (done.map Lease.leaseId) db.timeZone l) ∧
      ∃ db₁, endLease EndReason.userRelease.value t (finishIn EndReason.userRelease.value t
          (done.map Lease.leaseId) db.timeZone l) db' =
            some (finish EndReason.userRelease.value t db.timeZone l,db₁) ∧
        db₁.nodes = db'.nodes ∧
        Releases EndReason.userRelease.value t (done++[l]) db (setReleasing db₁ l.deviceId) := by
  have htz : db'.timeZone = db.timeZone := hdone.ends.timeZone
  have hfound : leaseOfUser db' user l.leaseId = some (finishIn EndReason.userRelease.value t
      (done.map Lease.leaseId) db.timeZone l) := by
    rw [hdone.leaseOfUser_eq, leaseOfUser_eq_some.mpr ⟨(db.leases.mem_iff_get? l).mp hl,hu⟩]
    rfl
  have hrow := Table.get?_mem (leaseOfUser_eq_some.mp hfound).1
  have hbill : Billable t db'.timeZone (finishIn EndReason.userRelease.value t
      (done.map Lease.leaseId) db.timeZone l) := by
    rw [htz]
    exact finishIn_billable _ hb
  obtain ⟨l₁, db₁, he⟩ := endLease_billable EndReason.userRelease.value hbill
  have hround : Releases EndReason.userRelease.value t [l] db'
      (setReleasing db₁ (finishIn EndReason.userRelease.value t (done.map Lease.leaseId)
        db.timeZone l).deviceId) :=
    (round_releases hrow he).of_eq (by simp) (by simp)
  have hl₁ : l₁ = finish EndReason.userRelease.value t db.timeZone l := by
    rw [(endLease_ends hrow he).2, htz, finish_finishIn]
  rw [finishIn_deviceId] at hround
  exact ⟨hfound,db₁,hl₁ ▸ he,(endLease_ends hrow he).1.nodes,hdone.append hround⟩

/-- The loop over releasable ids. -/
theorem releaseLeases_rows {done ls : List Lease}
    (hdone : Releases EndReason.userRelease.value t done db db') (hls : Rows user t db ls)
    (rest : List LeaseRef) :
    ∃ db'', Releases EndReason.userRelease.value t (done++ls) db db'' ∧
      releaseLeases user t (refs ls++rest) db' = (releaseLeases user t rest db'').map
        (prepend (ls.map (finish EndReason.userRelease.value t db.timeZone))) := by
  induction ls generalizing done db' with
  | nil =>
    refine ⟨db',by simpa using hdone,?_⟩
    cases h : releaseLeases user t rest db' <;> simp [refs, prepend, h]
  | cons l ls ih =>
    obtain ⟨hl, hu, hb⟩ := hls l List.mem_cons_self
    obtain ⟨hfound, db₁, he, -, hround⟩ := round_rows hdone hl hu hb
    obtain ⟨db₂, h₂, hloop⟩ := ih hround (fun q hq => hls q (List.mem_cons_of_mem _ hq))
    refine ⟨db₂,by simpa using h₂,?_⟩
    simp only [refs, List.map_cons, List.cons_append, releaseLeases, hfound,
      Option.bind_eq_bind, he, Option.bind_some, finishIn_deviceId, Option.pure_def]
    rw [show ls.map (fun l => LeaseRef.uuid l.leaseId) = refs ls from rfl, hloop]
    cases releaseLeases user t rest db₂ <;> rfl

/-- The list begins with ids of the user's leases, and the next id is not one. -/
structure StopsAfter (user : UserId) (t : Instant) (db : Database) (rs : List LeaseRef)
    (ls : List Lease) (id : Uuid) : Prop where
  rows : Rows user t db ls
  unknown : leaseOfUser db user id = none
  list : ∃ rest, rs = refs ls++.uuid id::rest

theorem releaseLeases_complete {rs : List LeaseRef}
    (h : ∀ ref ∈ rs, Releasable user t db ref) :
    ∃ ls db', rs = refs ls ∧ Rows user t db ls ∧
      Releases EndReason.userRelease.value t ls db db' ∧ releaseLeases user t rs db =
        some ⟨db',ls.map (finish EndReason.userRelease.value t db.timeZone),none⟩ := by
  obtain ⟨ls, rfl, hls⟩ := releasable_rows h
  obtain ⟨db', hdb, hloop⟩ := releaseLeases_rows (releases_nil _ t db) hls []
  rw [List.append_nil] at hloop
  refine ⟨ls,db',rfl,hls,hdb,hloop.trans ?_⟩
  simp [releaseLeases, prepend]

theorem releaseLeases_stops {rs : List LeaseRef} {ls : List Lease} {id : Uuid}
    (h : StopsAfter user t db rs ls id) :
    ∃ db', Releases EndReason.userRelease.value t ls db db' ∧ releaseLeases user t rs db =
      some ⟨db',ls.map (finish EndReason.userRelease.value t db.timeZone),some (.uuid id)⟩ := by
  obtain ⟨rest, rfl⟩ := h.list
  obtain ⟨db', hdb, hloop⟩ := releaseLeases_rows (releases_nil _ t db) h.rows (.uuid id::rest)
  have hno : leaseOfUser db' user id = none := by
    rw [hdb.leaseOfUser_eq, List.nil_append, h.unknown]
    rfl
  refine ⟨db',hdb,hloop.trans ?_⟩
  simp [releaseLeases, prepend, hno]

/-- A loop that meets a bad id first, or a lease it cannot bill, raises. -/
theorem releaseLeases_raises {ref : LeaseRef} {ls : List Lease} {rest : List LeaseRef}
    (hls : Rows user t db ls) (hbad : ¬Releasable user t db ref)
    (hknown : ∀ id, ref = .uuid id → leaseOfUser db user id ≠ none) :
    releaseLeases user t (refs ls++ref::rest) db = none := by
  obtain ⟨db', hdb, hloop⟩ := releaseLeases_rows (releases_nil _ t db) hls (ref::rest)
  rw [hloop, Option.map_eq_none_iff]
  cases ref with
  | absent => rfl
  | malformed => rfl
  | uuid id =>
    obtain ⟨l, hl⟩ := Option.ne_none_iff_exists'.mp (hknown id rfl)
    have hrow := leaseOfUser_eq_some.mp hl
    have hid := Table.get?_key hrow.1
    have hunbilled : ¬Billable t db.timeZone l := fun hb =>
      hbad ⟨l,Table.get?_mem hrow.1,hid ▸ rfl,hrow.2,hb⟩
    have hstill : ¬Billable t db'.timeZone (finishIn EndReason.userRelease.value t
        (([]++ls).map Lease.leaseId) db.timeZone l) := by
      have htz : db'.timeZone = db.timeZone := hdb.ends.timeZone
      rw [List.nil_append, htz]
      have hout : l.leaseId ∉ ls.map Lease.leaseId := by
        intro hin
        obtain ⟨q, hq, hqid⟩ := List.mem_map.mp hin
        have hql := db.leases.key_injective (hls q hq).1 (Table.get?_mem hrow.1) hqid
        exact hunbilled (hql ▸ (hls q hq).2.2)
      simpa [finishIn, hout] using hunbilled
    simp only [releaseLeases, hdb.leaseOfUser_eq, hl, Option.map_some]
    rw [endLease_unbillable hstill]
    rfl

theorem first_failure {α : Type*} {p : α → Prop} {xs : List α} (h : ¬∀ x ∈ xs, p x) :
    ∃ pre x post, xs = pre++x::post ∧ (∀ y ∈ pre, p y) ∧ ¬p x := by
  induction xs with
  | nil => simp at h
  | cons x xs ih =>
    by_cases hx : p x
    · have hrest : ¬∀ y ∈ xs, p y := fun hall => h (by simpa [hx] using hall)
      obtain ⟨pre, z, post, rfl, hpre, hz⟩ := ih hrest
      exact ⟨x::pre,z,post,rfl,by simpa [hx] using hpre,hz⟩
    · exact ⟨[],x,xs,rfl,by simp,hx⟩

theorem releaseLeases_outcomes (user : UserId) (t : Instant) (db : Database)
    (rs : List LeaseRef) :
    (∀ ref ∈ rs, Releasable user t db ref) ∨ (∃ ls id, StopsAfter user t db rs ls id) ∨
      releaseLeases user t rs db = none := by
  by_cases hall : ∀ ref ∈ rs, Releasable user t db ref
  · exact Or.inl hall
  · right
    obtain ⟨pre, ref, rest, rfl, hpre, hbad⟩ := first_failure hall
    obtain ⟨ls, rfl, hls⟩ := releasable_rows hpre
    by_cases hknown : ∀ id, ref = .uuid id → leaseOfUser db user id ≠ none
    · exact Or.inr (releaseLeases_raises hls hbad hknown)
    · push Not at hknown
      obtain ⟨id, rfl, hno⟩ := hknown
      exact Or.inl ⟨ls,id,hls,hno,rest,rfl⟩

end Loop

end CloudPlay.BatchRelease
