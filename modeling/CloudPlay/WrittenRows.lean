import CloudPlay.BatchRelease
import CloudPlay.SequentialExecution

/-!
# The rows that a request saves

Every save of a node or a lease sets its `updated_at`, so it changes the row also when the
columns it names keep their values. Which rows a request saves is read off its program of
statements: those that the release of a list has saved by the time it stops, and those that
`lease_ready` saves.
-/

set_option autoImplicit false

namespace CloudPlay.WrittenRows
open KeyedTable ControlPlaneModels ControlPlaneSerializers ControlPlaneDatabase LeaseLifecycle
open ControlPlaneViews ControlPlaneConsumer ControlPlaneEffects ControlPlanePrograms
open LeaseEnding BatchRelease SequentialExecution TransactionProgram

/-- The save in `end_lease`. -/
def endedRows (l : Lease) : List Row := if l.endedAt.isSome then [] else [.lease l.leaseId]

/-- The save of the node of a release. -/
def markedRows (db : Database) (deviceId : String) : List Row :=
  match db.nodes.get? deviceId with
  | none => []
  | some n => if n.blocked then [] else [.node deviceId]

/-- The saves of the loop of `ReleaseLeaseView` until it ends. -/
def loopRows (user : UserId) (t : Instant) : List LeaseRef → Database → List Row
  | [], _ => []
  | .uuid id::rest, db =>
    match leaseOfUser db user id with
    | none => []
    | some l =>
      match endLease EndReason.userRelease.value t l db with
      | none => []
      | some (_,db') =>
        endedRows l ++ markedRows db' l.deviceId ++
          loopRows user t rest (setReleasing db' l.deviceId)
  | _::_, _ => []

section Statements
variable {expects : Store → Bool} {rows w : List Row} {test : Database → Bool}
variable {u : Database → Database} {k : Program} {v c : Store}

theorem journal_save (h : test v.db = true) :
    (save expects rows test u k).journal true w v c =
      k.journal true (w ++ rows) (v.with (u v.db)) c := by
  simp [save, Prog.journal, h]

theorem journal_save_raises (h : test v.db = false) :
    (save expects rows test u k).journal true w v c = [] := by
  simp [save, Prog.journal, h]

theorem journal_endLease {expects : Lease → Instant → Store → Bool} (reason : String)
    (t : Instant) {l : Lease} (k : Lease → Program) (hl : l ∈ v.db.leases) :
    (ControlPlanePrograms.endLease expects reason t v.db.timeZone l k).journal true w v c =
      match LeaseLifecycle.endLease reason t l v.db with
      | none => []
      | some (l',db') => (k l').journal true (w ++ endedRows l) (v.with db') c := by
  unfold ControlPlanePrograms.endLease LeaseLifecycle.endLease endedRows
  split
  · rw [List.append_nil]
    rfl
  · dsimp only
    by_cases hfits : fitsColumn ((settle reason t v.db.timeZone l).amount.getD 0) = true
    · rw [if_pos hfits, journal_save (by simp [present hl, hfits]), journal_save rfl,
        List.append_nil]
      rfl
    · rw [if_neg hfits]
      exact journal_save_raises (by simpa using fun _ => hfits)

theorem journal_releasingStatements (d : String) :
    (releasingStatements d k).journal true w v c =
      k.journal true (w ++ markedRows v.db d) (v.with (setReleasing v.db d)) c := by
  simp only [releasingStatements, query, Prog.journal, setReleasing, markedRows]
  cases hn : v.db.nodes.get? d with
  | none =>
    rw [List.append_nil]
    rfl
  | some n =>
    cases hb : n.blocked with
    | true => simp [hb]
    | false =>
      simp only [hb, Bool.false_eq_true, if_false]
      rw [saveNodeStatus, saveNode, journal_save (by simp [hn])]
      rfl

/-- The answer that is stored under a key is no row of a node or a lease. -/
theorem journal_rememberKey (user : User) (scope : Scope) (key : Option String) (body : Body) :
    (rememberKey user scope key body).journal false [] v c = [] := by
  cases key with
  | none => rfl
  | some key =>
    simp only [rememberKey, save, Prog.journal, answered]
    split <;> rfl

theorem journal_releaseStatements {expects : Expectations} (id : UserId) (t : Instant)
    (refs : List LeaseRef) (k : List Lease → Program) :
    (releaseStatements expects id t refs k).journal true w v c =
      match releaseLeases id t refs v.db with
      | none => []
      | some out =>
        match out.missing with
        | some _ => w ++ loopRows id t refs v.db
        | none => (k out.leases).journal true (w ++ loopRows id t refs v.db) (v.with out.db) c := by
  induction refs generalizing k v w with
  | nil =>
    simp only [releaseStatements, releaseLeases, loopRows, List.append_nil]
    rfl
  | cons ref refs ih =>
    cases ref with
    | absent => rfl
    | malformed => rfl
    | uuid uuid =>
      simp only [releaseStatements, forUpdate, Prog.journal, if_true, releaseLeases, loopRows]
      cases hl : leaseOfUser v.db id uuid with
      | none => simp [Prog.journal, answered]
      | some l =>
        have hmem := Table.get?_mem (leaseOfUser_eq_some.mp hl).1
        dsimp only
        rw [journal_endLease _ _ _ hmem]
        cases LeaseLifecycle.endLease EndReason.userRelease.value t l v.db with
        | none => rfl
        | some p =>
          obtain ⟨l', db'⟩ := p
          simp only [journal_releasingStatements, ih, with_db, with_with, Option.bind_eq_bind,
            Option.bind_some]
          cases releaseLeases id t refs (setReleasing db' l.deviceId) with
          | none => rfl
          | some out => cases hm : out.missing <;> simp [hm, List.append_assoc]

/-- What a release saves that gets to its loop. -/
theorem written_release {expects : Expectations} {user : User} {req : ReleaseRequest} {s : Store}
    (hvalid : ¬(req.leaseIds = [] ∨ .absent ∈ req.leaseIds))
    (hfresh : existing s.db user .release req.clientRequestId = none) :
    (releaseProgram expects user req).written s =
      match releaseLeases user.id s.clock req.leaseIds s.db with
      | none => []
      | some _ => loopRows user.id s.clock req.leaseIds s.db := by
  have hloop : (timezoneNow (fun now =>
      .enter (releaseStatements expects user.id now req.leaseIds (fun leases =>
        .commit (rememberKey user .release req.clientRequestId
          (.leases (leases.map serializeLease))))))).journal false [] s s =
      match releaseLeases user.id s.clock req.leaseIds s.db with
      | none => []
      | some _ => loopRows user.id s.clock req.leaseIds s.db := by
    simp only [timezoneNow, Prog.journal, journal_releaseStatements, List.nil_append,
      journal_rememberKey, List.append_nil]
    cases releaseLeases user.id s.clock req.leaseIds s.db with
    | none => rfl
    | some out => cases hm : out.missing <;> simp only [hm]
  rw [Prog.written, releaseProgram, if_neg hvalid, ← hloop]
  cases hkey : req.clientRequestId with
  | none => rfl
  | some key =>
    rw [hkey] at hfresh
    simp only [lookup, query, Prog.journal, hfresh]

theorem written_unattempted {expects : Expectations} {user : User} {req : ReleaseRequest}
    {s : Store} (h : req.leaseIds = [] ∨ .absent ∈ req.leaseIds ∨
      existing s.db user .release req.clientRequestId ≠ none) :
    (releaseProgram expects user req).written s = [] := by
  rw [Prog.written, releaseProgram]
  split
  · rfl
  · rename_i hvalid
    obtain ⟨body, hbody⟩ := Option.ne_none_iff_exists'.mp
      ((or_assoc.mpr h).resolve_left hvalid)
    cases hkey : req.clientRequestId with
    | none =>
      rw [hkey] at hbody
      cases hbody
    | some key =>
      rw [hkey] at hbody
      simp only [lookup, query, Prog.journal, hbody]
      rfl

end Statements

section Loop
variable {user : UserId} {t : Instant} {db db' : Database}

theorem mem_endedRows {l : Lease} {row : Row} :
    row ∈ endedRows l ↔ row = .lease l.leaseId ∧ l.endedAt = none := by
  unfold endedRows
  cases l.endedAt <;> simp

theorem mem_markedRows {d : String} {row : Row} : row ∈ markedRows db d ↔
    row = .node d ∧ ∃ n ∈ db.nodes, n.deviceId = d ∧ n.blocked = false := by
  unfold markedRows
  cases hn : db.nodes.get? d with
  | none =>
    have hno := (db.nodes.get?_eq_none d).mp hn
    refine iff_of_false List.not_mem_nil ?_
    rintro ⟨-, n, hmem, hd, -⟩
    exact hno n hmem hd
  | some n =>
    have hmem := Table.get?_mem hn
    have hkey := Table.get?_key hn
    have hone : (∃ q ∈ db.nodes, q.deviceId = d ∧ q.blocked = false) ↔ n.blocked = false := by
      constructor
      · rintro ⟨q, hq, hqd, hb⟩
        rwa [db.nodes.key_injective hmem hq (hkey.trans hqd.symm)]
      · exact fun hb => ⟨n,hmem,hkey,hb⟩
    rw [hone]
    cases hb : n.blocked <;> simp [hb]

theorem releasingIn_blocked (ds : List String) (n : Node) :
    (releasingIn ds n).blocked = n.blocked := by
  unfold releasingIn
  split
  · rename_i h
    rw [h.2]
    rfl
  · rfl

/-- Releasing leases blocks no node and frees none. -/
theorem unblocked_iff {done : List Lease}
    (hdone : Releases EndReason.userRelease.value t done db db') (d : String) :
    (∃ n ∈ db'.nodes, n.deviceId = d ∧ n.blocked = false) ↔
      ∃ n ∈ db.nodes, n.deviceId = d ∧ n.blocked = false := by
  simp only [Table.mem_rows, hdone.nodes, List.mem_map]
  constructor
  · rintro ⟨_, ⟨n, hn, rfl⟩, hd, hb⟩
    exact ⟨n,hn,by simpa using hd,by rwa [releasingIn_blocked] at hb⟩
  · rintro ⟨n, hn, hd, hb⟩
    exact ⟨_,⟨n,hn,rfl⟩,by simpa using hd,by rwa [releasingIn_blocked]⟩

theorem finishIn_endedAt (ids : List Uuid) (tz : Instant) (l : Lease) :
    (finishIn EndReason.userRelease.value t ids tz l).endedAt = none ↔
      l.endedAt = none ∧ l.leaseId ∉ ids := by
  unfold finishIn
  split
  · rename_i hid
    refine iff_of_false ?_ (fun h => h.2 hid)
    rw [← Option.not_isSome_iff_eq_none, not_not]
    exact finish_endedAt _ t tz l
  · rename_i hid
    exact (and_iff_left hid).symm

/-- A lease that is to be ended ends in the first round that has it. -/
theorem ends_later {l : Lease} {ls : List Lease} (hls : ∀ q ∈ ls, q ∈ db.leases)
    (hl : l ∈ db.leases) (done : List Lease) (row : Row) :
    (∃ q ∈ ls, row = .lease q.leaseId ∧ q.endedAt = none ∧
        q.leaseId ∉ done.map Lease.leaseId) ↔
      (∃ q ∈ ls, row = .lease q.leaseId ∧ q.endedAt = none ∧
        q.leaseId ∉ (done++[l]).map Lease.leaseId) ∨
      (l ∈ ls ∧ row = .lease l.leaseId ∧ l.endedAt = none ∧
        l.leaseId ∉ done.map Lease.leaseId) := by
  constructor
  · rintro ⟨q, hq, hrow, hlive, hid⟩
    by_cases hsame : q.leaseId = l.leaseId
    · have hql := db.leases.key_injective (hls q hq) hl hsame
      exact Or.inr ⟨hql ▸ hq,hql ▸ hrow,hql ▸ hlive,hql ▸ hid⟩
    · exact Or.inl ⟨q,hq,hrow,hlive,by simp_all⟩
  · rintro (⟨q, hq, hrow, hlive, hid⟩ | ⟨hq, hrow, hlive, hid⟩)
    · exact ⟨q,hq,hrow,hlive,by simp_all⟩
    · exact ⟨l,hq,hrow,hlive,hid⟩

/-- The rows that a beginning of the list has the loop save: the leases it ends, once each,
and the nodes it marks. -/
theorem mem_loopRows {done ls : List Lease}
    (hdone : Releases EndReason.userRelease.value t done db db') (hls : Rows user t db ls)
    (rest : List LeaseRef) :
    ∃ db'', Releases EndReason.userRelease.value t (done++ls) db db'' ∧
      ∀ row, row ∈ loopRows user t (refs ls++rest) db' ↔
        (∃ l ∈ ls, row = .lease l.leaseId ∧ l.endedAt = none ∧
          l.leaseId ∉ done.map Lease.leaseId) ∨
        (∃ l ∈ ls, row = .node l.deviceId ∧
          ∃ n ∈ db.nodes, n.deviceId = l.deviceId ∧ n.blocked = false) ∨
        row ∈ loopRows user t rest db'' := by
  induction ls generalizing done db' with
  | nil => exact ⟨db',by simpa using hdone,fun row => by simp [refs]⟩
  | cons l ls ih =>
    obtain ⟨hl, hu, hb⟩ := hls l List.mem_cons_self
    obtain ⟨hfound, db₁, he, hnodes, hround⟩ := round_rows hdone hl hu hb
    obtain ⟨db₂, h₂, hloop⟩ := ih hround (fun q hq => hls q (List.mem_cons_of_mem _ hq))
    refine ⟨db₂,by simpa using h₂,fun row => ?_⟩
    have hmarked : row ∈ markedRows db₁ l.deviceId ↔ row = .node l.deviceId ∧
        ∃ n ∈ db.nodes, n.deviceId = l.deviceId ∧ n.blocked = false := by
      rw [mem_markedRows, hnodes, unblocked_iff hdone]
    have hlater := ends_later (fun q hq => (hls q (List.mem_cons_of_mem _ hq)).1) hl done row
    have hround' : loopRows user t (refs (l::ls)++rest) db' =
        endedRows (finishIn EndReason.userRelease.value t (done.map Lease.leaseId) db.timeZone l) ++
          markedRows db₁ l.deviceId ++
            loopRows user t (refs ls++rest) (setReleasing db₁ l.deviceId) := by
      simp only [refs, List.map_cons, List.cons_append, loopRows, hfound, he, finishIn_deviceId]
    rw [hround', List.mem_append, List.mem_append, mem_endedRows, hmarked, hloop,
      finishIn_endedAt, finishIn_leaseId]
    simp only [List.mem_cons, exists_eq_or_imp, hlater]
    constructor
    · rintro ((h | h) | h | h | h)
      · exact Or.inl (Or.inl h)
      · exact Or.inr (Or.inl (Or.inl h))
      · exact Or.inl (Or.inr (Or.inl h))
      · exact Or.inr (Or.inl (Or.inr h))
      · exact Or.inr (Or.inr h)
    · rintro ((h | h | ⟨-, h⟩) | (h | h) | h)
      · exact Or.inl (Or.inl h)
      · exact Or.inr (Or.inl h)
      · exact Or.inl (Or.inl h)
      · exact Or.inl (Or.inr h)
      · exact Or.inr (Or.inr (Or.inl h))
      · exact Or.inr (Or.inr (Or.inr h))

/-- What is saved when the loop stops at an id that the user has no lease for. -/
theorem mem_stoppedRows {rs : List LeaseRef} {ls : List Lease} {id : Uuid}
    (hs : StopsAfter user t db rs ls id) (row : Row) : row ∈ loopRows user t rs db ↔
      (∃ l ∈ ls, row = .lease l.leaseId ∧ l.endedAt = none) ∨
      ∃ l ∈ ls, row = .node l.deviceId ∧
        ∃ n ∈ db.nodes, n.deviceId = l.deviceId ∧ n.blocked = false := by
  obtain ⟨rest, rfl⟩ := hs.list
  obtain ⟨db', hdb, hrows⟩ := mem_loopRows (releases_nil _ t db) hs.rows (.uuid id::rest)
  have hno : leaseOfUser db' user id = none := by
    rw [hdb.leaseOfUser_eq, List.nil_append, hs.unknown]
    rfl
  have hend : loopRows user t (.uuid id::rest) db' = [] := by
    simp only [loopRows, hno]
  rw [hrows, hend]
  simp

end Loop

section Ready
variable {db : Database} {now : Instant}

/-- The node's part of `lease_ready`. -/
theorem journal_inUseStatements (d : String) (w : List Row) (v c : Store) :
    (inUseStatements d now).journal true w v c = w ++ markedRows v.db d := by
  simp only [inUseStatements, lockNode, forUpdate, Prog.journal, if_true, markedRows]
  cases hn : v.db.nodes.get? d with
  | none => simp [Prog.journal]
  | some n =>
    cases hb : n.blocked with
    | true => simp [hb, Prog.journal]
    | false =>
      simp only [hb, Bool.false_eq_true, if_false]
      rw [saveNode, journal_save (by simp [hn])]
      simp [Prog.journal]

/-- `lease_ready` saves a startable lease of the device, and its node unless it is blocked. -/
theorem written_leaseReady (id : Uuid) (d : String) :
    (leaseReadyProgram id d).written ⟨db,now⟩ =
      match db.leases.get? id with
      | none => []
      | some l =>
        if l.deviceId ≠ d ∨ ¬Startable l then []
        else [.lease id] ++ markedRows db d := by
  simp only [leaseReadyProgram, timezoneNow, forUpdate, Prog.written, Prog.journal, if_true]
  cases hl : db.leases.get? id with
  | none => simp [Prog.journal]
  | some l =>
    by_cases hskip : l.deviceId ≠ d ∨ ¬Startable l
    · simp [hskip, Prog.journal]
    · simp only [if_neg hskip]
      rw [journal_save (by simp [hl]), journal_inUseStatements]
      rfl

end Ready

end CloudPlay.WrittenRows
