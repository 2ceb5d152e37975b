import CloudPlay.ControlPlaneEffects
import CloudPlay.ControlPlanePrograms

/-!
# Requests that run alone

Run without interruption, each program of statements leaves the tables that
the handler leaves as one step, and answers the same.
-/

set_option autoImplicit false

namespace CloudPlay.SequentialExecution
open KeyedTable ControlPlaneModels ControlPlaneSerializers ControlPlaneDatabase LeaseLifecycle
open ControlPlaneViews ControlPlaneConsumer ControlPlaneServer ControlPlaneEffects LeaseEnding
open ControlPlanePrograms TransactionProgram

/-- The tables of a view at the time of the store. An exception is answered by
the framework. -/
def Answers (out : Store × Option (Option Response)) (s : Store) (v : ViewResult) : Prop :=
  out.1 = s.with v.db ∧ out.2.getD (some serverError) = some v.response

@[simp] theorem with_db (s : Store) (db : Database) : (s.with db).db = db := rfl

@[simp] theorem with_with (s : Store) (db db' : Database) :
    (s.with db).with db' = s.with db' := rfl

@[simp] theorem with_self (s : Store) : s.with s.db = s := rfl

@[simp] theorem with_clock (s : Store) (db : Database) : (s.with db).clock = s.clock := rfl

section Statements
variable {expects : Store → Bool} {rows : List Row} {test : Database → Bool}
variable {u : Database → Database} {k : Program} {inside : Bool} {v c : Store}

theorem solo_save (h : test v.db = true) : (save expects rows test u k).solo inside v c =
    k.solo inside (v.with (u v.db)) (if inside then c else v.with (u v.db)) := by
  simp [save, Prog.solo, h]

theorem solo_save_raises (h : test v.db = false) :
    (save expects rows test u k).solo inside v c = (c,none) := by
  simp [save, Prog.solo, h]

theorem solo_saveNode {d : String} {f : Node → Node} {hf : ∀ n, (f n).deviceId = n.deviceId}
    (h : (v.db.nodes.get? d).isSome) : (saveNode expects d f hf k).solo inside v c =
      k.solo inside (v.with (v.db.updateNode d f hf))
        (if inside then c else v.with (v.db.updateNode d f hf)) := solo_save h

theorem present {db : Database} {l : Lease} (h : l ∈ db.leases) :
    (db.leases.get? l.leaseId).isSome := by
  rw [(db.leases.mem_iff_get? l).mp h]
  rfl

theorem solo_endLease {expects : Lease → Instant → Store → Bool} (reason : String) (t : Instant)
    {l : Lease} (k : Lease → Program) (hl : l ∈ v.db.leases) :
    (ControlPlanePrograms.endLease expects reason t v.db.timeZone l k).solo true v c =
      match LeaseLifecycle.endLease reason t l v.db with
      | none => (c,none)
      | some (l',db') => (k l').solo true (v.with db') c := by
  unfold ControlPlanePrograms.endLease LeaseLifecycle.endLease
  split
  · rfl
  · dsimp only
    by_cases hfits : fitsColumn ((settle reason t v.db.timeZone l).amount.getD 0) = true
    · rw [if_pos hfits, solo_save (by simp [present hl, hfits])]
      exact solo_save rfl
    · rw [if_neg hfits]
      exact solo_save_raises (by simpa using fun _ => hfits)

theorem solo_endLeases {expects : Lease → Instant → Store → Bool} (reason : String) (t : Instant)
    {ls : List Lease} (k : List Lease → Program) (hrows : ∀ l ∈ ls, l ∈ v.db.leases)
    (hnd : (ls.map Lease.leaseId).Nodup) :
    (ControlPlanePrograms.endLeases expects reason t v.db.timeZone ls k).solo true v c =
      match LeaseLifecycle.endLeases reason t ls v.db with
      | none => (c,none)
      | some (ls',db') => (k ls').solo true (v.with db') c := by
  induction ls generalizing v k with
  | nil => rfl
  | cons l ls ih =>
    rw [List.map_cons, List.nodup_cons] at hnd
    have hl := hrows l List.mem_cons_self
    rw [ControlPlanePrograms.endLeases, solo_endLease reason t _ hl, LeaseLifecycle.endLeases]
    cases he : LeaseLifecycle.endLease reason t l v.db with
    | none => rfl
    | some p =>
      obtain ⟨l', db'⟩ := p
      have hends := (endLease_ends hl he).1
      have hkept := hends.kept (fun q hq => hrows q (List.mem_cons_of_mem _ hq)) hnd.1
      have hrest := @ih (v.with db') (fun ls' => k (l'::ls')) hkept hnd.2
      rw [with_db, hends.timeZone] at hrest
      simp only [hrest, Option.bind_eq_bind, Option.bind_some]
      cases LeaseLifecycle.endLeases reason t ls db' <;> rfl

theorem solo_releasingStatements (d : String) :
    (releasingStatements d k).solo true v c = k.solo true (v.with (setReleasing v.db d)) c := by
  simp only [releasingStatements, query, Prog.solo, setReleasing]
  cases hn : v.db.nodes.get? d with
  | none => rfl
  | some n =>
    cases hb : n.blocked with
    | true => simp [hb]
    | false =>
      simp only [hb, Bool.false_eq_true, if_false]
      exact solo_saveNode (by simp [hn])

theorem exec_rememberKey (s : Store) (db : Database) (sends : List Send) (user : User)
    (scope : Scope) (key : Option String) (body : Body) :
    Answers ((rememberKey user scope key body).exec (s.with db)) s
      (remember db sends user scope key body) := by
  cases key with
  | none => exact ⟨rfl,rfl⟩
  | some k =>
    simp only [rememberKey, remember, Prog.exec]
    cases hk : db.createIdempotencyKey ⟨user.id,scope,k,body⟩ with
    | none =>
      rw [solo_save_raises (by simp [hk])]
      exact ⟨rfl,rfl⟩
    | some db' =>
      rw [solo_save (by simp [hk])]
      exact ⟨by simp [answered, Prog.solo, hk],rfl⟩

/-- A view with an idempotency key answers a known one without further ado. -/
theorem solo_lookup (user : User) (scope : Scope) (key : Option String) (s : Store) :
    (lookup user scope key k).exec s =
      match existing s.db user scope key with
      | some body => (s,some (some (ok body)))
      | none => k.exec s := by
  cases key with
  | none => rfl
  | some key =>
    simp only [lookup, query, Prog.exec, Prog.solo]
    cases existing s.db user scope (some key) <;> rfl

theorem exec_adminProgram {user : User} {s : Store} {p : Program} {view : ViewResult}
    (h : Answers (p.exec s) s view) :
    Answers ((adminProgram user p).exec s) s (adminOnly user s.db view) := by
  unfold adminProgram adminOnly
  split
  · exact h
  · exact ⟨rfl,rfl⟩

end Statements

section Views
variable {expects : Expectations} {user : User} {s : Store}

theorem solo_allocate {unit : BillingUnit} {price : Money} {now : Instant}
    {draw : ℕ → Uuid × String} {i : ℕ} {nodes : List Node} {k : List Lease → Program}
    {v c : Store} (hrows : ∀ n ∈ nodes, (v.db.nodes.get? n.deviceId).isSome) :
    (allocate user.id unit price now draw i nodes k).solo true v c =
      match rentNodes user.id unit price now draw i nodes v.db with
      | none => (c,none)
      | some (db',ls) => (k ls).solo true (v.with db') c := by
  induction nodes generalizing i v k with
  | nil => rfl
  | cons n nodes ih =>
    simp only [allocate, rentNodes]
    cases hl : v.db.createLease (newLease user.id unit price now (draw i) n) with
    | none =>
      rw [solo_save_raises (by simp [hl])]
      rfl
    | some db₁ =>
      have hnodes : db₁.nodes = v.db.nodes := by
        simp only [Database.createLease, Option.map_eq_some_iff] at hl
        obtain ⟨leases, -, rfl⟩ := hl
        rfl
      have hrest : ∀ q ∈ nodes,
          ((db₁.setNodeStatus n.deviceId .assigned).nodes.get? q.deviceId).isSome := by
        intro q hq
        have hqrow := hrows q (List.mem_cons_of_mem _ hq)
        rw [Database.get?_setNodeStatus, hnodes]
        split
        · rename_i hid
          simpa [← hid] using hqrow
        · exact hqrow
      rw [solo_save (by simp [hl])]
      simp only [hl, Option.getD_some, if_true]
      rw [saveNodeStatus, solo_saveNode (by simpa [hnodes] using hrows n List.mem_cons_self)]
      have hloop := @ih (i+1) (fun ls => k (newLease user.id unit price now (draw i) n::ls))
        (v.with (db₁.setNodeStatus n.deviceId .assigned)) hrest
      refine hloop.trans ?_
      simp only [with_db, with_with, Option.bind_eq_bind, Option.bind_some]
      cases rentNodes user.id unit price now draw (i+1) nodes
        (db₁.setNodeStatus n.deviceId .assigned) <;> rfl

theorem exec_rentProgram (req : RentRequest) (draw : ℕ → Uuid × String) :
    Answers ((rentProgram user req draw).exec s) s (rentLease user req s.clock draw s.db) := by
  unfold rentProgram rentLease
  split
  · exact ⟨rfl,rfl⟩
  · rw [solo_lookup]
    cases existing s.db user .rent req.clientRequestId with
    | some body => exact ⟨rfl,rfl⟩
    | none =>
      simp only [timezoneNow, rentTransaction, forUpdate, Prog.exec, Prog.solo, if_true]
      split
      · exact ⟨rfl,rfl⟩
      · have hrows : ∀ n ∈ freeNodes s.db req.region req.gpuTier req.count,
            (s.db.nodes.get? n.deviceId).isSome := by
          intro n hn
          have hrow := List.mem_of_mem_take hn
          rw [List.mem_insertionSort, List.mem_filter] at hrow
          rw [(s.db.nodes.mem_iff_get? n).mp hrow.1]
          rfl
        simp only [query, Prog.solo]
        rw [solo_allocate hrows]
        cases rentNodes user.id req.billingUnit
            (getPrice s.db req.region req.gpuTier req.billingUnit) s.clock draw 0
            (freeNodes s.db req.region req.gpuTier req.count) s.db with
        | none => exact ⟨rfl,rfl⟩
        | some p => exact exec_rememberKey s p.1 _ user .rent req.clientRequestId (rentedBody p.2)

theorem solo_releaseStatements (id : UserId) (t : Instant) (refs : List LeaseRef)
    (k : List Lease → Program) (v c : Store) :
    (releaseStatements expects id t refs k).solo true v c =
      match releaseLeases id t refs v.db with
      | none => (c,none)
      | some out =>
        match out.missing with
        | some ref => (v.with out.db,
            some (some (errorResponse "NOT_FOUND" "lease not found" (.lease ref) 404)))
        | none => (k out.leases).solo true (v.with out.db) c := by
  induction refs generalizing k v with
  | nil => rfl
  | cons ref refs ih =>
    cases ref with
    | absent => rfl
    | malformed => rfl
    | uuid uuid =>
      simp only [releaseStatements, forUpdate, Prog.solo, if_true, releaseLeases]
      cases hl : leaseOfUser v.db id uuid with
      | none => rfl
      | some l =>
        have hmem := Table.get?_mem (leaseOfUser_eq_some.mp hl).1
        dsimp only
        rw [solo_endLease _ _ _ hmem]
        cases LeaseLifecycle.endLease EndReason.userRelease.value t l v.db with
        | none => rfl
        | some p =>
          obtain ⟨l', db'⟩ := p
          simp only [solo_releasingStatements, ih, with_db, with_with, Option.bind_eq_bind,
            Option.bind_some]
          cases releaseLeases id t refs (setReleasing db' l.deviceId) with
          | none => rfl
          | some out => cases hm : out.missing <;> simp [hm]

theorem exec_releaseProgram (req : ReleaseRequest) :
    Answers ((releaseProgram expects user req).exec s) s
      (releaseLease user req s.clock s.db) := by
  unfold releaseProgram releaseLease
  split
  · exact ⟨rfl,rfl⟩
  · rw [solo_lookup]
    cases existing s.db user .release req.clientRequestId with
    | some body => exact ⟨rfl,rfl⟩
    | none =>
      simp only [timezoneNow, Prog.exec, Prog.solo, solo_releaseStatements]
      cases releaseLeases user.id s.clock req.leaseIds s.db with
      | none => exact ⟨rfl,rfl⟩
      | some out =>
        cases hm : out.missing with
        | some ref => exact ⟨by simp [hm, answer],by simp [hm, answer]⟩
        | none =>
          simp only [hm]
          exact exec_rememberKey s out.db _ user .release req.clientRequestId _

theorem exec_forceReleaseLeaseProgram (id : Uuid) :
    Answers ((forceReleaseLeaseProgram expects id).exec s) s
      (adminForceReleaseLease id s.clock s.db) := by
  simp only [forceReleaseLeaseProgram, query, Prog.exec, Prog.solo, adminForceReleaseLease]
  cases hl : s.db.leases.get? id with
  | none => exact ⟨rfl,rfl⟩
  | some l =>
    have hmem := Table.get?_mem hl
    simp only [timezoneNow, Prog.solo]
    rw [solo_endLease _ _ _ hmem]
    cases he : LeaseLifecycle.endLease EndReason.adminForceRelease.value s.clock l s.db with
    | none => exact ⟨rfl,rfl⟩
    | some p =>
      obtain ⟨l', db'⟩ := p
      have hnodes := (endLease_ends hmem he).1.nodes
      simp only [forcedStatements, setReleasing, hnodes]
      cases hn : s.db.nodes.get? l.deviceId with
      | none => exact ⟨rfl,rfl⟩
      | some n =>
        cases hb : n.blocked with
        | true => exact ⟨by simp [hb, Prog.solo, answered],by simp [hb, Prog.solo, answered]⟩
        | false =>
          simp only [hb, Bool.false_eq_true, if_false]
          rw [saveNodeStatus, solo_saveNode (by simp [hnodes, hn])]
          exact ⟨rfl,rfl⟩

theorem updateNode_same {db : Database} {d : String} {f : Node → Node}
    {hf : ∀ n, (f n).deviceId = n.deviceId} (h : ∀ n ∈ db.nodes, n.deviceId = d → f n = n) :
    db.updateNode d f hf = db :=
  congrArg (fun nodes => { db with nodes := nodes }) ((Table.modify_eq_self_iff _ _ _ hf).mpr h)

theorem row_unique {db : Database} {d : String} {n q : Node} (hn : db.nodes.get? d = some n)
    (hq : q ∈ db.nodes) (hd : q.deviceId = d) : q = n :=
  Option.some.inj (((Table.get?_eq_some _ _ _).mpr ⟨hq,hd⟩).symm.trans hn)

/-- A blocked node keeps its status, also where the handler writes it again. -/
theorem setNodeStatus_same {db : Database} {d : String} {n : Node}
    (hn : db.nodes.get? d = some n) : db.setNodeStatus d n.status = db :=
  updateNode_same fun q hq hd => by rw [row_unique hn hq hd]

theorem exec_forceReleaseNodeProgram (d : String) :
    Answers ((forceReleaseNodeProgram expects d).exec s) s
      (adminForceReleaseNode d s.clock s.db) := by
  simp only [forceReleaseNodeProgram, timezoneNow, lockNode, forUpdate, Prog.exec, Prog.solo,
    adminForceReleaseNode, if_true]
  cases hn : s.db.nodes.get? d with
  | none => exact ⟨rfl,rfl⟩
  | some n =>
    simp only [Prog.solo, if_true]
    rw [solo_endLeases _ _ _ (leasesOf_rows d _) (leasesOf_nodup s.db d _)]
    cases he : LeaseLifecycle.endLeases EndReason.adminForceRelease.value s.clock
        (s.db.leasesOf d Lease.unfinished) s.db with
    | none => exact ⟨rfl,rfl⟩
    | some p =>
      obtain ⟨ls, db'⟩ := p
      have hnodes := (endLeasesOf_ends he).1.nodes
      cases hb : n.blocked with
      | true =>
        have hst : forcedStatus n = n.status := by simp [forcedStatus, hb]
        have hsame := setNodeStatus_same (hnodes ▸ hn : db'.nodes.get? d = some n)
        simp only [if_true, hst, hsame]
        exact ⟨rfl,rfl⟩
      | false =>
        simp only [Bool.false_eq_true, if_false]
        rw [saveNodeStatus, solo_saveNode (by simp [hnodes, hn])]
        exact ⟨rfl,rfl⟩

theorem exec_setNodeStateProgram (d : String) (state : Option String) :
    Answers ((setNodeStateProgram expects d state).exec s) s
      (adminSetNodeState d state s.db) := by
  unfold setNodeStateProgram adminSetNodeState
  cases ControlPlaneViews.requestedState state with
  | none => exact ⟨rfl,rfl⟩
  | some wanted =>
    simp only [query, Prog.exec, Prog.solo]
    cases hn : s.db.nodes.get? d with
    | none => exact ⟨rfl,rfl⟩
    | some n =>
      dsimp only
      rw [saveNodeStatus, solo_saveNode (by simp [hn])]
      exact ⟨rfl,rfl⟩

end Views

section Consumer
variable {expects : Expectations} {s : Store}

/-- What follows the transaction follows it only when nothing raised. -/
theorem exec_markOfflineProgram (d reason : String) (k : Program) :
    (markOfflineProgram expects d reason k).exec s =
      match markNodeOfflineAndEndLeases d reason s.clock s.db with
      | none => (s,none)
      | some (db',_) => k.exec (s.with db') := by
  simp only [markOfflineProgram, timezoneNow, lockNode, forUpdate, Prog.exec, Prog.solo, if_true,
    markNodeOfflineAndEndLeases]
  cases hn : s.db.nodes.get? d with
  | none => rfl
  | some n =>
    dsimp only
    rw [solo_saveNode (by simp [hn])]
    simp only [Prog.solo, if_true, Option.bind_eq_bind]
    have hloop := @solo_endLeases (s.with (takeOffline s.db d s.clock)) s expects.lockedLease
      reason s.clock _ (fun _ => Prog.commit k)
      (@leasesOf_rows (takeOffline s.db d s.clock) d Lease.engaged) (leasesOf_nodup _ d _)
    refine hloop.trans ?_
    simp only [with_db]
    cases LeaseLifecycle.endLeases reason s.clock
        ((takeOffline s.db d s.clock).leasesOf d Lease.engaged) (takeOffline s.db d s.clock) <;> rfl

theorem exec_takeDownProgram (nodes : List Node) :
    ((takeDownProgram expects nodes).exec s).1 = s.with (takeDown s.clock nodes s.db).1 := by
  induction nodes generalizing s with
  | nil => rfl
  | cons n nodes ih =>
    rw [takeDownProgram, exec_markOfflineProgram, takeDown]
    cases markNodeOfflineAndEndLeases n.deviceId heartbeatTimeout s.clock s.db with
    | none => rfl
    | some p => exact @ih (s.with p.1)

theorem updateLease_congr {db : Database} {id : Uuid} {f g : Lease → Lease}
    {hf : ∀ l, (f l).leaseId = l.leaseId} {hg : ∀ l, (g l).leaseId = l.leaseId}
    (h : ∀ l ∈ db.leases, l.leaseId = id → f l = g l) :
    db.updateLease id f hf = db.updateLease id g hg := by
  have hrows : db.leases.modify id f hf = db.leases.modify id g hg := by
    refine Table.ext ?_
    rw [Table.modify_rows, Table.modify_rows]
    refine List.map_congr_left fun l hl => ?_
    split
    · rename_i hid
      exact h l hl hid
    · rfl
  exact congrArg (fun leases => { db with leases := leases }) hrows

theorem updateNode_congr {db : Database} {d : String} {f g : Node → Node}
    {hf : ∀ n, (f n).deviceId = n.deviceId} {hg : ∀ n, (g n).deviceId = n.deviceId}
    (h : ∀ n ∈ db.nodes, n.deviceId = d → f n = g n) :
    db.updateNode d f hf = db.updateNode d g hg := by
  have hrows : db.nodes.modify d f hf = db.nodes.modify d g hg := by
    refine Table.ext ?_
    rw [Table.modify_rows, Table.modify_rows]
    refine List.map_congr_left fun n hn => ?_
    split
    · rename_i hd
      exact h n hn hd
    · rfl
  exact congrArg (fun nodes => { db with nodes := nodes }) hrows

theorem solo_inUseStatements (d : String) (v c : Store) (now : Instant) :
    (inUseStatements d now).solo true v c =
      (v.with (v.db.updateNode d (inUseNode now) (inUseNode_deviceId now)),some none) := by
  simp only [inUseStatements, lockNode, forUpdate, Prog.solo, if_true]
  cases hn : v.db.nodes.get? d with
  | none =>
    rw [updateNode_same fun n hn' hd => absurd hd ((Table.get?_eq_none _ _).mp hn n hn')]
    rfl
  | some n =>
    cases hb : n.blocked with
    | true =>
      rw [updateNode_same fun q hq hd => by simp [row_unique hn hq hd, inUseNode, hb]]
      simp [hb, Prog.solo]
    | false =>
      simp only [hb, Bool.false_eq_true, if_false]
      rw [solo_saveNode (by simp [hn])]
      refine congrArg (fun db => (v.with db,_)) (updateNode_congr fun q hq hd => ?_)
      rw [row_unique hn hq hd]
      simp [inUseNode, hb]

theorem exec_leaseReadyProgram (id : Uuid) (d : String) :
    ((leaseReadyProgram id d).exec s).1 = s.with (markLeaseReady id d s.clock s.db).1 := by
  simp only [leaseReadyProgram, timezoneNow, forUpdate, Prog.exec, Prog.solo, if_true,
    markLeaseReady]
  cases hl : s.db.leases.get? id with
  | none => rfl
  | some l =>
    by_cases hown : l.deviceId = d
    · by_cases hstart : Startable l
      · simp only [hown, hstart, ne_eq, not_true, or_self, if_false]
        rw [solo_save (by simp [hl]), solo_inUseStatements]
        have hsame : s.db.updateLease id (fun row =>
            { row with startedAt := (readyLease s.clock l).startedAt, status := .ready }) =
            s.db.updateLease id (readyLease s.clock) (readyLease_leaseId s.clock) := by
          refine updateLease_congr fun row hrow hid => ?_
          have hget := (Table.get?_eq_some _ _ _).mpr ⟨hrow,hid⟩
          rw [Option.some.inj (hl.symm.trans hget)]
          rfl
        rw [with_db, hsame]
        rfl
      · simp [hown, hstart, Prog.solo]
    · simp [hown, Prog.solo]

/-- `get_or_create` in a program that runs alone. -/
theorem solo_getOrCreateNode (d : String) (k : Node → Program) :
    (getOrCreateNode d k).exec s =
      (k ((s.db.nodes.get? d).getD { deviceId := d, lastSeen := s.clock })).exec
        (s.with (s.db.getOrCreateNode d s.clock)) := by
  simp only [getOrCreateNode, Prog.exec, Prog.solo]
  cases hn : s.db.nodes.get? d with
  | some n => simp [Database.getOrCreateNode, hn]
  | none => simp [Prog.solo, hn]

theorem created_row (d : String) (now : Instant) (db : Database) :
    (db.getOrCreateNode d now).nodes.get? d =
      some ((db.nodes.get? d).getD { deviceId := d, lastSeen := now }) := by
  by_cases h : db.nodes.get? d = none
  · rw [Database.getOrCreateNode_new db d now h, Table.get?_insert]
    simp [h]
  · obtain ⟨n, hn⟩ := Option.ne_none_iff_exists'.mp h
    rw [Database.getOrCreateNode_known db d now h, hn]
    rfl

theorem engaged_created (db : Database) (d : String) (now : Instant) :
    hasEngagedLease (db.getOrCreateNode d now) d = hasEngagedLease db d := by
  rw [hasEngagedLease, Database.getOrCreateNode_leases, hasEngagedLease]

theorem exec_nodeConnectedProgram (d c : String) :
    ((nodeConnectedProgram expects d c).exec s).1 =
      s.with (nodeConnected d c s.clock s.db) := by
  have hrow := created_row d s.clock s.db
  simp only [nodeConnectedProgram, timezoneNow, Prog.exec, Prog.solo]
  refine (congrArg Prod.fst (solo_getOrCreateNode d _)).trans ?_
  generalize hn : (s.db.nodes.get? d).getD { deviceId := d, lastSeen := s.clock } = n at *
  have hupdate (active : Bool) (h : n.blocked = true ∨ active = hasEngagedLease s.db d) :
      (s.db.getOrCreateNode d s.clock).updateNode d (fun row =>
        { row with
          connectionId := some c
          lastSeen := s.clock
          status := (connectedNode c s.clock active n).status }) (fun _ => rfl) =
      nodeConnected d c s.clock s.db := by
    refine updateNode_congr fun q hq hd => ?_
    rw [row_unique hrow hq hd]
    rcases h with hb | rfl
    · simp [connectedNode, hb]
    · rfl
  simp only [Prog.exec]
  split
  · rename_i hb
    rw [solo_saveNode (by simp [hrow])]
    exact congrArg s.with (hupdate true (Or.inl hb))
  · simp only [query, Prog.solo]
    rw [solo_saveNode (by simp [hrow])]
    exact congrArg s.with (hupdate _ (Or.inr (engaged_created s.db d s.clock)))

theorem exec_nodeHelloProgram (d : String) (hello : NodeHello) :
    ((nodeHelloProgram expects d hello).exec s).1 =
      s.with (updateNodeHello d hello s.clock s.db) := by
  have hrow := created_row d s.clock s.db
  simp only [nodeHelloProgram, timezoneNow, Prog.exec, Prog.solo]
  refine (congrArg Prod.fst (solo_getOrCreateNode d _)).trans ?_
  generalize hn : (s.db.nodes.get? d).getD { deviceId := d, lastSeen := s.clock } = n at *
  have hupdate (active : Bool)
      (h : ¬(n.status = .offline ∨ n.status = .releasing) ∨ active = hasEngagedLease s.db d) :
      (s.db.getOrCreateNode d s.clock).updateNode d (fun row =>
        { row with
          region := (helloNode hello s.clock active n).region
          gpuTier := (helloNode hello s.clock active n).gpuTier
          agentVersion := (helloNode hello s.clock active n).agentVersion
          capabilities := (helloNode hello s.clock active n).capabilities
          lastSeen := s.clock
          status := (helloNode hello s.clock active n).status }) (fun _ => rfl) =
      updateNodeHello d hello s.clock s.db := by
    refine updateNode_congr fun q hq hd => ?_
    rw [row_unique hrow hq hd]
    rcases h with hst | rfl
    · simp [helloNode, hst]
    · rfl
  simp only [Prog.exec]
  split
  · simp only [query, Prog.solo]
    rw [solo_saveNode (by simp [hrow])]
    exact congrArg s.with (hupdate _ (Or.inr (engaged_created s.db d s.clock)))
  · rename_i hst
    rw [solo_saveNode (by simp [hrow])]
    exact congrArg s.with (hupdate true (Or.inl hst))

end Consumer

/-- The request as one step at the given time. -/
def handled : Request → Instant → Database → Database
  | .rent user req draw, now, db => (rentLease user req now draw db).db
  | .release user req, now, db => (releaseLease user req now db).db
  | .forceReleaseLease user id, now, db => (adminOnly user db (adminForceReleaseLease id now db)).db
  | .forceReleaseNode user d, now, db => (adminOnly user db (adminForceReleaseNode d now db)).db
  | .disconnect d, now, db =>
    ((markNodeOfflineAndEndLeases d EndReason.nodeOffline.value now db).map Prod.fst).getD db
  | .checkHeartbeats timeout, now, db => (takeDown now (staleNodes db timeout now) db).1
  | .leaseReady id d, now, db => (markLeaseReady id d now db).1
  | .nodeConnected d c, now, db => nodeConnected d c now db
  | .nodeHello d hello, now, db => updateNodeHello d hello now db
  | .setNodeState user d state, _, db => (adminOnly user db (adminSetNodeState d state db)).db
  | .tick _, _, db => db

theorem exec_program (expects : Expectations) (r : Request) (s : Store) :
    ((r.program expects).exec s).1.db = handled r s.clock s.db := by
  cases r with
  | rent user req draw => exact congrArg Store.db (exec_rentProgram req draw).1
  | release user req => exact congrArg Store.db (exec_releaseProgram req).1
  | forceReleaseLease user id =>
    exact congrArg Store.db (exec_adminProgram (exec_forceReleaseLeaseProgram id)).1
  | forceReleaseNode user d =>
    exact congrArg Store.db (exec_adminProgram (exec_forceReleaseNodeProgram d)).1
  | disconnect d =>
    simp only [Request.program, exec_markOfflineProgram, handled]
    cases markNodeOfflineAndEndLeases d EndReason.nodeOffline.value s.clock s.db <;> rfl
  | checkHeartbeats timeout => exact congrArg Store.db (exec_takeDownProgram _)
  | leaseReady id d => exact congrArg Store.db (exec_leaseReadyProgram id d)
  | nodeConnected d c => exact congrArg Store.db (exec_nodeConnectedProgram d c)
  | nodeHello d hello => exact congrArg Store.db (exec_nodeHelloProgram d hello)
  | setNodeState user d state =>
    exact congrArg Store.db (exec_adminProgram (exec_setNodeStateProgram d state)).1
  | tick t =>
    simp only [Request.program, tickProgram, Prog.exec, Prog.solo]
    split <;> rfl

end CloudPlay.SequentialExecution
