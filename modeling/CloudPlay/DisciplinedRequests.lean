import CloudPlay.LeaseDiscipline

/-!
# Every request keeps the lease discipline

Program by program: a lease is ended under its lock, or by the force-release
of the administrator, which read it before. Requests that neither end nor
start a lease do not touch its row at all.
-/

set_option autoImplicit false

namespace CloudPlay.DisciplinedRequests
open ControlPlaneServer (heartbeatTimeout staleNodes)
open KeyedTable ControlPlaneModels ControlPlaneSerializers ControlPlaneDatabase LeaseLifecycle
open ControlPlaneViews ControlPlaneConsumer ControlPlaneEffects LeaseEnding
open ControlPlanePrograms LeaseDiscipline TransactionProgram TransactionRely TransitionRun

section Endings
variable {extra : Lease → Prop} {expects : Expectations}

/-- Leases that are locked and then ended as they were read. -/
theorem steady_endLocked (hw : EndsWell extra expects) {rows : Database → List Lease}
    {reason : String} {t : Instant} {k : List Lease → Program}
    (hrows : ∀ db, ∀ l ∈ rows db, l ∈ db.leases)
    (hnd : ∀ db, ((rows db).map Lease.leaseId).Nodup)
    (hk : ∀ ls, Steady (leaseDiscipline extra) (k ls)) :
    Steady (leaseDiscipline extra) (forUpdate (fun db => leaseRows (rows db)) (fun db =>
      endLeases expects.lockedLease reason t db.timeZone (rows db) k)) := by
  intro held redo c _ hclean _ held' c' hsub hr hlocked
  refine safe_endLeases hw hk (hnd _) hr.inv ((hclean.stable hr).more hsub) ?_
  refine visible_locked hlocked fun l hl => ?_
  exact ((redo c').db.leases.mem_iff_get? l).mp (hrows _ l hl)

theorem steady_releaseStatements (hw : EndsWell extra expects) (user : UserId) (t : Instant)
    (refs : List LeaseRef) {k : List Lease → Program}
    (hk : ∀ ls, Steady (leaseDiscipline extra) (k ls)) :
    Steady (leaseDiscipline extra) (releaseStatements expects user t refs k) := by
  induction refs generalizing k with
  | nil => exact hk []
  | cons ref refs ih =>
    cases ref with
    | absent => exact fun _ _ _ _ _ => trivial
    | malformed => exact fun _ _ _ _ _ => trivial
    | uuid id =>
      intro held redo c _ hclean _ held' c' hsub hr hlocked
      have hclean' := (hclean.stable hr).more hsub
      dsimp only at hlocked ⊢
      split
      · exact steady_commit (calm_answered _) held' redo c' hr.inv hclean'
      · rename_i l hl
        have hget := (leaseOfUser_eq_some.mp hl).1
        have hid : l.leaseId = id := ((Table.get?_eq_some _ _ _).mp hget).2
        have hvis : Visible held' redo c' l := by
          refine ⟨hlocked ?_,hid ▸ hget⟩
          simp [leaseRows, hl]
        have hrest (l' : Lease) : Steady (leaseDiscipline extra) (releasingStatements l.deviceId
            (releaseStatements expects user t refs (fun ls => k (l'::ls)))) :=
          steady_releasingStatements (ih fun ls => hk (l'::ls))
        refine safe_endLease hclean' (fun c₂ hr₂ hexp => hvis.closes hw hclean' hr₂ hexp) ?_ ?_
        · exact hrest l held' redo c' hr.inv hclean'
        · exact fun held₂ c₂ _ hr₂ hclean₂ => hrest _ held₂ _ c₂ hr₂.inv hclean₂

theorem calm_releaseProgram (hw : EndsWell extra expects) (user : User) (req : ReleaseRequest) :
    Calm (leaseDiscipline extra) (releaseProgram expects user req) := by
  unfold releaseProgram
  split
  · exact calm_answered _
  · refine calm_lookup (calm_timezoneNow fun now => calm_enter ?_)
    exact steady_releaseStatements hw user.id now req.leaseIds fun ls =>
      steady_commit (calm_rememberKey _ _ _ _)

theorem steady_forcedStatements (db : Database) (d : String) (ended : Lease) :
    Steady (leaseDiscipline extra) (forcedStatements db d ended) := by
  unfold forcedStatements
  dsimp only
  split
  · exact steady_commit (calm_answered _)
  · split
    · exact steady_commit (calm_answered _)
    · exact steady_saveNode (steady_commit (calm_answered _))

/-- The row of the administrator's lease may have changed since it was read. -/
theorem calm_forceReleaseLeaseProgram (hw : EndsWell extra expects) (id : Uuid) :
    Calm (leaseDiscipline extra) (forceReleaseLeaseProgram expects id) := by
  intro c _ c' hr
  dsimp only
  split
  · trivial
  · rename_i l hl
    have hid : l.leaseId = id := ((Table.get?_eq_some _ _ _).mp hl).2
    intro c₁ hr₁ c₂ hr₂
    have hrest := @steady_forcedStatements extra c'.db l.deviceId
    refine safe_endLease clean_id (fun c₃ hr₃ hexp hopen row hrow => ?_) ?_ ?_
    · have hev : (leaseDiscipline extra).Evolves c' c₃ :=
        (hr₁.evolves.trans hr₂.evolves).trans hr₃.evolves
      obtain ⟨row', hrow', hkept⟩ := hev (.lease l.leaseId) l (hid ▸ hl)
      have hsame : row = row' := Option.some.inj (hrow.symm.trans hrow')
      exact hw.unlocked l row _ _ _ hexp hrow hopen (hsame ▸ hkept)
    · exact hrest l _ _ c₂ hr₂.inv clean_id
    · exact fun held₃ c₃ _ hr₃ hclean₃ => hrest _ held₃ _ c₃ hr₃.inv hclean₃

theorem calm_forceReleaseNodeProgram (hw : EndsWell extra expects) (d : String) :
    Calm (leaseDiscipline extra) (forceReleaseNodeProgram expects d) := by
  refine calm_timezoneNow fun now => calm_enter (steady_lock fun s => ?_)
  dsimp only
  split
  · exact steady_commit (calm_answered _)
  · refine steady_endLocked hw (fun _ => leasesOf_rows d _) (fun db => leasesOf_nodup db d _)
      fun ls => ?_
    split
    · exact steady_commit (calm_answered _)
    · exact steady_saveNode (steady_commit (calm_answered _))

theorem calm_markOfflineProgram (hw : EndsWell extra expects) (d reason : String) {k : Program}
    (hk : Calm (leaseDiscipline extra) k) :
    Calm (leaseDiscipline extra) (markOfflineProgram expects d reason k) := by
  refine calm_timezoneNow fun now => calm_enter (steady_lock fun s => ?_)
  dsimp only
  split
  · exact steady_commit hk
  · refine steady_saveNode (steady_endLocked hw (fun _ => leasesOf_rows d _)
      (fun db => leasesOf_nodup db d _) fun ls => steady_commit hk)

theorem calm_takeDownProgram (hw : EndsWell extra expects) (nodes : List Node) :
    Calm (leaseDiscipline extra) (takeDownProgram expects nodes) := by
  induction nodes with
  | nil => exact calm_done _
  | cons n nodes ih => exact calm_markOfflineProgram hw n.deviceId heartbeatTimeout ih

end Endings

section Others
variable {extra : Lease → Prop} {expects : Expectations}

theorem steady_lockNode {d : String} {k : Database → Program}
    (h : ∀ db, Steady (leaseDiscipline extra) (k db)) :
    Steady (leaseDiscipline extra) (lockNode d k) := steady_lock fun s => h s.db

theorem steady_inUseStatements (d : String) (now : Instant) :
    Steady (leaseDiscipline extra) (inUseStatements d now) := by
  refine steady_lockNode fun db => ?_
  split
  · exact steady_commit (calm_done _)
  · split
    · exact steady_commit (calm_done _)
    · exact steady_saveNode (steady_commit (calm_done _))

/-- A lease that becomes ready was open when it was locked, and still is. -/
theorem calm_leaseReadyProgram (hw : EndsWell extra expects) (id : Uuid) (d : String) :
    Calm (leaseDiscipline extra) (leaseReadyProgram id d) := by
  refine calm_timezoneNow fun now => calm_enter ?_
  intro held redo c _ hclean _ held₁ c₁ hsub₁ hr₁ hlocked
  have hclean₁ := (hclean.stable hr₁).more hsub₁
  dsimp only at hlocked ⊢
  split
  · exact steady_commit (calm_done _) held₁ redo c₁ hr₁.inv hclean₁
  · rename_i l hl
    split
    · exact steady_commit (calm_done _) held₁ redo c₁ hr₁.inv hclean₁
    · rename_i hready
      have hstart : Startable l := by
        by_contra hno
        exact hready (Or.inr hno)
      have hid : l.leaseId = id := ((Table.get?_eq_some _ _ _).mp hl).2
      have hmem : Row.lease id ∈ held₁ := hlocked (by simp [leaseRows, hl, hid])
      intro c₂ hr₂
      refine ⟨fun _ held₂ hsub₂ _ => ⟨fun _ _ => ?_,fun _ => trivial⟩,fun hout => by cases hout⟩
      have hclean₂ := (hclean₁.stable hr₂).more hsub₂
      have hl₂ := (look_lease (hclean₁.row hr₂ hmem)).1.trans hl
      exact steady_inUseStatements d now held₂ _ c₂ hr₂.inv
        (clean_ready hw now hclean₂ hr₂.inv (hsub₂ hmem) hl₂ hstart)

theorem steady_allocate (hw : EndsWell extra expects) (user : UserId) (unit : BillingUnit)
    (price : Money) (now : Instant) (draw : ℕ → Uuid × String) (i : ℕ) (nodes : List Node)
    {k : List Lease → Program} (hk : ∀ ls, Steady (leaseDiscipline extra) (k ls)) :
    Steady (leaseDiscipline extra) (allocate user unit price now draw i nodes k) := by
  induction nodes generalizing i k with
  | nil => exact hk []
  | cons n nodes ih =>
    intro held redo c _ hclean c' hr
    refine ⟨fun _ held' hsub hrows => ⟨fun htest _ => ?_,fun _ => trivial⟩,
      fun hout => by cases hout⟩
    have hclean' := (hclean.stable hr).more hsub
    have hmem : Row.lease (newLease user unit price now (draw i) n).leaseId ∈ held' :=
      hrows List.mem_cons_self
    have hrest := ih (i+1) (fun ls => hk (newLease user unit price now (draw i) n::ls))
    exact steady_saveNode hrest held' _ c' hr.inv (clean_created hclean' hr.inv hmem rfl
      (fun he => by cases he) (hw.fresh user unit price now (draw i) n) htest)

theorem calm_rentProgram (hw : EndsWell extra expects) (user : User) (req : RentRequest)
    (draw : ℕ → Uuid × String) : Calm (leaseDiscipline extra) (rentProgram user req draw) := by
  unfold rentProgram
  split
  · exact calm_answered _
  · refine calm_lookup (calm_timezoneNow fun now => calm_enter (steady_lock fun s => ?_))
    dsimp only
    split
    · exact steady_commit (calm_answered _)
    · refine steady_read fun s => steady_allocate hw _ _ _ _ _ _ _ fun ls => ?_
      exact steady_commit (calm_rememberKey _ _ _ _)

theorem calm_getOrCreateNode {d : String} {k : Node → Program}
    (h : ∀ n, Calm (leaseDiscipline extra) (k n)) :
    Calm (leaseDiscipline extra) (getOrCreateNode d k) := by
  refine calm_read fun s => ?_
  split
  · exact h _
  · refine calm_write (fun r a => ?_) (h _) (calm_query fun db => ?_)
    · exact @look_unseen a (a.db.getOrCreateNode d s.clock)
        (Database.getOrCreateNode_leases a.db d s.clock)
        (Database.getOrCreateNode_records a.db d s.clock) r
    · split
      · exact h _
      · exact fun _ _ => trivial

theorem calm_nodeConnectedProgram (d connection : String) :
    Calm (leaseDiscipline extra) (nodeConnectedProgram expects d connection) := by
  refine calm_timezoneNow fun now => calm_getOrCreateNode fun n => ?_
  dsimp only
  split
  · exact calm_saveNode (calm_done _)
  · exact calm_query fun db => calm_saveNode (calm_done _)

theorem calm_nodeHelloProgram (d : String) (hello : NodeHello) :
    Calm (leaseDiscipline extra) (nodeHelloProgram expects d hello) := by
  refine calm_timezoneNow fun now => calm_getOrCreateNode fun n => ?_
  dsimp only
  split
  · exact calm_query fun db => calm_saveNode (calm_done _)
  · exact calm_saveNode (calm_done _)

theorem calm_setNodeStateProgram (d : String) (state : Option String) :
    Calm (leaseDiscipline extra) (setNodeStateProgram expects d state) := by
  unfold setNodeStateProgram
  split
  · exact calm_answered _
  · refine calm_query fun db => ?_
    split
    · exact calm_answered _
    · exact calm_saveNode (calm_answered _)

theorem calm_tickProgram (t : Instant) : Calm (leaseDiscipline extra) (tickProgram t) := by
  refine calm_write (fun r s => ?_) (calm_done _) (calm_done _)
  cases r <;> rfl

theorem calm_adminProgram {user : User} {p : Program} (h : Calm (leaseDiscipline extra) p) :
    Calm (leaseDiscipline extra) (adminProgram user p) := by
  unfold adminProgram
  split
  · exact h
  · exact calm_answered _

end Others

section Runs
variable {extra : Lease → Prop} {expects : Expectations}

theorem calm_program (hw : EndsWell extra expects) (r : Request) :
    Calm (leaseDiscipline extra) (r.program expects) := by
  cases r with
  | rent user req draw => exact calm_rentProgram hw user req draw
  | release user req => exact calm_releaseProgram hw user req
  | forceReleaseLease user id => exact calm_adminProgram (calm_forceReleaseLeaseProgram hw id)
  | forceReleaseNode user d => exact calm_adminProgram (calm_forceReleaseNodeProgram hw d)
  | disconnect d => exact calm_markOfflineProgram hw d _ (calm_done _)
  | checkHeartbeats timeout =>
    exact calm_read fun s => calm_read fun s' =>
      calm_takeDownProgram hw (staleNodes s'.db timeout s.clock)
  | leaseReady id d => exact calm_leaseReadyProgram hw id d
  | nodeConnected d connection => exact calm_nodeConnectedProgram d connection
  | nodeHello d hello => exact calm_nodeHelloProgram d hello
  | setNodeState user d state => exact calm_adminProgram (calm_setNodeStateProgram d state)
  | tick t => exact calm_tickProgram t

/-- Whatever is served at once keeps the discipline in every fresh run. -/
theorem serving_run (hw : EndsWell extra expects) {rs : List Request} {s : Store}
    (hinv : (leaseDiscipline extra).Inv s) {before after : List Move}
    (h : Meets step Fresh (before ++ after) (serving expects rs s)) :
    (leaseDiscipline extra).Inv (run step before (serving expects rs s)).committed ∧
    (leaseDiscipline extra).Evolves (run step before (serving expects rs s)).committed
      (run step (before ++ after) (serving expects rs s)).committed := by
  refine discipline_run hinv (fun p hp => ?_) h
  obtain ⟨r, -, rfl⟩ := List.mem_map.mp hp
  exact calm_program hw r s hinv

end Runs

end CloudPlay.DisciplinedRequests
