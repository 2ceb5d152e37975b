import CloudPlay.ExclusiveAssignment

/-!
# ENDED is terminal

The handler of a lease stream reads the lease in one transaction and writes
ACTIVE in a later one. Here the two are separate steps, and anything may
happen in between. Every other writer of a lease row looks at the row in its
own transaction, so an ended row changes only when the late write finds it.
-/

set_option autoImplicit false

namespace CloudPlay.EndedTerminal
open KeyedTable ControlPlaneModels ControlPlaneSerializers ControlPlaneDatabase LeaseLifecycle
open ControlPlaneViews ControlPlaneConsumer ControlPlaneServer ControlPlaneEffects LeaseEnding
open ExclusiveAssignment StepEffects TransitionRun

/-- The server and the handlers that have been authorized and will write. -/
structure AsyncServer where
  server : Server
  pending : List Uuid

inductive AsyncEvent where
  | whole (e : Event)
  | authorize (connectionId : String) (leaseId : Uuid)
  | activate (i : ℕ)

/-- The handler up to its decision to write. It keeps what it read. -/
def authorize (c : String) (id : Uuid) (a : AsyncServer) : AsyncServer :=
  match a.server.connections.get? c with
  | none => a
  | some m =>
    if m.role ≠ .user then a
    else match authorizeLeaseStream id m.userId a.server.db with
      | none => a
      | some l =>
        if (a.server.db.nodes.get? l.deviceId).all (fun n => !n.hasConnection) then a
        else if l.status = .ready then { a with pending := a.pending ++ [id] }
        else a

def activate (i : ℕ) (a : AsyncServer) : AsyncServer :=
  match a.pending[i]? with
  | none => a
  | some id =>
    { server := { a.server with db := setLeaseActive id a.server.db }
      pending := a.pending.eraseIdx i }

def asyncStep : AsyncEvent → AsyncServer → AsyncServer
  | .whole e, a => { a with server := step e a.server }
  | .authorize c id, a => authorize c id a
  | .activate i, a => activate i a

/-- The late write finds a lease that has not ended. Deleting a node deletes
its ended leases and is left out. -/
def InTime : AsyncEvent → AsyncServer → Prop
  | .activate i, a => ∀ id, a.pending[i]? = some id →
      ∀ l, a.server.db.leases.get? id = some l → l.endedAt = none
  | .whole (.adminDeleteNode _ _), _ => False
  | _, _ => True

/-- Without anything in between the two accesses are the handler. -/
theorem authorize_activate (c : String) (id : Uuid) (settings : Fields) (now : Instant)
    (s : Server) :
    (run asyncStep [.authorize c id,.activate 0] ⟨s,[]⟩).server.db =
      (step (.receive c (.requestRemoteControlLease (.uuid id) settings) now) s).db := by
  simp only [run, asyncStep, authorize, step, handle]
  cases s.connections.get? c with
  | none => rfl
  | some m =>
    cases hr : m.role with
    | device => simp [hr, handleMessage, activate]
    | user =>
      simp only [hr, ne_eq, not_true, if_false, handleMessage,
        handleRequestRemoteControlLease]
      cases authorizeLeaseStream id m.userId s.db with
      | none => rfl
      | some l =>
        dsimp only
        split
        · rfl
        · split <;> rfl

section Keeping
variable {db db' db'' : Database}

/-- Rows of ended leases are still there, as they were. -/
def KeepsEnded (db db' : Database) : Prop :=
  ∀ l ∈ db.leases, l.endedAt.isSome → l ∈ db'.leases

theorem keepsEnded_refl (db : Database) : KeepsEnded db db := fun _ hl _ => hl

theorem KeepsEnded.trans (h : KeepsEnded db db') (h' : KeepsEnded db' db'') :
    KeepsEnded db db'' := fun l hl he => h' l (h l hl he) he

theorem keepsEnded_of_leases (h : db'.leases = db.leases) : KeepsEnded db db' :=
  fun _ hl _ => h ▸ hl

theorem ends_keepsEnded {reason : String} {t : Instant} {ids : List Uuid}
    (h : Ends reason t ids db db') : KeepsEnded db db' := by
  intro l hl he
  refine (h.mem l).mpr ⟨l,hl,?_⟩
  unfold finishIn
  split
  · exact finish_ended reason t he
  · rfl

theorem updateLease_keepsEnded (db : Database) (i : Uuid) (f : Lease → Lease)
    (hf : ∀ l, (f l).leaseId = l.leaseId)
    (h : ∀ l, db.leases.get? i = some l → l.endedAt = none) :
    KeepsEnded db (db.updateLease i f hf) := by
  intro l hl he
  refine (Database.kept_updateLease db i f hf hl).mpr fun hi => ?_
  rw [h l (hi ▸ (db.leases.mem_iff_get? l).mp hl)] at he
  cases he

theorem rentNodes_keepsEnded {user : UserId} {unit : BillingUnit} {price : Money}
    {now : Instant} {draw : ℕ → Uuid × String} {i : ℕ} {nodes : List Node} {ls : List Lease}
    (h : rentNodes user unit price now draw i nodes db = some (db',ls)) : KeepsEnded db db' := by
  induction nodes generalizing i db ls with
  | nil =>
    simp only [rentNodes, Option.some.injEq, Prod.mk.injEq] at h
    exact h.1 ▸ keepsEnded_refl db
  | cons n nodes ih =>
    simp only [rentNodes, Option.bind_eq_bind, Option.bind_eq_some_iff, Option.pure_def,
      Option.some.injEq, Prod.mk.injEq, Prod.exists] at h
    obtain ⟨db₁, h₁, db₂, ls₂, h₂, rfl, rfl⟩ := h
    have hinsert : KeepsEnded db db₁ := fun l hl _ => ((createLease_mem h₁).2 l).mpr (Or.inl hl)
    exact hinsert.trans ((keepsEnded_of_leases (Database.setNodeStatus_leases db₁ _ _)).trans
      (ih h₂))

/-- A lease in a status that admits a stream or a start has not ended. -/
theorem live_of_status (hc : Consistent db) {l : Lease} (hl : l ∈ db.leases)
    (h : l.status ≠ .ended) : l.endedAt = none := by
  cases he : l.endedAt with
  | none => rfl
  | some t => exact absurd ((hc l hl).2.mp (by simp [he])) h

theorem markLeaseReady_keepsEnded (hc : Consistent db) (id : Uuid) (d : String)
    (now : Instant) : KeepsEnded db (markLeaseReady id d now db).1 := by
  unfold markLeaseReady
  split
  · exact keepsEnded_refl db
  · rename_i l hl
    split
    · exact keepsEnded_refl db
    · split
      · exact keepsEnded_refl db
      · rename_i hst
        rw [not_not] at hst
        have hlive : l.endedAt = none := by
          refine live_of_status hc (Table.get?_mem hl) ?_
          rcases hst with h | h | h <;> simp [h]
        refine updateLease_keepsEnded db id _ (readyLease_leaseId now) fun q hq => ?_
        rw [← Option.some.inj (hl.symm.trans hq)]
        exact hlive

theorem messageEffect_keepsEnded {m : ConnectionMeta} {msg : ClientMessage} {now : Instant}
    (hc : Consistent db) (h : MessageEffect m msg now db db') : KeepsEnded db db' := by
  cases h with
  | none => exact keepsEnded_refl db
  | seen d => exact keepsEnded_of_leases rfl
  | hello d hello => exact keepsEnded_of_leases (Database.getOrCreateNode_leases db d now)
  | ready id claimed d => exact markLeaseReady_keepsEnded hc id d now
  | active id l _ hl =>
    simp only [authorizeLeaseStream, Option.filter_eq_some_iff, Bool.and_eq_true,
      decide_eq_true_eq] at hl
    refine updateLease_keepsEnded db id _ activeLease_leaseId fun q hq => ?_
    rw [← Option.some.inj (hl.1.symm.trans hq)]
    refine live_of_status hc (Table.get?_mem hl.1) ?_
    rcases hl.2.2 with h | h <;> simp [h]

theorem markOffline_keepsEnded {d reason : String} {now : Instant} {sends : List Send}
    (h : markNodeOfflineAndEndLeases d reason now db = some (db',sends)) : KeepsEnded db db' := by
  rcases markOffline_cases h with ⟨-, rfl, -⟩ | ⟨n, -, he, -⟩
  · exact keepsEnded_refl _
  · have hoff : KeepsEnded db (takeOffline db d now) := keepsEnded_of_leases rfl
    exact hoff.trans (ends_keepsEnded he)

end Keeping

theorem effect_keepsEnded {e : Event} {s : Server} {db' : Database} (hc : Consistent s.db)
    (he : ∀ user d, e ≠ .adminDeleteNode user d) (h : StepEffect s e db') :
    KeepsEnded s.db db' := by
  cases h with
  | quiet hrows => exact keepsEnded_of_leases hrows.leases
  | rented hrent hrows =>
    exact (rentNodes_keepsEnded hrent).trans (keepsEnded_of_leases hrows.leases)
  | @released user _ now _ _ hrel hrows =>
    refine KeepsEnded.trans ?_ (keepsEnded_of_leases hrows.leases)
    refine releaseLeases_closure keepsEnded_refl (fun _ _ _ => KeepsEnded.trans) user.id now ?_
      _ s.db _ hrel
    intro id l l' a b hl hend
    have hends := (endLease_ends (Table.get?_mem (leaseOfUser_eq_some.mp hl).1) hend).1
    exact (ends_keepsEnded hends).trans (keepsEnded_of_leases (setReleasing_leases b _))
  | registered => exact keepsEnded_of_leases rfl
  | stateSet => exact keepsEnded_of_leases rfl
  | leaseForced _ hl hend =>
    have hends := (endLease_ends (Table.get?_mem hl) hend).1
    exact (ends_keepsEnded hends).trans (keepsEnded_of_leases (setReleasing_leases _ _))
  | nodeForced _ _ _ hends => exact (ends_keepsEnded hends).trans (keepsEnded_of_leases rfl)
  | deleted => exact absurd rfl (he _ _)
  | patched => exact keepsEnded_of_leases rfl
  | connected => exact keepsEnded_of_leases (Database.getOrCreateNode_leases s.db _ _)
  | disconnected _ _ _ hoff => exact markOffline_keepsEnded hoff
  | received _ hmsg => exact messageEffect_keepsEnded hc hmsg
  | checked =>
    exact takeDown_closure keepsEnded_refl (fun _ _ _ => KeepsEnded.trans) _
      (fun _ _ _ _ => markOffline_keepsEnded) _ s.db

/-- No event of the server but a deletion touches the row of an ended lease. -/
theorem step_keepsEnded (e : Event) (s : Server) (hc : Consistent s.db)
    (he : ∀ user d, e ≠ .adminDeleteNode user d) : KeepsEnded s.db (step e s).db :=
  effect_keepsEnded hc he (step_effect e s)

theorem authorize_server (c : String) (id : Uuid) (a : AsyncServer) :
    (authorize c id a).server = a.server := by
  unfold authorize
  split
  · rfl
  · split
    · rfl
    · split
      · rfl
      · split
        · rfl
        · split <;> rfl

/-- One step: the status column still agrees with the end, and ended rows stay. -/
theorem async_step (e : AsyncEvent) (a : AsyncServer) (hg : InTime e a)
    (hc : Consistent a.server.db) :
    Consistent (asyncStep e a).server.db ∧
      KeepsEnded a.server.db (asyncStep e a).server.db := by
  cases e with
  | whole e =>
    refine ⟨consistent_step e a.server hc,step_keepsEnded e a.server hc ?_⟩
    rintro user d rfl
    exact hg
  | authorize c id =>
    simp only [asyncStep, authorize_server]
    exact ⟨hc,keepsEnded_refl _⟩
  | activate i =>
    simp only [asyncStep, activate]
    split
    · exact ⟨hc,keepsEnded_refl _⟩
    · rename_i id hid
      have hlive := hg id hid
      refine ⟨?_,updateLease_keepsEnded _ id _ activeLease_leaseId hlive⟩
      refine (updateLease_shrinks a.server.db id activeLease activeLease_leaseId ?_).consistent hc
      intro l hl
      refine ⟨rfl,rfl,fun he => he,fun _ => ⟨by simp [activeLease],?_⟩⟩
      simp [activeLease, hlive l hl]

theorem async_consistent (es : List AsyncEvent) (a : AsyncServer)
    (h : Meets asyncStep InTime es a) (hc : Consistent a.server.db) :
    Consistent (run asyncStep es a).server.db :=
  run_invariant asyncStep (fun e a hg hc => (async_step e a hg hc).1) es a h hc

theorem async_keepsEnded (es : List AsyncEvent) (a : AsyncServer)
    (h : Meets asyncStep InTime es a) (hc : Consistent a.server.db) :
    KeepsEnded a.server.db (run asyncStep es a).server.db := by
  induction es generalizing a with
  | nil => exact keepsEnded_refl _
  | cons e es ih =>
    obtain ⟨hc', hkeep⟩ := async_step e a h.1 hc
    exact hkeep.trans (ih (asyncStep e a) h.2 hc')

/-- In a run whose late writes are in time, a lease that has ended has status
ENDED, and its row is the same in every later state. -/
theorem ended_terminal (timeZone : Instant) (es fs : List AsyncEvent)
    (h : Meets asyncStep InTime (es ++ fs) ⟨initial timeZone,[]⟩) (l : Lease)
    (hl : l ∈ (run asyncStep es ⟨initial timeZone,[]⟩).server.db.leases)
    (hend : l.endedAt.isSome) :
    l.status = .ended ∧
      l ∈ (run asyncStep (es ++ fs) ⟨initial timeZone,[]⟩).server.db.leases := by
  obtain ⟨hes, hfs⟩ := (meets_append asyncStep InTime es fs _).mp h
  have hc := async_consistent es ⟨initial timeZone,[]⟩ hes (assigned_initial timeZone).2
  rw [run_append]
  exact ⟨(hc l hl).2.mp hend,async_keepsEnded fs _ hfs hc l hl hend⟩

/-- A customer asks for a stream of the lease that has become ready. -/
def authorizedRun : List AsyncEvent :=
  rentedRun.map .whole ++ [.whole (.connect (.user ann) "u1" 4),
    .whole (.receive "c1" (.leaseReady (.uuid 1) none) 5),.authorize "u1" 1]

/-- The stream starts, then the lease is released. -/
def streamedRun : List AsyncEvent :=
  authorizedRun ++ [.activate 0,.whole (.release ann { leaseIds := [.uuid 1] } 6)]

theorem streamed_terminal : ∃ l ∈ (run asyncStep streamedRun ⟨initial 0,[]⟩).server.db.leases,
    l.endedAt.isSome ∧ l.status = .ended ∧
      l ∈ (run asyncStep (streamedRun ++ [.whole (.adminForceReleaseLease admin 1 9)])
        ⟨initial 0,[]⟩).server.db.leases := by
  have hpending : (run asyncStep authorizedRun ⟨initial 0,[]⟩).pending[0]? = some 1 := by decide
  have hlive : ((run asyncStep authorizedRun ⟨initial 0,[]⟩).server.db.leases.get? 1).all
      (fun l => l.endedAt = none) = true := by decide
  have hmeets : Meets asyncStep InTime
      (streamedRun ++ [AsyncEvent.whole (.adminForceReleaseLease admin 1 9)])
      ⟨initial 0,[]⟩ := by
    refine ⟨trivial,trivial,trivial,trivial,trivial,trivial,?_,trivial,trivial,trivial⟩
    intro id hid l hl
    obtain rfl := Option.some.inj (hpending.symm.trans hid)
    change (run asyncStep authorizedRun ⟨initial 0,[]⟩).server.db.leases.get? 1 = some l at hl
    simpa [hl] using hlive
  obtain ⟨l, hl, hend⟩ : ∃ l ∈ (run asyncStep streamedRun ⟨initial 0,[]⟩).server.db.leases.rows,
      l.endedAt.isSome := by decide
  obtain ⟨hst, hkept⟩ := ended_terminal 0 streamedRun _ hmeets l hl hend
  exact ⟨l,hl,hend,hst,hkept⟩

/-- The lease is released between the two accesses. -/
def releasedBetweenRun : List AsyncEvent :=
  authorizedRun ++ [.whole (.release ann { leaseIds := [.uuid 1] } 6)]

theorem late_write_revives :
    ∃ l ∈ (run asyncStep releasedBetweenRun ⟨initial 0,[]⟩).server.db.leases.rows,
      l.endedAt.isSome ∧ l.status = .ended ∧
      ∃ l' ∈ (run asyncStep (releasedBetweenRun ++ [.activate 0]) ⟨initial 0,[]⟩).server.db.leases.rows,
        l'.leaseId = l.leaseId ∧ l'.endedAt.isSome ∧ l'.status = .active := by
  decide

end CloudPlay.EndedTerminal
