import CloudPlay.ControlPlaneEffects

/-!
# What one step of the server can do

The tables after a step are those before it, up to bookkeeping, or come from
one of the writes below. An invariant of the tables is proved by going through
these writes.
-/

set_option autoImplicit false

namespace CloudPlay.StepEffects
open KeyedTable ControlPlaneModels ControlPlaneSerializers ControlPlaneDatabase LeaseLifecycle
open ControlPlaneViews ControlPlaneConsumer ControlPlaneServer ControlPlaneEffects LeaseEnding

inductive StepEffect (s : Server) : Event → Database → Prop
  | quiet {e : Event} {db' : Database} : SameRows s.db db' → StepEffect s e db'
  | rented {user : User} {req : RentRequest} {now : Instant} {draw : ℕ → Uuid × String}
      {db₁ db' : Database} {ls : List Lease} :
      rentNodes user.id req.billingUnit (getPrice s.db req.region req.gpuTier req.billingUnit) now
        draw 0 (freeNodes s.db req.region req.gpuTier req.count) s.db = some (db₁,ls) →
      SameRows db₁ db' → StepEffect s (.rent user req now draw) db'
  | released {user : User} {req : ReleaseRequest} {now : Instant} {out : ReleaseOutcome}
      {db' : Database} : releaseLeases user.id now req.leaseIds s.db = some out →
      SameRows out.db db' → StepEffect s (.release user req now) db'
  | registered {d : String} {now : Instant} (h : s.db.nodes.get? d = none) :
      StepEffect s (.deviceToken d now)
        { s.db with nodes := s.db.nodes.insert (registeredNode d now) h }
  | stateSet {user : User} {d : String} {state : Option String} {wanted : NodeStatus} {n : Node} :
      user.isStaff → requestedState state = some wanted → s.db.nodes.get? d = some n →
      StepEffect s (.adminSetNodeState user d state) (s.db.setNodeStatus d (adminState n wanted))
  | leaseForced {user : User} {id : Uuid} {now : Instant} {l l' : Lease} {db₁ : Database} :
      user.isStaff → s.db.leases.get? id = some l →
      endLease EndReason.adminForceRelease.value now l s.db = some (l',db₁) →
      StepEffect s (.adminForceReleaseLease user id now) (setReleasing db₁ l.deviceId)
  | nodeForced {user : User} {d : String} {now : Instant} {n : Node} {db₁ : Database} :
      user.isStaff → s.db.nodes.get? d = some n →
      (∀ l ∈ s.db.leases, l.deviceId = d → l.unfinished = true → Billable now s.db.timeZone l) →
      Ends EndReason.adminForceRelease.value now
        ((s.db.leasesOf d Lease.unfinished).map Lease.leaseId) s.db db₁ →
      StepEffect s (.adminForceReleaseNode user d now) (db₁.setNodeStatus d (forcedStatus n))
  | deleted {user : User} {d : String} : user.isStaff → s.db.leasesOf d Lease.unfinished = [] →
      StepEffect s (.adminDeleteNode user d) (deleteNode (deleteLeasesOf s.db d) d)
  | patched {user : User} {d : String} {patch : NodePatch} : user.isStaff →
      StepEffect s (.adminUpdateNode user d patch) (s.db.updateNode d patch.apply)
  | connected {d c : String} {now : Instant} : s.connections.get? c = none → d ≠ "" → c ≠ "" →
      StepEffect s (.connect (.device d) c now) (nodeConnected d c now s.db)
  | disconnected {c d : String} {now : Instant} {m : ConnectionMeta} {db' : Database}
      {sends : List Send} : s.connections.get? c = some m → m.role = .device →
      m.deviceId = some d →
      markNodeOfflineAndEndLeases d EndReason.nodeOffline.value now s.db = some (db',sends) →
      StepEffect s (.disconnect c now) db'
  | received {c : String} {msg : ClientMessage} {now : Instant} {m : ConnectionMeta}
      {db' : Database} : s.connections.get? c = some m → MessageEffect m msg now s.db db' →
      StepEffect s (.receive c msg now) db'
  | checked {timeout : ℤ} {now : Instant} : StepEffect s (.checkHeartbeats timeout now)
      (takeDown now (staleNodes s.db timeout now) s.db).1

theorem admin_effect {s : Server} {e : Event} {user : User} {v : ViewResult}
    (h : user.isStaff → StepEffect s e v.db) : StepEffect s e (adminOnly user s.db v).db := by
  rcases adminOnly_cases user s.db v with ⟨hu, ha⟩ | ⟨-, ha, -⟩ <;> rw [ha]
  · exact h hu
  · exact .quiet (SameRows.refl _)

theorem quiet_of_eq {s : Server} {e : Event} {db' : Database} (h : db' = s.db) :
    StepEffect s e db' := .quiet (h ▸ SameRows.refl _)

/-- When a lease of the node cannot be billed, releasing the node by force
raises. -/
theorem forceReleaseNode_unbillable {d : String} {now : Instant} {db : Database}
    (h : ¬∀ l ∈ db.leases, l.deviceId = d → l.unfinished = true → Billable now db.timeZone l) :
    (adminForceReleaseNode d now db).db = db := by
  have hraises : endLeases EndReason.adminForceRelease.value now
      (db.leasesOf d Lease.unfinished) db = none := by
    rw [endLeases_eq_none_iff (leasesOf_rows d _) (leasesOf_nodup db d _)]
    by_contra hno
    refine h fun l hl hd hu => ?_
    by_contra hb
    exact hno ⟨l,(Database.mem_leasesOf db d _ l).mpr ⟨hl,hd,hu⟩,hb⟩
  unfold adminForceReleaseNode
  split
  · rfl
  · rw [hraises]
    rfl

theorem step_effect (e : Event) (s : Server) : StepEffect s e (step e s).db := by
  cases e with
  | rent user req now draw =>
    rcases rentLease_cases user req now draw s.db with h | ⟨db₁, ls, h, hrows⟩
    · exact quiet_of_eq h
    · exact .rented h hrows
  | release user req now =>
    rcases releaseLease_cases user req now s.db with h | ⟨out, h, hrows⟩
    · exact quiet_of_eq h
    · exact .released h hrows
  | leaseList user => exact quiet_of_eq rfl
  | billingInfo user => exact .quiet (billingInfo_rows user s.db)
  | poolNodes user region tier status => exact quiet_of_eq rfl
  | deviceToken d now =>
    change StepEffect s _ (deviceToken d now s.db).db
    rcases deviceToken_cases d now s.db with h | ⟨hk, h⟩
    · exact quiet_of_eq h
    · rw [h]
      exact .registered hk
  | adminNodes user => exact admin_effect (fun _ => quiet_of_eq rfl)
  | adminSetNodeState user d state =>
    refine admin_effect (fun hu => ?_)
    rcases adminSetNodeState_cases d state s.db with h | ⟨wanted, n, hw, hn, h⟩
    · exact quiet_of_eq h
    · rw [h]
      exact .stateSet hu hw hn
  | adminForceReleaseLease user id now =>
    refine admin_effect (fun hu => ?_)
    rcases adminForceReleaseLease_cases id now s.db with h | ⟨l, l', db₁, hl, he, h⟩
    · exact quiet_of_eq h
    · rw [h]
      exact .leaseForced hu hl he
  | adminForceReleaseNode user d now =>
    refine admin_effect (fun hu => ?_)
    by_cases hb : ∀ l ∈ s.db.leases, l.deviceId = d → l.unfinished = true →
        Billable now s.db.timeZone l
    · rcases adminForceReleaseNode_cases d now s.db with h | ⟨n, db₁, hn, he, h⟩
      · exact quiet_of_eq h
      · rw [h]
        exact .nodeForced hu hn hb he
    · exact quiet_of_eq (forceReleaseNode_unbillable hb)
  | adminRebootNode user d => exact admin_effect (fun _ => quiet_of_eq (adminRebootNode_db d s.db))
  | adminDeleteNode user d =>
    refine admin_effect (fun hu => ?_)
    rcases adminDeleteNode_cases d s.db with h | ⟨hnone, h⟩
    · exact quiet_of_eq h
    · rw [h]
      exact .deleted hu hnone
  | adminUpdateNode user d patch =>
    refine admin_effect (fun hu => ?_)
    rcases adminUpdateNode_cases d patch s.db with h | h
    · exact quiet_of_eq h
    · rw [h]
      exact .patched hu
  | savePricePlan plan => exact .quiet (savePricePlan_rows plan s.db)
  | connect auth c now =>
    change StepEffect s _ (connect auth c now s).server.db
    cases auth with
    | user u =>
      refine quiet_of_eq ?_
      simp only [connect]
      split <;> rfl
    | device d =>
      by_cases hok : s.connections.get? c = none ∧ d ≠ "" ∧ c ≠ ""
      · rw [connect_device hok.1 hok.2.1 hok.2.2]
        exact .connected hok.1 hok.2.1 hok.2.2
      · exact quiet_of_eq (by rw [connect_rejected hok])
  | disconnect c now =>
    change StepEffect s _ (disconnect c now s).server.db
    rcases disconnect_cases c now s with h | ⟨m, d, sends, hm, hr, hd, h⟩
    · exact quiet_of_eq h
    · exact .disconnected hm hr hd h
  | receive c msg now =>
    rcases receive_effect c msg now s with h | ⟨m, hm, h⟩
    · exact quiet_of_eq h
    · exact .received hm h
  | checkHeartbeats timeout now => exact .checked

end CloudPlay.StepEffects
