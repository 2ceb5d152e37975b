import CloudPlay.ExactAllocation
import CloudPlay.LeaseTransitions
import CloudPlay.NodeNotices

/-!
# What a node is told about its leases

Two messages change what an agent lets in, `lease_assigned` and
`lease_release`. Renting sends the one for each lease it makes, and the three
ways to release a lease send the other, also for a lease that has ended long
ago. Everything else the server sends is silent about leases.
-/

set_option autoImplicit false

namespace CloudPlay.LeaseOrders
open KeyedTable ControlPlaneModels ControlPlaneSerializers ControlPlaneDatabase LeaseLifecycle
open ControlPlaneViews ControlPlaneConsumer ControlPlaneServer ControlPlaneEffects LeaseEnding
open ExclusiveAssignment EndedTerminal NodeNotices ExactAllocation LeaseTransitions

/-- Neither an assignment nor a release. -/
def Silent : Message → Prop
  | .leaseAssigned _ _ _ _ => False
  | .leaseRelease _ _ _ => False
  | _ => True

/-- A lease of the device that is released has not ended, unless no other has
taken its place. -/
def EndsLive (deviceId : String) (db : Database) (l : Lease) : Prop :=
  l.deviceId = deviceId → l.endedAt = none ∨ Idle db deviceId

/-- Nobody releases an old lease of the device over the head of its customer. -/
def ReleasesLive (deviceId : String) : Event → Server → Prop
  | .release user req _, s => ∀ id, LeaseRef.uuid id ∈ req.leaseIds →
      ∀ l ∈ leaseOfUser s.db user.id id, EndsLive deviceId s.db l
  | .adminForceReleaseLease _ id _, s => ∀ l ∈ s.db.leases.get? id, EndsLive deviceId s.db l
  | _, _ => True

/-- What a step may send, by what it leaves behind. -/
inductive Ordered (deviceId : String) (db : Database) : Send → Prop
  | silent (send : Send) : Silent send.message → Ordered deviceId db send
  | assigned (l : Lease) : l ∈ db.leases → l.endedAt = none →
      Ordered deviceId db (leaseAssigned l)
  | released (l : Lease) (reason : EndReason) : (l.deviceId = deviceId → Idle db deviceId) →
      Ordered deviceId db (leaseRelease l reason)

section Silence

theorem silent_pushes (f : Lease → Lease) (ls : List Lease) (db : Database) :
    ∀ send ∈ ls.map (fun l => pushLeaseUpdate (f l)) ++ [pushPoolUpdate db],
      Silent send.message := by
  intro send h
  simp only [List.mem_append, List.mem_map, List.mem_singleton] at h
  rcases h with ⟨l, -, rfl⟩ | rfl <;> trivial

theorem markOffline_silent {d reason : String} {now : Instant} {db db' : Database}
    {sends : List Send} (h : markNodeOfflineAndEndLeases d reason now db = some (db',sends)) :
    ∀ send ∈ sends, Silent send.message := by
  rcases markOffline_cases h with ⟨-, -, rfl⟩ | ⟨n, -, -, rfl⟩
  · simp
  · exact silent_pushes _ _ _

theorem takeDown_silent (now : Instant) (nodes : List Node) (db : Database) :
    ∀ send ∈ (takeDown now nodes db).2, Silent send.message := by
  induction nodes generalizing db with
  | nil => simp [takeDown]
  | cons n nodes ih =>
    unfold takeDown
    split
    · simp
    · rename_i db' sends h
      intro send hs
      rcases List.mem_append.mp hs with hs | hs
      · exact markOffline_silent h send hs
      · exact ih db' send hs

theorem broadcast_silent (connections : Table ConnectionMeta.connectionId) :
    ∀ send ∈ broadcastConnectedDevices connections, Silent send.message := by
  intro send hs
  obtain ⟨uid, -, rfl⟩ := List.mem_map.mp hs
  trivial

theorem connect_silent (auth : WsAuth) (c : String) (now : Instant) (s : Server) :
    ∀ send ∈ (connect auth c now s).sends, Silent send.message := by
  unfold connect
  split
  · split <;> simp [Silent]
  · split
    · simp
    · split <;> simp [Silent]

theorem disconnect_silent (c : String) (now : Instant) (s : Server) :
    ∀ send ∈ (disconnect c now s).sends, Silent send.message := by
  unfold disconnect
  split
  · simp
  · dsimp only
    split
    · split
      · simp
      · rename_i db sends h
        exact markOffline_silent h
    · exact broadcast_silent _

theorem handleRequestRemoteControlLease_silent {m : ConnectionMeta} {ref : LeaseRef}
    {settings : Fields} {s : Server} {r : StepResult}
    (h : handleRequestRemoteControlLease m ref settings s = some r) :
    ∀ send ∈ r.sends, Silent send.message := by
  unfold handleRequestRemoteControlLease at h
  split at h
  · cases h
    simp [Silent, errorMessage]
  · cases h
  · split at h
    · cases h
      simp [Silent, errorMessage]
    · split at h
      · cases h
        simp [Silent, errorMessage]
      · split at h
        · cases h
          simp [Silent, pushLeaseUpdate, forwardRequest]
        · cases h
          simp [Silent, forwardRequest]

theorem handleMessage_silent {m : ConnectionMeta} {msg : ClientMessage} {now : Instant}
    {s : Server} {r : StepResult} (h : handleMessage m msg now s = some r) :
    ∀ send ∈ r.sends, Silent send.message := by
  unfold handleMessage at h
  split at h
  · cases h
    simp [Silent]
  · cases h
    unfold handleUpdateDeviceInfo
    dsimp only
    split
    · simp
    · exact broadcast_silent _
  · cases h
    simp [Silent, pushPoolUpdate]
  · cases h
    simp
  · unfold handleLeaseReady at h
    split at h
    · cases h
      simp
    · cases h
      simp
    · cases h
    · dsimp only at h
      split at h
      · cases h
        simp
      · cases h
        simp [Silent, pushLeaseUpdate, pushPoolUpdate]
  · exact handleRequestRemoteControlLease_silent h
  · cases h
    intro send hs
    rw [relay_sends send hs]
    trivial
  · cases h
    intro send hs
    rw [relay_sends send hs]
    trivial
  · cases h
    simp

end Silence

section Releasing
variable {deviceId : String} {t : Instant} {db db' : Database}

/-- Ending the live lease of a device leaves it idle. -/
theorem ends_idle {reason : String} {l : Lease} (hex : Exclusive db) (hl : l ∈ db.leases)
    (he : Ends reason t [l.leaseId] db db') (hd : l.deviceId = deviceId)
    (hlive : EndsLive deviceId db l) : Idle db' deviceId := by
  intro q' hq' hqd
  obtain ⟨q, hq, rfl⟩ := (he.mem q').mp hq'
  have hmove := finishIn_move reason t db.timeZone [l.leaseId] q
  have hqdev : q.deviceId = deviceId := hmove.deviceId.symm.trans hqd
  cases hqe : q.endedAt with
  | some u => exact hmove.ended (by simp [hqe])
  | none =>
    rcases hlive hd with hnone | hidle
    · have hsame : q = l := hex.single q hq l hl hqe hnone (hqdev.trans hd.symm)
      rw [hsame, finishIn, if_pos (List.mem_singleton_self _)]
      exact finish_endedAt reason t db.timeZone l
    · have hended := hidle q hq hqdev
      simp [hqe] at hended

/-- In a batch, too, every lease released leaves its device idle. -/
theorem releaseLeases_idle {user : UserId} {refs : List LeaseRef} {out : ReleaseOutcome}
    (hex : Exclusive db)
    (hlive : ∀ id, LeaseRef.uuid id ∈ refs →
      ∀ l ∈ leaseOfUser db user id, EndsLive deviceId db l)
    (h : releaseLeases user t refs db = some out) :
    ∀ l ∈ out.leases, l.deviceId = deviceId → Idle out.db deviceId := by
  induction refs generalizing db out with
  | nil =>
    simp only [releaseLeases, Option.some.injEq] at h
    simp [← h]
  | cons ref refs ih =>
    cases ref with
    | absent => simp [releaseLeases] at h
    | malformed => simp [releaseLeases] at h
    | uuid id =>
      simp only [releaseLeases] at h
      cases hl : leaseOfUser db user id with
      | none =>
        simp only [hl, Option.some.injEq] at h
        simp [← h]
      | some l =>
        simp only [hl, Option.bind_eq_bind, Option.bind_eq_some_iff, Option.pure_def,
          Option.some.injEq, Prod.exists] at h
        obtain ⟨l', db₁, he, out', hrest, rfl⟩ := h
        have hrow := Table.get?_mem (leaseOfUser_eq_some.mp hl).1
        obtain ⟨hends, rfl⟩ := endLease_ends hrow he
        have hshrinks := (ends_shrinks hends).trans (setReleasing_shrinks db₁ l.deviceId)
        have hidle : l.deviceId = deviceId → Idle (setReleasing db₁ l.deviceId) deviceId := by
          intro hd
          exact (setReleasing_shrinks db₁ l.deviceId).idle
            (ends_idle hex hrow hends hd (hlive id List.mem_cons_self l hl))
        -- a lease named again was ended by this round or before the request
        have hlater : ∀ i, LeaseRef.uuid i ∈ refs →
            ∀ q ∈ leaseOfUser (setReleasing db₁ l.deviceId) user i,
              EndsLive deviceId (setReleasing db₁ l.deviceId) q := by
          intro i hi q' hq' hqd
          obtain ⟨hget, hu⟩ := leaseOfUser_eq_some.mp hq'
          rw [setReleasing_leases, hends.get?, Option.map_eq_some_iff] at hget
          obtain ⟨q, hq, rfl⟩ := hget
          have hmove := finishIn_move EndReason.userRelease.value t db.timeZone [l.leaseId] q
          have hqu : leaseOfUser db user i = some q := by
            refine leaseOfUser_eq_some.mpr ⟨hq,?_⟩
            rw [← hu, finishIn]
            split <;> simp
          rcases hlive i (List.mem_cons_of_mem _ hi) q hqu (hmove.deviceId.symm.trans hqd) with
            hnone | hnow
          · by_cases hid : q.leaseId ∈ [l.leaseId]
            · have hsame : q = l :=
                db.leases.key_injective (Table.get?_mem hq) hrow (List.mem_singleton.mp hid)
              exact Or.inr (hidle (hsame ▸ hmove.deviceId.symm.trans hqd))
            · rw [finishIn, if_neg hid]
              exact Or.inl hnone
          · exact Or.inr (hshrinks.idle hnow)
        have htail : ∀ q ∈ out'.leases, q.deviceId = deviceId → Idle out'.db deviceId :=
          ih (hshrinks.exclusive hex) hlater hrest
        intro q hq hqd
        rcases List.mem_cons.mp hq with rfl | hq
        · exact (releaseLeases_shrinks hrest).idle (hidle (by simpa using hqd))
        · exact htail q hq hqd

end Releasing

section Views
variable {deviceId : String} {db : Database}

theorem ordered_notices {ls : List Lease} {reason : EndReason} {db' db₁ : Database}
    (h : ∀ l ∈ ls, l.deviceId = deviceId → Idle db' deviceId) :
    ∀ send ∈ ls.flatMap (fun l => [leaseRelease l reason,pushLeaseUpdate l]) ++
      [pushPoolUpdate db₁], Ordered deviceId db' send := by
  intro send hs
  simp only [List.mem_append, List.mem_flatMap, List.mem_cons, List.not_mem_nil, or_false] at hs
  rcases hs with ⟨l, hl, rfl | rfl⟩ | rfl
  · exact .released l reason (h l hl)
  · exact .silent _ trivial
  · exact .silent _ trivial

theorem rentLease_ordered (user : User) (req : RentRequest) (now : Instant)
    (draw : ℕ → Uuid × String) :
    ∀ send ∈ (rentLease user req now draw db).sends,
      Ordered deviceId (rentLease user req now draw db).db send := by
  unfold rentLease
  split
  · simp [answer]
  · split
    · simp [answer]
    · dsimp only
      split
      · simp [answer]
      · split
        · simp [answer]
        · rename_i db' ls h
          obtain ⟨hrows, -, -, hall⟩ := rentNodes_rows h
          intro send hs
          rw [remember_sends, List.mem_append, List.mem_flatMap] at hs
          rcases hs with ⟨l, hl, hs⟩ | hs
          · rcases List.mem_pair.mp hs with rfl | rfl
            · refine .assigned l ?_ (hall l hl).2.2
              rw [(remember_rows db' _ _ _ _ _).leases, Table.mem_rows, hrows]
              exact List.mem_append_right _ hl
            · exact .silent _ trivial
          · rw [List.mem_singleton.mp hs]
            exact .silent _ trivial

/-- A rented lease is announced to its node, under an id that was drawn. -/
theorem rentLease_announces {user : User} {req : RentRequest} {now : Instant}
    {draw : ℕ → Uuid × String} {l : Lease}
    (hl : l ∈ (rentLease user req now draw db).db.leases) (hnew : l ∉ db.leases) :
    leaseAssigned l ∈ (rentLease user req now draw db).sends ∧
    (∃ i, l.leaseId = (draw i).1) ∧
    ∃ n ∈ db.nodes, n.status = .free ∧ n.deviceId = l.deviceId := by
  unfold rentLease at hl ⊢
  split at hl
  · exact absurd hl hnew
  · rename_i hgo
    rw [if_neg hgo]
    split at hl
    · exact absurd hl hnew
    · dsimp only at hl ⊢
      split at hl
      · exact absurd hl hnew
      · rename_i hcap
        rw [if_neg hcap]
        split at hl
        · exact absurd hl hnew
        · rename_i db' ls h
          rw [(remember_rows db' _ _ _ _ _).leases] at hl
          obtain ⟨hrows, -, -, -⟩ := rentNodes_rows h
          have hls : l ∈ ls := by
            rw [Table.mem_rows, hrows] at hl
            exact (List.mem_append.mp hl).resolve_left hnew
          obtain ⟨j, -, n, hn, rfl⟩ := (rentNodes_drawn h l hl).resolve_left hnew
          rw [remember_sends]
          refine ⟨List.mem_append_left _ (List.mem_flatMap.mpr ⟨_,hls,List.mem_cons_self⟩),
            ⟨j,rfl⟩,n,(mem_freeNodes hn).1,(mem_freeNodes hn).2,rfl⟩

theorem releaseLease_ordered {user : User} {req : ReleaseRequest} {now : Instant}
    (hex : Exclusive db)
    (hlive : ∀ id, LeaseRef.uuid id ∈ req.leaseIds →
      ∀ l ∈ leaseOfUser db user.id id, EndsLive deviceId db l) :
    ∀ send ∈ (releaseLease user req now db).sends,
      Ordered deviceId (releaseLease user req now db).db send := by
  unfold releaseLease
  split
  · simp [answer]
  · split
    · simp [answer]
    · split
      · simp [answer]
      · rename_i out h
        split
        · simp [answer]
        · rw [remember_sends]
          refine ordered_notices fun l hl hd => ?_
          have hidle := releaseLeases_idle hex hlive h l hl hd
          exact (SameRows.shrinks (remember_rows out.db _ _ _ _ _)).idle hidle

theorem adminForceReleaseLease_ordered {id : Uuid} {now : Instant} (hex : Exclusive db)
    (hlive : ∀ l ∈ db.leases.get? id, EndsLive deviceId db l) :
    ∀ send ∈ (adminForceReleaseLease id now db).sends,
      Ordered deviceId (adminForceReleaseLease id now db).db send := by
  unfold adminForceReleaseLease
  split
  · simp [answer]
  · rename_i l hl
    split
    · simp [answer]
    · rename_i l' db' he
      obtain ⟨hends, rfl⟩ := endLease_ends (Table.get?_mem hl) he
      intro send hs
      simp only [List.mem_cons, List.not_mem_nil, or_false] at hs
      rcases hs with rfl | rfl | rfl
      · refine .released _ .adminForceRelease fun hd => ?_
        rw [finish_deviceId] at hd
        exact (setReleasing_shrinks db' l.deviceId).idle
          (ends_idle hex (Table.get?_mem hl) hends hd (hlive l hl))
      · exact .silent _ trivial
      · exact .silent _ trivial

theorem adminForceReleaseNode_ordered (d : String) (now : Instant) (hc : Consistent db) :
    ∀ send ∈ (adminForceReleaseNode d now db).sends,
      Ordered deviceId (adminForceReleaseNode d now db).db send := by
  unfold adminForceReleaseNode
  split
  · simp [answer]
  · rename_i n hn
    split
    · simp [answer]
    · rename_i ls db' he
      obtain ⟨hends, rfl⟩ := endLeasesOf_ends he
      refine ordered_notices fun l hl hd => ?_
      obtain ⟨q, hq, rfl⟩ := List.mem_map.mp hl
      have hqd : q.deviceId = d := ((Database.mem_leasesOf db d _ q).mp hq).2.1
      have hsame : d = deviceId := by simpa [hqd] using hd
      rw [← hsame]
      exact (setStatus_shrinks db' d _ fun _ => idle_of_ends hc hends).idle
        (idle_of_ends hc hends)

end Views

/-- What a step sends about leases is true of the state it leaves. -/
theorem handle_ordered (deviceId : String) (e : Event) (s : Server) (hex : Exclusive s.db)
    (hc : Consistent s.db) (hg : ReleasesLive deviceId e s) :
    ∀ send ∈ (handle e s).sends, Ordered deviceId (handle e s).server.db send := by
  have hsilent : (∀ send ∈ (handle e s).sends, Silent send.message) →
      ∀ send ∈ (handle e s).sends, Ordered deviceId (handle e s).server.db send :=
    fun h send hs => .silent send (h send hs)
  have hadmin : ∀ (user : User) (v : ViewResult),
      (∀ send ∈ v.sends, Ordered deviceId v.db send) →
      ∀ send ∈ (adminOnly user s.db v).sends,
        Ordered deviceId (adminOnly user s.db v).db send := by
    intro user v h
    rcases adminOnly_cases user s.db v with ⟨-, hv⟩ | ⟨-, -, hv⟩
    · rwa [hv]
    · simp [hv]
  cases e with
  | rent user req now draw => exact rentLease_ordered user req now draw
  | release user req now => exact releaseLease_ordered hex hg
  | leaseList user => exact hsilent (by simp [handle, ofView, leaseList, answer])
  | billingInfo user => exact hsilent (by simp [handle, ofView, billingInfo, answer])
  | poolNodes user region tier status =>
    exact hsilent (by simp [handle, ofView, poolNodes, answer])
  | deviceToken d now =>
    apply hsilent
    simp only [handle, ofView, deviceToken]
    split <;> simp [answer]
  | adminNodes user => exact hadmin user _ (by simp [adminNodes, answer])
  | adminSetNodeState user d state =>
    refine hadmin user _ ?_
    unfold adminSetNodeState
    split
    · simp [answer]
    · split
      · simp [answer]
      · intro send hs
        exact .silent send (List.mem_singleton.mp hs ▸ trivial)
  | adminForceReleaseLease user id now =>
    exact hadmin user _ (adminForceReleaseLease_ordered hex hg)
  | adminForceReleaseNode user d now =>
    exact hadmin user _ (adminForceReleaseNode_ordered d now hc)
  | adminRebootNode user d =>
    refine hadmin user _ ?_
    unfold adminRebootNode
    split
    · simp [answer]
    · intro send hs
      exact .silent send (List.mem_singleton.mp hs ▸ trivial)
  | adminDeleteNode user d =>
    refine hadmin user _ ?_
    unfold adminDeleteNode
    split
    · simp [answer]
    · dsimp only
      split
      · simp [answer]
      · intro send hs
        exact .silent send (List.mem_singleton.mp hs ▸ trivial)
  | adminUpdateNode user d patch =>
    refine hadmin user _ ?_
    unfold adminUpdateNode
    split
    · simp [answer]
    · split
      · simp [answer]
      · intro send hs
        exact .silent send (List.mem_singleton.mp hs ▸ trivial)
  | savePricePlan plan => exact hsilent (by simp [handle])
  | connect auth c now => exact hsilent (connect_silent auth c now s)
  | disconnect c now => exact hsilent (disconnect_silent c now s)
  | receive c msg now =>
    apply hsilent
    simp only [handle]
    split
    · simp
    · rename_i m hm
      cases h : handleMessage m msg now s with
      | none => simp
      | some r => exact handleMessage_silent h
  | checkHeartbeats timeout now =>
    exact hsilent (takeDown_silent now (staleNodes s.db timeout now) s.db)

end CloudPlay.LeaseOrders
