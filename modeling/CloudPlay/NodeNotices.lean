import CloudPlay.EndedTerminal

/-!
# What the server sends to a node

Two kinds of message make a node accept a stream: the assignment of a lease,
which carries its token, and the request of a remote session. Every handler
is listed by what it can send of these. An assignment names a lease that is
in the tables, and a request comes from the lease path, which has checked the
lease, or from the path that checks nothing.
-/

set_option autoImplicit false

namespace CloudPlay.NodeNotices
open KeyedTable ControlPlaneModels ControlPlaneSerializers ControlPlaneDatabase LeaseLifecycle
open ControlPlaneViews ControlPlaneConsumer ControlPlaneServer ControlPlaneEffects
open ExclusiveAssignment EndedTerminal

/-- Neither an assignment nor a request. -/
def Routine : Message → Prop
  | .leaseAssigned _ _ _ _ => False
  | .remoteSessionRequested _ _ => False
  | _ => True

/-- A stream of the device is his by a lease that is READY or ACTIVE. -/
def Holds (db : Database) (user : Option UserId) (deviceId : String) : Prop :=
  ∃ l ∈ db.leases.rows, some l.user = user ∧ l.deviceId = deviceId ∧ Streamable l ∧
    l.endedAt = none

instance (db : Database) (user : Option UserId) (deviceId : String) :
    Decidable (Holds db user deviceId) :=
  inferInstanceAs (Decidable (∃ l ∈ db.leases.rows, some l.user = user ∧ l.deviceId = deviceId ∧
    Streamable l ∧ l.endedAt = none))

/-- The request of a remote control that names no lease. -/
def isLegacy : Event → Bool
  | .receive _ (.requestRemoteControl _ _) _ => true
  | _ => false

/-- What may be sent at the end of a step. -/
inductive Justified (s : Server) (legacy : Bool) : Send → Prop
  | routine (send : Send) : Routine send.message → Justified s legacy send
  | assigned (l : Lease) : l ∈ s.db.leases → Justified s legacy (leaseAssigned l)
  | checked (m : ConnectionMeta) (deviceId : String) (settings : Fields) :
      s.connections.get? m.connectionId = some m → Holds s.db m.userId deviceId →
      Justified s legacy (forwardRequest m deviceId settings)
  | unchecked (send : Send) : legacy = true →
      (∀ id d token unit, send.message ≠ .leaseAssigned id d token unit) →
      Justified s legacy send

section Handlers

theorem routine_pushes (ls : List Lease) (db : Database) :
    ∀ send ∈ ls.map pushLeaseUpdate ++ [pushPoolUpdate db], Routine send.message := by
  intro send h
  simp only [List.mem_append, List.mem_map, List.mem_singleton] at h
  rcases h with ⟨l, -, rfl⟩ | rfl <;> trivial

theorem routine_releases (ls : List Lease) (reason : EndReason) (db : Database) :
    ∀ send ∈ ls.flatMap (fun l => [leaseRelease l reason,pushLeaseUpdate l]) ++
      [pushPoolUpdate db], Routine send.message := by
  intro send h
  simp only [List.mem_append, List.mem_flatMap, List.mem_cons, List.not_mem_nil, or_false] at h
  rcases h with ⟨l, -, rfl | rfl⟩ | rfl <;> trivial

theorem remember_sends (db : Database) (sends : List Send) (user : User) (scope : Scope)
    (key : Option String) (body : Body) :
    (remember db sends user scope key body).sends = sends := by
  unfold remember
  split
  · rfl
  · split <;> rfl

theorem rentNodes_leases {user : UserId} {unit : BillingUnit} {price : Money} {now : Instant}
    {draw : ℕ → Uuid × String} {i : ℕ} {nodes : List Node} {db db' : Database} {ls : List Lease}
    (h : rentNodes user unit price now draw i nodes db = some (db',ls)) :
    (∀ l ∈ ls, l ∈ db'.leases) ∧ ∀ l ∈ db.leases, l ∈ db'.leases := by
  induction nodes generalizing i db ls with
  | nil =>
    simp only [rentNodes, Option.some.injEq, Prod.mk.injEq] at h
    obtain ⟨rfl, rfl⟩ := h
    exact ⟨by simp,fun l hl => hl⟩
  | cons n nodes ih =>
    simp only [rentNodes, Option.bind_eq_bind, Option.bind_eq_some_iff, Option.pure_def,
      Option.some.injEq, Prod.mk.injEq, Prod.exists] at h
    obtain ⟨db₁, h₁, db₂, ls₂, h₂, rfl, rfl⟩ := h
    have hmem := (createLease_mem h₁).2
    obtain ⟨hnew, hkept⟩ := ih h₂
    constructor
    · intro l hl
      rcases List.mem_cons.mp hl with rfl | hl
      · exact hkept _ ((hmem _).mpr (Or.inr rfl))
      · exact hnew l hl
    · exact fun l hl => hkept l ((hmem l).mpr (Or.inl hl))

theorem rentLease_sends (user : User) (req : RentRequest) (now : Instant)
    (draw : ℕ → Uuid × String) (db : Database) :
    ∀ send ∈ (rentLease user req now draw db).sends, Routine send.message ∨
      ∃ l ∈ (rentLease user req now draw db).db.leases, send = leaseAssigned l := by
  unfold rentLease
  split
  · simp [answer]
  · split
    · simp [answer]
    · dsimp only
      split
      · simp [answer]
      · split
        · simp [answer]
        · rename_i db' ls h
          intro send hs
          rw [remember_sends, List.mem_append, List.mem_flatMap] at hs
          rcases hs with ⟨l, hl, hs⟩ | hs
          · simp only [List.mem_cons, List.not_mem_nil, or_false] at hs
            rcases hs with rfl | rfl
            · right
              refine ⟨l,?_,rfl⟩
              rw [(remember_rows db' _ _ _ _ _).leases]
              exact (rentNodes_leases h).1 l hl
            · exact Or.inl trivial
          · rw [List.mem_singleton.mp hs]
            exact Or.inl trivial

theorem releaseLease_sends (user : User) (req : ReleaseRequest) (now : Instant) (db : Database) :
    ∀ send ∈ (releaseLease user req now db).sends, Routine send.message := by
  unfold releaseLease
  split
  · simp [answer]
  · split
    · simp [answer]
    · split
      · simp [answer]
      · split
        · simp [answer]
        · rename_i out _ _ _
          rw [remember_sends]
          exact routine_releases out.leases .userRelease out.db

theorem markOffline_sends {d reason : String} {now : Instant} {db db' : Database}
    {sends : List Send} (h : markNodeOfflineAndEndLeases d reason now db = some (db',sends)) :
    ∀ send ∈ sends, Routine send.message := by
  unfold markNodeOfflineAndEndLeases at h
  split at h
  · simp only [Option.some.injEq, Prod.mk.injEq] at h
    simp [← h.2]
  · simp only [Option.bind_eq_bind, Option.bind_eq_some_iff, Option.pure_def, Option.some.injEq,
      Prod.mk.injEq, Prod.exists] at h
    obtain ⟨ended, db'', -, rfl, rfl⟩ := h
    exact routine_pushes ended _

theorem takeDown_sends (now : Instant) (nodes : List Node) (db : Database) :
    ∀ send ∈ (takeDown now nodes db).2, Routine send.message := by
  induction nodes generalizing db with
  | nil => simp [takeDown]
  | cons n nodes ih =>
    unfold takeDown
    split
    · simp
    · rename_i db' sends h
      intro send hs
      rcases List.mem_append.mp hs with hs | hs
      · exact markOffline_sends h send hs
      · exact ih db' send hs

theorem broadcast_sends (connections : Table ConnectionMeta.connectionId) :
    ∀ send ∈ broadcastConnectedDevices connections, Routine send.message := by
  intro send hs
  simp only [broadcastConnectedDevices, List.mem_map] at hs
  obtain ⟨uid, -, rfl⟩ := hs
  trivial

theorem connect_sends (auth : WsAuth) (c : String) (now : Instant) (s : Server) :
    ∀ send ∈ (connect auth c now s).sends, Routine send.message := by
  unfold connect
  split
  · split
    · simp
    · simp [Routine]
  · split
    · simp
    · split
      · simp
      · simp [Routine]

theorem disconnect_sends (c : String) (now : Instant) (s : Server) :
    ∀ send ∈ (disconnect c now s).sends, Routine send.message := by
  unfold disconnect
  split
  · simp
  · dsimp only
    split
    · split
      · simp
      · rename_i db sends h
        exact markOffline_sends h
    · exact broadcast_sends _

theorem admin_sends (user : User) (db : Database) (view : ViewResult)
    (h : ∀ send ∈ view.sends, Routine send.message) :
    ∀ send ∈ (adminOnly user db view).sends, Routine send.message := by
  rcases adminOnly_cases user db view with ⟨-, hv⟩ | ⟨-, -, hv⟩
  · rwa [hv]
  · simp [hv]

theorem adminSetNodeState_sends (d : String) (state : Option String) (db : Database) :
    ∀ send ∈ (adminSetNodeState d state db).sends, Routine send.message := by
  unfold adminSetNodeState
  split
  · simp [answer]
  · split
    · simp [answer]
    · simp [pushPoolUpdate, Routine]

theorem adminForceReleaseLease_sends (id : Uuid) (now : Instant) (db : Database) :
    ∀ send ∈ (adminForceReleaseLease id now db).sends, Routine send.message := by
  unfold adminForceReleaseLease
  split
  · simp [answer]
  · split
    · simp [answer]
    · simp [leaseRelease, pushLeaseUpdate, pushPoolUpdate, Routine]

theorem adminForceReleaseNode_sends (d : String) (now : Instant) (db : Database) :
    ∀ send ∈ (adminForceReleaseNode d now db).sends, Routine send.message := by
  unfold adminForceReleaseNode
  split
  · simp [answer]
  · split
    · simp [answer]
    · exact routine_releases _ .adminForceRelease _

theorem adminRebootNode_sends (d : String) (db : Database) :
    ∀ send ∈ (adminRebootNode d db).sends, Routine send.message := by
  unfold adminRebootNode
  split
  · simp [answer]
  · simp [Routine]

theorem adminDeleteNode_sends (d : String) (db : Database) :
    ∀ send ∈ (adminDeleteNode d db).sends, Routine send.message := by
  unfold adminDeleteNode
  split
  · simp [answer]
  · dsimp only
    split
    · simp [answer]
    · simp [pushPoolUpdate, Routine]

theorem adminUpdateNode_sends (d : String) (patch : NodePatch) (db : Database) :
    ∀ send ∈ (adminUpdateNode d patch db).sends, Routine send.message := by
  unfold adminUpdateNode
  split
  · simp [answer]
  · split
    · simp [answer]
    · simp [pushPoolUpdate, Routine]

/-- A lease that admits a stream has not ended. -/
theorem streamable_live {db : Database} (hc : Consistent db) {l : Lease} (hl : l ∈ db.leases)
    (h : Streamable l) : l.endedAt = none := by
  apply live_of_status hc hl
  rcases h with h | h <;> simp [h]

theorem authorizeLeaseStream_eq_some {id : Uuid} {user : Option UserId} {db : Database}
    {l : Lease} (h : authorizeLeaseStream id user db = some l) :
    db.leases.get? id = some l ∧ some l.user = user ∧ Streamable l := by
  simpa [authorizeLeaseStream, Option.filter_eq_some_iff] using h

theorem setLeaseActive_mem {id : Uuid} {db : Database} {l : Lease}
    (h : db.leases.get? id = some l) : activeLease l ∈ (setLeaseActive id db).leases := by
  have hget : (setLeaseActive id db).leases.get? id = some (activeLease l) := by
    change (db.leases.modify id activeLease activeLease_leaseId).get? id = _
    rw [Table.get?_modify_self, h]
    rfl
  exact Table.get?_mem hget

theorem handleRequestRemoteControlLease_sends {m : ConnectionMeta} {ref : LeaseRef}
    {settings : Fields} {s : Server} {r : StepResult} {legacy : Bool} (hc : Consistent s.db)
    (hm : s.connections.get? m.connectionId = some m)
    (h : handleRequestRemoteControlLease m ref settings s = some r) :
    ∀ send ∈ r.sends, Justified r.server legacy send := by
  unfold handleRequestRemoteControlLease at h
  split at h
  · cases h
    exact fun send hs => .routine send (List.mem_singleton.mp hs ▸ trivial)
  · cases h
  · rename_i id
    split at h
    · cases h
      exact fun send hs => .routine send (List.mem_singleton.mp hs ▸ trivial)
    · rename_i l hl
      obtain ⟨hget, huser, hst⟩ := authorizeLeaseStream_eq_some hl
      have hlive := streamable_live hc (Table.get?_mem hget) hst
      split at h
      · cases h
        exact fun send hs => .routine send (List.mem_singleton.mp hs ▸ trivial)
      · split at h
        · cases h
          have hholds : Holds (setLeaseActive id s.db) m.userId l.deviceId :=
            ⟨activeLease l,setLeaseActive_mem hget,huser,rfl,Or.inr rfl,hlive⟩
          intro send hs
          rcases List.mem_pair.mp hs with rfl | rfl
          · exact .routine _ trivial
          · exact .checked m l.deviceId settings hm hholds
        · cases h
          have hholds : Holds s.db m.userId l.deviceId :=
            ⟨l,Table.get?_mem hget,huser,rfl,hst,hlive⟩
          intro send hs
          rw [List.mem_singleton.mp hs]
          exact .checked m l.deviceId settings hm hholds

theorem relay_sends {s : Server} {target : Option String} {msg : Message} :
    ∀ send ∈ relay s target msg, send.message = msg := by
  unfold relay sendToConnection
  split
  · simp
  · split <;> simp

theorem handleMessage_sends {m : ConnectionMeta} {msg : ClientMessage} {c : String}
    {now : Instant} {s : Server} {r : StepResult} (hc : Consistent s.db)
    (hm : s.connections.get? m.connectionId = some m) (h : handleMessage m msg now s = some r) :
    ∀ send ∈ r.sends, Justified r.server (isLegacy (.receive c msg now)) send := by
  unfold handleMessage at h
  split at h
  · cases h
    exact fun send hs => .routine send (List.mem_singleton.mp hs ▸ trivial)
  · cases h
    unfold handleUpdateDeviceInfo
    dsimp only
    split
    · simp
    · exact fun send hs => .routine _ (broadcast_sends _ send hs)
  · cases h
    exact fun send hs => .routine send (List.mem_singleton.mp hs ▸ trivial)
  · cases h
    simp
  · unfold handleLeaseReady at h
    split at h
    · cases h
      simp
    · cases h
      simp
    · cases h
    · dsimp only at h
      split at h
      · cases h
        simp
      · cases h
        intro send hs
        rcases List.mem_pair.mp hs with rfl | rfl <;> exact .routine _ trivial
  · exact handleRequestRemoteControlLease_sends hc hm h
  · cases h
    intro send hs
    refine .unchecked send rfl fun id d token unit hmsg => ?_
    rw [relay_sends send hs] at hmsg
    cases hmsg
  · cases h
    intro send hs
    refine .routine send ?_
    rw [relay_sends send hs]
    trivial
  · cases h
    simp

end Handlers

/-- Everything a step sends is routine or justified by the state it leaves. -/
theorem handle_justified (e : Event) (s : Server) (hc : Consistent s.db) :
    ∀ send ∈ (handle e s).sends, Justified (handle e s).server (isLegacy e) send := by
  have routine : (∀ send ∈ (handle e s).sends, Routine send.message) →
      ∀ send ∈ (handle e s).sends, Justified (handle e s).server (isLegacy e) send :=
    fun h send hs => .routine send (h send hs)
  cases e with
  | rent user req now draw =>
    intro send hs
    rcases rentLease_sends user req now draw s.db send hs with h | ⟨l, hl, rfl⟩
    · exact .routine send h
    · exact .assigned l hl
  | release user req now => exact routine (releaseLease_sends user req now s.db)
  | leaseList user => exact routine (by simp [handle, ofView, leaseList, answer])
  | billingInfo user => exact routine (by simp [handle, ofView, billingInfo, answer])
  | poolNodes user region tier status =>
    exact routine (by simp [handle, ofView, poolNodes, answer])
  | deviceToken d now =>
    apply routine
    simp only [handle, ofView, deviceToken]
    split <;> simp [answer]
  | adminNodes user =>
    exact routine (admin_sends user s.db _ (by simp [adminNodes, answer]))
  | adminSetNodeState user d state =>
    exact routine (admin_sends user s.db _ (adminSetNodeState_sends d state s.db))
  | adminForceReleaseLease user id now =>
    exact routine (admin_sends user s.db _ (adminForceReleaseLease_sends id now s.db))
  | adminForceReleaseNode user d now =>
    exact routine (admin_sends user s.db _ (adminForceReleaseNode_sends d now s.db))
  | adminRebootNode user d =>
    exact routine (admin_sends user s.db _ (adminRebootNode_sends d s.db))
  | adminDeleteNode user d =>
    exact routine (admin_sends user s.db _ (adminDeleteNode_sends d s.db))
  | adminUpdateNode user d patch =>
    exact routine (admin_sends user s.db _ (adminUpdateNode_sends d patch s.db))
  | savePricePlan plan => exact routine (by simp [handle])
  | connect auth c now => exact routine (connect_sends auth c now s)
  | disconnect c now => exact routine (disconnect_sends c now s)
  | receive c msg now =>
    simp only [handle]
    split
    · simp
    · rename_i m hm
      cases h : handleMessage m msg now s with
      | none => simp
      | some r =>
        have hself : s.connections.get? m.connectionId = some m := by
          rw [Table.get?_key hm, hm]
        exact handleMessage_sends hc hself h
  | checkHeartbeats timeout now =>
    exact routine (takeDown_sends now (staleNodes s.db timeout now) s.db)

end CloudPlay.NodeNotices
