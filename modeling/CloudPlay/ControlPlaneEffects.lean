import CloudPlay.ControlPlaneServer
import CloudPlay.LeaseEnding

/-!
# What a request or a message can do to the tables

One inversion lemma for each handler that writes. A handler that refuses, and
the bookkeeping of idempotency keys, accounts and prices, leave the rows of
nodes, leases and billing records as they are. The two loops over several
rows are covered by closure rules: what every round respects and composes,
the whole loop respects.
-/

set_option autoImplicit false

namespace CloudPlay.ControlPlaneEffects
open KeyedTable ControlPlaneModels ControlPlaneSerializers ControlPlaneDatabase LeaseLifecycle
open ControlPlaneViews ControlPlaneConsumer ControlPlaneServer LeaseEnding

structure SameRows (db db' : Database) : Prop where
  nodes : db'.nodes = db.nodes
  leases : db'.leases = db.leases
  records : db'.billingRecords = db.billingRecords

theorem SameRows.refl (db : Database) : SameRows db db := ⟨rfl,rfl,rfl⟩

theorem remember_rows (db : Database) (sends : List Send) (user : User) (scope : Scope)
    (key : Option String) (body : Body) :
    SameRows db (remember db sends user scope key body).db := by
  cases key with
  | none => exact SameRows.refl db
  | some k =>
    simp only [remember, Database.createIdempotencyKey]
    cases db.idempotencyKeys.insert? ⟨user.id,scope,k,body⟩ with
    | none => exact SameRows.refl db
    | some keys => exact ⟨rfl,rfl,rfl⟩

theorem adminOnly_cases (user : User) (db : Database) (view : ViewResult) :
    (user.isStaff ∧ adminOnly user db view = view) ∨
    (user.isStaff = false ∧ (adminOnly user db view).db = db ∧
      (adminOnly user db view).sends = []) := by
  cases h : user.isStaff with
  | true => exact Or.inl ⟨rfl,by simp [adminOnly, h]⟩
  | false => exact Or.inr ⟨rfl,by simp [adminOnly, h, answer],by simp [adminOnly, h, answer]⟩

theorem rentLease_cases (user : User) (req : RentRequest) (now : Instant)
    (draw : ℕ → Uuid × String) (db : Database) :
    (rentLease user req now draw db).db = db ∨
    ∃ db' ls, rentNodes user.id req.billingUnit
        (getPrice db req.region req.gpuTier req.billingUnit) now draw 0
        (freeNodes db req.region req.gpuTier req.count) db = some (db',ls) ∧
      SameRows db' (rentLease user req now draw db).db := by
  unfold rentLease
  split
  · exact Or.inl rfl
  · split
    · exact Or.inl rfl
    · dsimp only
      split
      · exact Or.inl rfl
      · split
        · exact Or.inl rfl
        · rename_i db' ls h
          exact Or.inr ⟨db',ls,h,remember_rows _ _ _ _ _ _⟩

theorem releaseLease_cases (user : User) (req : ReleaseRequest) (now : Instant)
    (db : Database) :
    (releaseLease user req now db).db = db ∨
    ∃ out, releaseLeases user.id now req.leaseIds db = some out ∧
      SameRows out.db (releaseLease user req now db).db := by
  unfold releaseLease
  split
  · exact Or.inl rfl
  · split
    · exact Or.inl rfl
    · split
      · exact Or.inl rfl
      · rename_i out h
        refine Or.inr ⟨out,h,?_⟩
        split
        · exact SameRows.refl _
        · exact remember_rows _ _ _ _ _ _

theorem setReleasing_cases (db : Database) (d : String) :
    setReleasing db d = db ∨
    ∃ n, db.nodes.get? d = some n ∧ n.blocked = false ∧
      setReleasing db d = db.setNodeStatus d .releasing := by
  unfold setReleasing
  split
  · exact Or.inl rfl
  · rename_i n h
    cases hb : n.blocked with
    | true => exact Or.inl (by simp)
    | false => exact Or.inr ⟨n,h,hb,by simp⟩

@[simp] theorem setReleasing_leases (db : Database) (d : String) :
    (setReleasing db d).leases = db.leases := by
  rcases setReleasing_cases db d with h | ⟨_, -, -, h⟩ <;> rw [h]
  rfl

@[simp] theorem setReleasing_records (db : Database) (d : String) :
    (setReleasing db d).billingRecords = db.billingRecords := by
  rcases setReleasing_cases db d with h | ⟨_, -, -, h⟩ <;> rw [h]
  rfl

/-- What every round of the release loop respects, the loop respects. -/
theorem releaseLeases_closure {R : Database → Database → Prop} (hrefl : ∀ db, R db db)
    (htrans : ∀ a b c, R a b → R b c → R a c) (user : UserId) (t : Instant)
    (hround : ∀ id l l' db db', leaseOfUser db user id = some l →
      endLease EndReason.userRelease.value t l db = some (l',db') →
      R db (setReleasing db' l.deviceId))
    (refs : List LeaseRef) (db : Database) (out : ReleaseOutcome)
    (h : releaseLeases user t refs db = some out) : R db out.db := by
  induction refs generalizing db out with
  | nil =>
    simp only [releaseLeases, Option.some.injEq] at h
    exact h ▸ hrefl db
  | cons ref refs ih =>
    cases ref with
    | absent => simp [releaseLeases] at h
    | malformed => simp [releaseLeases] at h
    | uuid id =>
      simp only [releaseLeases] at h
      cases hl : leaseOfUser db user id with
      | none =>
        simp only [hl, Option.some.injEq] at h
        exact h ▸ hrefl db
      | some l =>
        simp only [hl, Option.bind_eq_bind, Option.bind_eq_some_iff, Option.pure_def,
          Option.some.injEq, Prod.exists] at h
        obtain ⟨l', db', he, out', hrest, rfl⟩ := h
        exact htrans _ _ _ (hround id l l' db db' hl he) (ih _ out' hrest)

theorem takeDown_closure {R : Database → Database → Prop} (hrefl : ∀ db, R db db)
    (htrans : ∀ a b c, R a b → R b c → R a c) (now : Instant)
    (hround : ∀ d sends db db',
      markNodeOfflineAndEndLeases d heartbeatTimeout now db = some (db',sends) → R db db')
    (nodes : List Node) (db : Database) : R db (takeDown now nodes db).1 := by
  induction nodes generalizing db with
  | nil => exact hrefl db
  | cons n nodes ih =>
    unfold takeDown
    split
    · exact hrefl db
    · rename_i db' sends h
      exact htrans _ _ _ (hround _ _ _ _ h) (ih db')

theorem leaseOfUser_eq_some {db : Database} {user : UserId} {id : Uuid} {l : Lease} :
    leaseOfUser db user id = some l ↔ db.leases.get? id = some l ∧ l.user = user := by
  simp [leaseOfUser, Option.filter_eq_some_iff]

theorem deviceToken_cases (d : String) (now : Instant) (db : Database) :
    (deviceToken d now db).db = db ∨
    ∃ h : db.nodes.get? d = none, (deviceToken d now db).db =
      { db with nodes := db.nodes.insert (registeredNode d now) h } := by
  simp only [deviceToken]
  cases hi : db.nodes.insert? (registeredNode d now) with
  | none => exact Or.inl rfl
  | some nodes =>
    obtain ⟨h, rfl⟩ := Table.insert?_eq_some.mp hi
    exact Or.inr ⟨h,rfl⟩

theorem adminSetNodeState_cases (d : String) (state : Option String) (db : Database) :
    (adminSetNodeState d state db).db = db ∨
    ∃ wanted n, requestedState state = some wanted ∧ db.nodes.get? d = some n ∧
      (adminSetNodeState d state db).db = db.setNodeStatus d (adminState n wanted) := by
  unfold adminSetNodeState
  split
  · exact Or.inl rfl
  · rename_i wanted hw
    split
    · exact Or.inl rfl
    · rename_i n hn
      exact Or.inr ⟨wanted,n,hw,hn,rfl⟩

theorem adminForceReleaseLease_cases (id : Uuid) (now : Instant) (db : Database) :
    (adminForceReleaseLease id now db).db = db ∨
    ∃ l l' db', db.leases.get? id = some l ∧
      endLease EndReason.adminForceRelease.value now l db = some (l',db') ∧
      (adminForceReleaseLease id now db).db = setReleasing db' l.deviceId := by
  unfold adminForceReleaseLease
  split
  · exact Or.inl rfl
  · rename_i l hl
    split
    · exact Or.inl rfl
    · rename_i l' db' he
      exact Or.inr ⟨l,l',db',hl,he,rfl⟩

theorem adminForceReleaseNode_cases (d : String) (now : Instant) (db : Database) :
    (adminForceReleaseNode d now db).db = db ∨
    ∃ n db', db.nodes.get? d = some n ∧
      Ends EndReason.adminForceRelease.value now
        ((db.leasesOf d Lease.unfinished).map Lease.leaseId) db db' ∧
      (adminForceReleaseNode d now db).db = db'.setNodeStatus d (forcedStatus n) := by
  unfold adminForceReleaseNode
  split
  · exact Or.inl rfl
  · rename_i n hn
    split
    · exact Or.inl rfl
    · rename_i ls db' he
      exact Or.inr ⟨n,db',hn,(endLeasesOf_ends he).1,rfl⟩

theorem adminRebootNode_db (d : String) (db : Database) : (adminRebootNode d db).db = db := by
  unfold adminRebootNode
  split <;> rfl

/-- A node is deleted only when none of its leases is unfinished. -/
theorem adminDeleteNode_cases (d : String) (db : Database) :
    (adminDeleteNode d db).db = db ∨
    (db.leasesOf d Lease.unfinished = [] ∧
      (adminDeleteNode d db).db = deleteNode (deleteLeasesOf db d) d) := by
  unfold adminDeleteNode
  split
  · exact Or.inl rfl
  · dsimp only
    split
    · exact Or.inl rfl
    · rename_i h
      exact Or.inr ⟨List.length_eq_zero_iff.mp (Nat.eq_zero_of_not_pos h),rfl⟩

theorem adminUpdateNode_cases (d : String) (patch : NodePatch) (db : Database) :
    (adminUpdateNode d patch db).db = db ∨
    (adminUpdateNode d patch db).db = db.updateNode d patch.apply := by
  unfold adminUpdateNode
  split
  · exact Or.inl rfl
  · split
    · exact Or.inl rfl
    · exact Or.inr rfl

theorem billingInfo_rows (user : User) (db : Database) :
    SameRows db (billingInfo user db).db := by
  simp only [billingInfo, answer, Database.ensureAccount]
  split <;> exact ⟨rfl,rfl,rfl⟩

theorem savePricePlan_rows (plan : PricePlan) (db : Database) :
    SameRows db (savePricePlan plan db) := by
  unfold savePricePlan
  split <;> exact ⟨rfl,rfl,rfl⟩

/-- The messages that only say that the device is there. -/
def IsSignOfLife : ClientMessage → Prop
  | .nodeHeartbeat => True
  | .updateDeviceInfo _ _ _ _ => True
  | _ => False

/-- The database accesses behind the messages of one connection. -/
inductive MessageEffect (m : ConnectionMeta) (msg : ClientMessage) (now : Instant)
    (db : Database) : Database → Prop
  | none : MessageEffect m msg now db db
  | seen (d : String) : m.role = .device → m.deviceId = some d → IsSignOfLife msg →
      MessageEffect m msg now db (nodeTouchLastSeen d now db)
  | hello (d : String) (h : NodeHello) : m.role = .device → m.deviceId = some d →
      msg = .nodeHello h.region h.gpuTier h.agentVersion h.capabilities →
      MessageEffect m msg now db (updateNodeHello d h now db)
  | ready (id : Uuid) (claimed : Option String) (d : String) : m.role = .device →
      msg = .leaseReady (.uuid id) claimed → claimedDevice m claimed = some d →
      MessageEffect m msg now db (markLeaseReady id d now db).1
  | active (id : Uuid) (l : Lease) : m.role = .user →
      authorizeLeaseStream id m.userId db = some l →
      MessageEffect m msg now db (setLeaseActive id db)

theorem handleLeaseReady_effect {m : ConnectionMeta} {ref : LeaseRef} {claimed : Option String}
    {now : Instant} {s : Server} {r : StepResult} (hm : m.role = .device)
    (h : handleLeaseReady m ref claimed now s = some r) :
    MessageEffect m (.leaseReady ref claimed) now s.db r.server.db := by
  unfold handleLeaseReady at h
  split at h
  · cases h
    exact .none
  · cases h
    exact .none
  · cases h
  · rename_i id d hd
    have hdb : r.server.db = (markLeaseReady id d now s.db).1 := by
      dsimp only at h
      split at h <;> cases h <;> rfl
    rw [hdb]
    exact .ready id claimed d hm rfl hd

theorem handleRequestRemoteControlLease_effect {m : ConnectionMeta} {ref : LeaseRef}
    {settings : Fields} {now : Instant} {s : Server} {r : StepResult} (hm : m.role = .user)
    (h : handleRequestRemoteControlLease m ref settings s = some r) :
    MessageEffect m (.requestRemoteControlLease ref settings) now s.db r.server.db := by
  unfold handleRequestRemoteControlLease at h
  split at h
  · cases h
    exact .none
  · cases h
  · rename_i id
    split at h
    · cases h
      exact .none
    · rename_i l hl
      split at h
      · cases h
        exact .none
      · split at h
        · cases h
          exact .active id l hm hl
        · cases h
          exact .none

theorem handleMessage_effect {m : ConnectionMeta} {msg : ClientMessage} {now : Instant}
    {s : Server} {r : StepResult} (h : handleMessage m msg now s = some r) :
    MessageEffect m msg now s.db r.server.db := by
  unfold handleMessage at h
  split at h
  · cases h
    exact .none
  · cases h
    unfold handleUpdateDeviceInfo
    dsimp only
    split
    · rename_i d hm hd
      exact .seen d hm hd trivial
    · exact .none
  · rename_i d hm hd
    cases h
    exact .hello d _ hm hd rfl
  · rename_i d hm hd
    cases h
    exact .seen d hm hd trivial
  · rename_i hm
    exact handleLeaseReady_effect hm h
  · rename_i hm
    exact handleRequestRemoteControlLease_effect hm h
  · cases h
    exact .none
  · cases h
    exact .none
  · cases h
    exact .none

/-- A message can change how its connection presents itself, and no other part
of the registry. -/
theorem handleMessage_connections {m : ConnectionMeta} {msg : ClientMessage} {now : Instant}
    {s : Server} {r : StepResult} (h : handleMessage m msg now s = some r) :
    r.server.connections = s.connections ∨
    ∃ (f : ConnectionMeta → ConnectionMeta) (hf : ∀ m, (f m).connectionId = m.connectionId),
      r.server.connections = s.connections.modify m.connectionId f hf ∧
      ∀ m, (f m).role = m.role ∧ (f m).deviceId = m.deviceId ∧ (f m).userId = m.userId := by
  unfold handleMessage at h
  split at h
  · cases h
    exact Or.inl rfl
  · rename_i name type connective count
    cases h
    refine Or.inr ⟨fun m =>
      { m with
        deviceName := name
        deviceType := type
        connective := connective
        screenCount := screens count },fun _ => rfl,?_,fun _ => ⟨rfl,rfl,rfl⟩⟩
    unfold handleUpdateDeviceInfo
    dsimp only
    split <;> rfl
  · cases h
    exact Or.inl rfl
  · cases h
    exact Or.inl rfl
  · unfold handleLeaseReady at h
    split at h
    · cases h
      exact Or.inl rfl
    · cases h
      exact Or.inl rfl
    · cases h
    · dsimp only at h
      split at h <;> cases h <;> exact Or.inl rfl
  · unfold handleRequestRemoteControlLease at h
    split at h
    · cases h
      exact Or.inl rfl
    · cases h
    · split at h
      · cases h
        exact Or.inl rfl
      · split at h
        · cases h
          exact Or.inl rfl
        · split at h <;> cases h <;> exact Or.inl rfl
  · cases h
    exact Or.inl rfl
  · cases h
    exact Or.inl rfl
  · cases h
    exact Or.inl rfl

theorem receive_effect (c : String) (msg : ClientMessage) (now : Instant) (s : Server) :
    (step (.receive c msg now) s).db = s.db ∨
    ∃ m, s.connections.get? c = some m ∧
      MessageEffect m msg now s.db (step (.receive c msg now) s).db := by
  simp only [step, handle]
  split
  · exact Or.inl rfl
  · rename_i m hm
    cases h : handleMessage m msg now s with
    | none => exact Or.inl rfl
    | some r => exact Or.inr ⟨m,hm,handleMessage_effect h⟩

theorem connect_device {d c : String} {now : Instant} {s : Server}
    (hc : s.connections.get? c = none) (hd : d ≠ "") (hne : c ≠ "") :
    (connect (.device d) c now s).server.db = nodeConnected d c now s.db := by
  have hk : s.connections.get? (deviceMeta d c).connectionId = none := hc
  simp [connect, Table.insert?, hk, hd, hne]

theorem connect_rejected {d c : String} {now : Instant} {s : Server}
    (h : ¬(s.connections.get? c = none ∧ d ≠ "" ∧ c ≠ "")) :
    (connect (.device d) c now s).server = s := by
  simp only [connect]
  split
  · rfl
  · rename_i connections hi
    obtain ⟨hc, -⟩ := Table.insert?_eq_some.mp hi
    have hempty : d = "" ∨ c = "" := by
      by_contra hno
      rw [not_or] at hno
      exact h ⟨hc,hno⟩
    rw [if_pos hempty]

theorem connect_cases (auth : WsAuth) (c : String) (now : Instant) (s : Server) :
    (connect auth c now s).server.db = s.db ∨
    ∃ d, auth = .device d ∧ (connect auth c now s).server.db = nodeConnected d c now s.db := by
  cases auth with
  | user u =>
    left
    simp only [connect]
    split <;> rfl
  | device d =>
    by_cases h : s.connections.get? c = none ∧ d ≠ "" ∧ c ≠ ""
    · exact Or.inr ⟨d,rfl,connect_device h.1 h.2.1 h.2.2⟩
    · exact Or.inl (by rw [connect_rejected h])

theorem disconnect_cases (c : String) (now : Instant) (s : Server) :
    (disconnect c now s).server.db = s.db ∨
    ∃ m d sends, s.connections.get? c = some m ∧ m.role = .device ∧ m.deviceId = some d ∧
      markNodeOfflineAndEndLeases d EndReason.nodeOffline.value now s.db =
        some ((disconnect c now s).server.db,sends) := by
  simp only [disconnect]
  split
  · exact Or.inl rfl
  · rename_i m hm
    split
    · rename_i d hrole hd
      split
      · exact Or.inl rfl
      · rename_i db sends h
        exact Or.inr ⟨m,d,sends,hm,hrole,hd,h⟩
    · exact Or.inl rfl

end CloudPlay.ControlPlaneEffects
