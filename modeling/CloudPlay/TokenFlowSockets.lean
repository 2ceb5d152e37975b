import CloudPlay.TokenFlow

/-!
# Sockets and the heartbeat check on the hidden server

The consumer's handlers and `check_node_heartbeats`, each beside its run on the
hidden tables.
-/

set_option autoImplicit false

namespace CloudPlay.TokenFlowSockets
open KeyedTable ControlPlaneModels ControlPlaneSerializers ControlPlaneDatabase LeaseLifecycle
open ControlPlaneViews ControlPlaneConsumer ControlPlaneServer TokenHiding TokenFlow

def hideServer (U : UserId) (s : Server) : Server := { s with db := hide U s.db }

structure StepAlike (U : UserId) (r r' : StepResult) : Prop where
  server : r'.server = hideServer U r.server
  sends : r'.sends.filter (visible U) = r.sends.filter (visible U)

variable {U : UserId} {now : Instant}

theorem hasEngagedLease_hide (db : Database) (d : String) :
    hasEngagedLease (hide U db) d = hasEngagedLease db d := by
  have hrows : (hide U db).leases.rows = db.leases.rows.map (hideLease U) := rfl
  rw [hasEngagedLease, hrows, List.any_map]
  rfl

theorem nodeConnected_hide (d c : String) (db : Database) :
    nodeConnected d c now (hide U db) = hide U (nodeConnected d c now db) := by
  rw [nodeConnected, hasEngagedLease_hide, hide_getOrCreateNode]
  rfl

theorem updateNodeHello_hide (d : String) (hello : NodeHello) (db : Database) :
    updateNodeHello d hello now (hide U db) = hide U (updateNodeHello d hello now db) := by
  rw [updateNodeHello, hasEngagedLease_hide, hide_getOrCreateNode]
  rfl

theorem markLeaseReady_hide (id : Uuid) (d : String) (db : Database) :
    markLeaseReady id d now (hide U db) =
      (hide U (markLeaseReady id d now db).1,
        (markLeaseReady id d now db).2.map (hideLease U)) := by
  simp only [markLeaseReady, hide_get?]
  cases db.leases.get? id with
  | none => rfl
  | some l =>
    have hd : (hideLease U l).deviceId = l.deviceId := rfl
    have hs : Startable (hideLease U l) ↔ Startable l := Iff.rfl
    simp only [Option.map_some, hd, hs]
    split
    · rfl
    · split
      · rfl
      · rw [hide_updateLease db id (readyLease now) (readyLease_leaseId now) (fun _ => rfl)]
        rfl

theorem handleLeaseReady_alike (m : ConnectionMeta) (ref : LeaseRef) (device : Option String)
    (s : Server) : Option.Rel (StepAlike U) (handleLeaseReady m ref device now s)
      (handleLeaseReady m ref device now (hideServer U s)) := by
  unfold handleLeaseReady
  split
  · exact .some ⟨rfl,rfl⟩
  · exact .some ⟨rfl,rfl⟩
  · exact .none
  · rename_i id d _
    have hmark := @markLeaseReady_hide U now id d s.db
    have hdb : (hideServer U s).db = hide U s.db := rfl
    rw [hdb, hmark]
    rcases markLeaseReady id d now s.db with ⟨db, _ | l⟩
    · exact .some ⟨rfl,rfl⟩
    · refine .some ⟨rfl,?_⟩
      have hsplit : ∀ x y : Send, [x,y] = [x]++[y] := fun _ _ => rfl
      simp only [hsplit, List.filter_append, visible_leaseUpdate, hide_pushPoolUpdate]

theorem authorizeLeaseStream_hide (id : Uuid) (user : Option UserId) (db : Database) :
    authorizeLeaseStream id user (hide U db) =
      (authorizeLeaseStream id user db).map (hideLease U) := by
  rw [authorizeLeaseStream, authorizeLeaseStream, hide_get?]
  cases db.leases.get? id with
  | none => rfl
  | some l =>
    have hp : (some (hideLease U l).user = user && decide (Streamable (hideLease U l))) =
        (some l.user = user && decide (Streamable l)) := rfl
    rw [Option.map_some, Option.filter_some, Option.filter_some, hp]
    split <;> rfl

theorem handleRequestRemoteControlLease_alike (m : ConnectionMeta) (ref : LeaseRef)
    (settings : Fields) (s : Server) :
    Option.Rel (StepAlike U) (handleRequestRemoteControlLease m ref settings s)
      (handleRequestRemoteControlLease m ref settings (hideServer U s)) := by
  unfold handleRequestRemoteControlLease
  split
  · exact .some ⟨rfl,rfl⟩
  · exact .none
  · rename_i id
    have hdb : (hideServer U s).db = hide U s.db := rfl
    rw [hdb, authorizeLeaseStream_hide, hide_nodes]
    cases authorizeLeaseStream id m.userId s.db with
    | none => exact .some ⟨rfl,rfl⟩
    | some l =>
      have hd : (hideLease U l).deviceId = l.deviceId := rfl
      have hs : (hideLease U l).status = l.status := rfl
      have hactive : activeLease (hideLease U l) = hideLease U (activeLease l) := rfl
      simp only [Option.map_some, hd, hs, hactive]
      split
      · exact .some ⟨rfl,rfl⟩
      · split
        · refine .some ⟨?_,?_⟩
          · rw [setLeaseActive, hide_updateLease s.db id activeLease activeLease_leaseId
              (fun _ => rfl)]
            rfl
          · have hsplit : ∀ x y : Send, [x,y] = [x]++[y] := fun _ _ => rfl
            simp only [hsplit, List.filter_append, visible_leaseUpdate]
        · exact .some ⟨rfl,rfl⟩

theorem handleMessage_alike (m : ConnectionMeta) (msg : ClientMessage) (s : Server) :
    Option.Rel (StepAlike U) (handleMessage m msg now s)
      (handleMessage m msg now (hideServer U s)) := by
  unfold handleMessage
  split
  · exact .some ⟨rfl,rfl⟩
  · refine .some ?_
    unfold handleUpdateDeviceInfo
    dsimp only
    split <;> exact ⟨rfl,rfl⟩
  · have hdb : (hideServer U s).db = hide U s.db := rfl
    simp only [hdb, updateNodeHello_hide, hide_pushPoolUpdate]
    exact .some ⟨rfl,rfl⟩
  · exact .some ⟨rfl,rfl⟩
  · exact handleLeaseReady_alike m _ _ s
  · exact handleRequestRemoteControlLease_alike m _ _ s
  · exact .some ⟨rfl,rfl⟩
  · exact .some ⟨rfl,rfl⟩
  · exact .some ⟨rfl,rfl⟩

theorem connect_alike (auth : WsAuth) (c : String) (s : Server) :
    StepAlike U (connect auth c now s) (connect auth c now (hideServer U s)) := by
  have hdb : (hideServer U s).db = hide U s.db := rfl
  have hconn : (hideServer U s).connections = s.connections := rfl
  cases auth with
  | user u =>
    simp only [connect, hconn]
    split <;> exact ⟨rfl,rfl⟩
  | device d =>
    simp only [connect, hconn]
    split
    · exact ⟨rfl,rfl⟩
    · split
      · exact ⟨rfl,rfl⟩
      · rw [hdb, nodeConnected_hide]
        exact ⟨rfl,rfl⟩

/-- Taking a node offline on the hidden tables: what is written and what a user
connection of `U` sees. -/
theorem markOffline_alike (d reason : String) (db : Database) :
    Option.Rel (fun p p' => p'.1 = hide U p.1 ∧
        p'.2.filter (visible U) = p.2.filter (visible U))
      (markNodeOfflineAndEndLeases d reason now db)
      (markNodeOfflineAndEndLeases d reason now (hide U db)) := by
  have hoff : takeOffline (hide U db) d now = hide U (takeOffline db d now) := rfl
  have hleases := hide_leasesOf (takeOffline db d now) d Lease.engaged (U := U) fun _ => rfl
  simp only [markNodeOfflineAndEndLeases, hide_nodes, hoff, hleases, hide_endLeases]
  cases db.nodes.get? d with
  | none => exact .some ⟨rfl,rfl⟩
  | some n =>
    cases endLeases reason now ((takeOffline db d now).leasesOf d Lease.engaged)
      (takeOffline db d now) with
    | none => exact .none
    | some p =>
      refine .some ⟨rfl,?_⟩
      rw [List.filter_append, List.filter_append, visible_leaseUpdates]
      rfl

theorem disconnect_alike (c : String) (s : Server) :
    StepAlike U (disconnect c now s) (disconnect c now (hideServer U s)) := by
  have hdb : (hideServer U s).db = hide U s.db := rfl
  have hconn : (hideServer U s).connections = s.connections := rfl
  simp only [disconnect, hconn]
  split
  · exact ⟨rfl,rfl⟩
  · split
    · rename_i d _ _
      have h := @markOffline_alike U now d EndReason.nodeOffline.value s.db
      rw [hdb]
      cases hm : markNodeOfflineAndEndLeases d EndReason.nodeOffline.value now s.db with
      | none =>
        rw [hm] at h
        generalize markNodeOfflineAndEndLeases d EndReason.nodeOffline.value now (hide U s.db) = q
          at h
        cases h
        exact ⟨rfl,rfl⟩
      | some p =>
        rw [hm] at h
        generalize markNodeOfflineAndEndLeases d EndReason.nodeOffline.value now (hide U s.db) = q
          at h
        cases h with
        | some hp => exact ⟨by simp [hideServer, hp.1],hp.2⟩
    · exact ⟨rfl,rfl⟩

theorem takeDown_alike (nodes : List Node) (db : Database) :
    (takeDown now nodes (hide U db)).1 = hide U (takeDown now nodes db).1 ∧
    (takeDown now nodes (hide U db)).2.filter (visible U) =
      (takeDown now nodes db).2.filter (visible U) := by
  induction nodes generalizing db with
  | nil => exact ⟨rfl,rfl⟩
  | cons n nodes ih =>
    have h := @markOffline_alike U now n.deviceId heartbeatTimeout db
    simp only [takeDown]
    generalize markNodeOfflineAndEndLeases n.deviceId heartbeatTimeout now (hide U db) = q at h ⊢
    generalize markNodeOfflineAndEndLeases n.deviceId heartbeatTimeout now db = p at h ⊢
    cases h with
    | none => exact ⟨rfl,rfl⟩
    | some hp =>
      obtain ⟨hdb, hs⟩ := hp
      simp only [hdb, List.filter_append, hs]
      exact ⟨(ih _).1,by rw [(ih _).2]⟩

end CloudPlay.TokenFlowSockets
