import CloudPlay.ExclusiveAssignment

/-!
# Overlapping sessions of one device

A session of a device is a registered connection with the device's token. The
node keeps the id of one of them. Closing a session takes the node offline
whichever session it was, so the id is right as long as only the session
behind it closes.
-/

set_option autoImplicit false

namespace CloudPlay.StaleDisconnect
open KeyedTable ControlPlaneModels ControlPlaneSerializers ControlPlaneDatabase LeaseLifecycle
open ControlPlaneViews ControlPlaneConsumer ControlPlaneServer ControlPlaneEffects LeaseEnding
open ExclusiveAssignment StepEffects TransitionRun

/-- `node.connection_id`. -/
def connectionOf (db : Database) (d : String) : Option String :=
  (db.nodes.get? d).bind Node.connectionId

def Session (d : String) (s : Server) (c : String) : Prop :=
  ∃ m, s.connections.get? c = some m ∧ m.role = .device ∧ m.deviceId = some d

/-- The server together with the session of `d` that connected last. -/
structure Traced where
  server : Server
  latest : Option String

def opens (d : String) : Event → Server → Option String
  | .connect (.device d') c _, s =>
    if d' = d ∧ d ≠ "" ∧ c ≠ "" ∧ s.connections.get? c = none then some c else none
  | _, _ => none

def trackStep (d : String) (e : Event) (t : Traced) : Traced :=
  ⟨step e t.server,(opens d e t.server).orElse (fun _ => t.latest)⟩

/-- Nothing is left for the closing of a session of `d` to write, or the closing
raises. -/
def NothingToDo (d : String) (now : Instant) (db : Database) : Prop :=
  ∀ n, db.nodes.get? d = some n → ¬Covered d now db ∨
    (n.connectionId = none ∧ n.status = .offline ∧ n.lastSeen = now ∧
      ∀ l ∈ db.leases, l.deviceId = d → l.engaged = true → l.endedAt.isSome)

/-- The session behind the node closes without an exception, and any other
session only when there is nothing to write. -/
def ClosesCurrent (d c : String) (now : Instant) (db : Database) : Prop :=
  if connectionOf db d = some c then Covered d now db else NothingToDo d now db

/-- The heartbeat check and the deletion of nodes are other ways to lose the
connection id and have no part here. -/
def Guard : Event → Server → Prop
  | .disconnect c now, s => ∀ d, Session d s c → ClosesCurrent d c now s.db
  | .checkHeartbeats _ _, _ => False
  | .adminDeleteNode _ _, _ => False
  | _, _ => True

section Columns
variable {db db' db'' : Database}

def KeepsConnections (db db' : Database) : Prop := ∀ d, connectionOf db' d = connectionOf db d

theorem keeps_refl (db : Database) : KeepsConnections db db := fun _ => rfl

theorem KeepsConnections.trans (h : KeepsConnections db db') (h' : KeepsConnections db' db'') :
    KeepsConnections db db'' := fun d => (h' d).trans (h d)

theorem keeps_of_nodes (h : db'.nodes = db.nodes) : KeepsConnections db db' := by
  intro d
  simp [connectionOf, h]

theorem updateNode_connectionOf (db : Database) (d : String) (f : Node → Node)
    (hf : ∀ n, (f n).deviceId = n.deviceId) (d' : String) :
    connectionOf (db.updateNode d f hf) d' =
      if d' = d then (db.nodes.get? d).bind (fun n => (f n).connectionId)
      else connectionOf db d' := by
  rw [connectionOf, Database.updateNode_nodes, Table.get?_modify]
  split
  · rw [Option.bind_map]
    rfl
  · rfl

theorem updateNode_keeps (db : Database) (d : String) (f : Node → Node)
    (hf : ∀ n, (f n).deviceId = n.deviceId) (hc : ∀ n, (f n).connectionId = n.connectionId) :
    KeepsConnections db (db.updateNode d f hf) := by
  intro d'
  rw [updateNode_connectionOf]
  split
  · rename_i h
    rw [connectionOf, h, funext hc]
  · rfl

theorem setNodeStatus_keeps (db : Database) (d : String) (st : NodeStatus) :
    KeepsConnections db (db.setNodeStatus d st) := updateNode_keeps db d _ _ (fun _ => rfl)

theorem insertNode_keeps (db : Database) (n : Node) (h : db.nodes.get? n.deviceId = none)
    (hc : n.connectionId = none) :
    KeepsConnections db { db with nodes := db.nodes.insert n h } := by
  intro d
  simp only [connectionOf, Table.get?_insert]
  split
  · rename_i hd
    rw [hd, h]
    exact hc
  · rfl

theorem getOrCreateNode_keeps (db : Database) (d : String) (now : Instant) :
    KeepsConnections db (db.getOrCreateNode d now) := by
  unfold Database.getOrCreateNode
  split
  · exact insertNode_keeps db _ _ rfl
  · exact keeps_refl db

theorem getOrCreateNode_get? (db : Database) (d : String) (now : Instant) :
    (db.getOrCreateNode d now).nodes.get? d ≠ none := by
  unfold Database.getOrCreateNode
  split
  · simp [Table.get?_insert]
  · assumption

theorem setReleasing_keeps (db : Database) (d : String) :
    KeepsConnections db (setReleasing db d) := by
  rcases setReleasing_cases db d with h | ⟨_, -, -, h⟩ <;> rw [h]
  · exact keeps_refl db
  · exact setNodeStatus_keeps db d .releasing

theorem rentNodes_keeps {user : UserId} {unit : BillingUnit} {price : Money} {now : Instant}
    {draw : ℕ → Uuid × String} {i : ℕ} {nodes : List Node} {ls : List Lease}
    (h : rentNodes user unit price now draw i nodes db = some (db',ls)) :
    KeepsConnections db db' := by
  induction nodes generalizing i db ls with
  | nil =>
    simp only [rentNodes, Option.some.injEq, Prod.mk.injEq] at h
    exact h.1 ▸ keeps_refl db
  | cons n nodes ih =>
    simp only [rentNodes, Option.bind_eq_bind, Option.bind_eq_some_iff, Option.pure_def,
      Option.some.injEq, Prod.mk.injEq, Prod.exists] at h
    obtain ⟨db₁, h₁, db₂, ls₂, h₂, rfl, rfl⟩ := h
    exact ((keeps_of_nodes (createLease_mem h₁).1).trans
      (setNodeStatus_keeps db₁ n.deviceId .assigned)).trans (ih h₂)

theorem releaseLeases_keeps {user : UserId} {t : Instant} {rs : List LeaseRef}
    {out : ReleaseOutcome} (h : releaseLeases user t rs db = some out) :
    KeepsConnections db out.db := by
  refine releaseLeases_closure keeps_refl (fun _ _ _ => KeepsConnections.trans) user t ?_ rs db
    out h
  intro id l l' a b hl he
  have hends := (endLease_ends (Table.get?_mem (leaseOfUser_eq_some.mp hl).1) he).1
  exact (keeps_of_nodes hends.nodes).trans (setReleasing_keeps b l.deviceId)

theorem nodeConnected_connectionOf (db : Database) (d c : String) (now : Instant) (d' : String) :
    connectionOf (nodeConnected d c now db) d' =
      if d' = d then some c else connectionOf db d' := by
  rw [nodeConnected, updateNode_connectionOf]
  split
  · obtain ⟨n, hn⟩ := Option.ne_none_iff_exists'.mp (getOrCreateNode_get? db d now)
    rw [hn]
    rfl
  · exact getOrCreateNode_keeps db d now d'

theorem messageEffect_keeps {m : ConnectionMeta} {msg : ClientMessage} {now : Instant}
    (h : MessageEffect m msg now db db') : KeepsConnections db db' := by
  cases h with
  | none => exact keeps_refl db
  | seen d => exact updateNode_keeps db d _ _ (fun _ => rfl)
  | hello d hello =>
    exact (getOrCreateNode_keeps db d now).trans (updateNode_keeps _ d _ _ (fun _ => rfl))
  | ready id claimed d =>
    unfold markLeaseReady
    split
    · exact keeps_refl db
    · split
      · exact keeps_refl db
      · split
        · exact keeps_refl db
        · refine KeepsConnections.trans (keeps_of_nodes rfl) (updateNode_keeps _ d _ _ fun n => ?_)
          unfold inUseNode
          split <;> rfl
  | active id l => exact keeps_of_nodes rfl

theorem markOffline_connectionOf {d reason : String} {now : Instant} {sends : List Send}
    (h : markNodeOfflineAndEndLeases d reason now db = some (db',sends)) (d' : String) :
    connectionOf db' d' = if d' = d then none else connectionOf db d' := by
  rcases markOffline_cases h with ⟨hn, rfl, -⟩ | ⟨n, hn, he, -⟩
  · split
    · rename_i hd
      simp [connectionOf, hd, hn]
    · rfl
  · rw [keeps_of_nodes he.nodes d', takeOffline, updateNode_connectionOf]
    simp [hn, offlineNode]

/-- When taking the node offline is without effect. -/
theorem markOffline_sameRows_iff (d reason : String) (now : Instant) (db : Database) :
    (∀ db' sends, markNodeOfflineAndEndLeases d reason now db = some (db',sends) →
      SameRows db db') ↔ NothingToDo d now db := by
  constructor
  · intro h n hn
    by_cases hc : Covered d now db
    · right
      have hsome : markNodeOfflineAndEndLeases d reason now db ≠ none := fun hnone =>
        ((markOffline_eq_none_iff d reason now db).mp hnone).2 hc
      obtain ⟨⟨db', sends⟩, hmark⟩ := Option.ne_none_iff_exists'.mp hsome
      have hsame := h db' sends hmark
      rcases markOffline_cases hmark with ⟨hnone, -, -⟩ | ⟨q, -, he, -⟩
      · rw [hn] at hnone
        cases hnone
      · have hrow : (takeOffline db d now).nodes = db.nodes := he.nodes.symm.trans hsame.nodes
        have hfix := (Table.modify_eq_self_iff db.nodes d (offlineNode now)
          (offlineNode_deviceId now)).mp hrow n (Table.get?_mem hn) (Table.get?_key hn)
        refine ⟨(congrArg Node.connectionId hfix).symm,(congrArg Node.status hfix).symm,
          (congrArg Node.lastSeen hfix).symm,fun l hl hd hen => ?_⟩
        have hleases : db'.leases = (takeOffline db d now).leases := hsame.leases
        exact he.leases_eq_iff.mp hleases l hl ((mem_leasesOf_ids d _ hl).mpr ⟨hd,hen⟩)
    · exact Or.inl hc
  · intro h db' sends hmark
    rcases markOffline_cases hmark with ⟨-, rfl, -⟩ | ⟨n, hn, he, -⟩
    · exact SameRows.refl _
    · have hc : Covered d now db := by
        by_contra hno
        have hnone := (markOffline_eq_none_iff d reason now db).mpr ⟨by simp [hn],hno⟩
        rw [hnone] at hmark
        cases hmark
      obtain ⟨hconn, hst, hseen, hended⟩ := (h n hn).resolve_left (not_not.mpr hc)
      have hids : ∀ l ∈ db.leases, l.leaseId ∈ (db.leasesOf d Lease.engaged).map Lease.leaseId →
          l.endedAt.isSome := by
        intro l hl hi
        obtain ⟨hd, hen⟩ := (mem_leasesOf_ids d _ hl).mp hi
        exact hended l hl hd hen
      refine ⟨he.nodes.trans ?_,he.leases_eq_iff.mpr hids,he.records_eq hids⟩
      refine (Table.modify_eq_self_iff db.nodes d (offlineNode now)
        (offlineNode_deviceId now)).mpr fun q hq hqd => ?_
      obtain rfl : q = n := db.nodes.key_injective hq (Table.get?_mem hn)
        (hqd.trans (Table.get?_key hn).symm)
      simp only [offlineNode, ← hconn, ← hst, ← hseen]

end Columns

section Sessions
variable {d : String}

/-- Events that neither open nor close a connection. -/
def InSession : Event → Prop
  | .connect _ _ _ => False
  | .disconnect _ _ => False
  | _ => True

theorem session_receive (c : String) (msg : ClientMessage) (now : Instant) (s : Server)
    (x : String) : Session d (step (.receive c msg now) s) x ↔ Session d s x := by
  simp only [step, handle]
  split
  · rfl
  · rename_i m hm
    cases h : handleMessage m msg now s with
    | none => rfl
    | some r =>
      rw [Option.getD_some]
      rcases handleMessage_connections h with hc | ⟨f, hf, hc, hkeep⟩
      · simp only [Session, hc]
      · simp only [Session, hc, Table.get?_modify]
        split
        · rename_i hx
          rw [hx]
          constructor
          · rintro ⟨q, hq, hr, hd⟩
            obtain ⟨p, hp, rfl⟩ := Option.map_eq_some_iff.mp hq
            exact ⟨p,hp,(hkeep p).1 ▸ hr,(hkeep p).2.1 ▸ hd⟩
          · rintro ⟨p, hp, hr, hd⟩
            exact ⟨f p,by rw [hp]; rfl,(hkeep p).1.trans hr,(hkeep p).2.1.trans hd⟩
        · rfl

theorem session_step (e : Event) (s : Server) (he : InSession e) (x : String) :
    Session d (step e s) x ↔ Session d s x := by
  cases e with
  | connect auth c now => exact absurd he (fun h => h)
  | disconnect c now => exact absurd he (fun h => h)
  | receive c msg now => exact session_receive c msg now s x
  | _ => rfl

theorem effect_keeps {e : Event} {s : Server} {db' : Database} (he : InSession e)
    (hg : Guard e s) (h : StepEffect s e db') : KeepsConnections s.db db' := by
  cases h with
  | quiet hrows => exact keeps_of_nodes hrows.nodes
  | rented hrent hrows => exact (rentNodes_keeps hrent).trans (keeps_of_nodes hrows.nodes)
  | released hrel hrows => exact (releaseLeases_keeps hrel).trans (keeps_of_nodes hrows.nodes)
  | registered hk => exact insertNode_keeps s.db _ hk rfl
  | stateSet => exact setNodeStatus_keeps s.db _ _
  | leaseForced _ hl hend =>
    have hends := (endLease_ends (Table.get?_mem hl) hend).1
    exact (keeps_of_nodes hends.nodes).trans (setReleasing_keeps _ _)
  | nodeForced _ _ _ hends =>
    exact (keeps_of_nodes hends.nodes).trans (setNodeStatus_keeps _ _ _)
  | deleted => exact hg.elim
  | patched => exact updateNode_keeps s.db _ _ _ fun _ => rfl
  | connected => exact he.elim
  | disconnected => exact he.elim
  | received _ hmsg => exact messageEffect_keeps hmsg
  | checked => exact hg.elim

/-- Every step that neither opens nor closes a connection, and is neither the
heartbeat check nor a deletion, keeps all connection ids. -/
theorem step_keeps (e : Event) (s : Server) (he : InSession e) (hg : Guard e s) :
    KeepsConnections s.db (step e s).db :=
  effect_keeps he hg (step_effect e s)

theorem session_disconnect (c : String) (now : Instant) (s : Server) (x : String) :
    Session d (step (.disconnect c now) s) x ↔ Session d s x ∧ x ≠ c := by
  have hconn : (step (.disconnect c now) s).connections.get? x =
      if x = c then none else s.connections.get? x := by
    simp only [step, handle, disconnect]
    split
    · rename_i hnone
      split
      · rename_i hx
        exact hx ▸ hnone
      · rfl
    · have hfilter : (s.connections.filter (fun m => m.connectionId ≠ c)).get? x =
          if x = c then none else s.connections.get? x := by
        rw [Table.get?_filter]
        cases hx : s.connections.get? x with
        | none => simp
        | some q => simp [Option.filter_some, Table.get?_key hx]
      split
      · split <;> exact hfilter
      · exact hfilter
  simp only [Session, hconn]
  by_cases hx : x = c <;> simp [hx]

theorem session_connect (auth : WsAuth) (c : String) (now : Instant) (s : Server) (x : String) :
    Session d (step (.connect auth c now) s) x ↔
      Session d s x ∨ opens d (.connect auth c now) s = some x := by
  have hnew : ∀ (m : ConnectionMeta) (h : s.connections.get? m.connectionId = none),
      (∃ q, (s.connections.insert m h).get? x = some q ∧ q.role = .device ∧ q.deviceId = some d) ↔
        Session d s x ∨ (x = m.connectionId ∧ m.role = .device ∧ m.deviceId = some d) := by
    intro m h
    rw [Table.get?_insert]
    by_cases hx : x = m.connectionId
    · have hno : ¬Session d s x := by
        rintro ⟨q, hq, -⟩
        rw [hx, h] at hq
        cases hq
      rw [hx] at hno
      simp [hx, hno]
    · simp [hx, Session]
  cases auth with
  | user u =>
    simp only [step, handle, connect, opens]
    split
    · simp
    · rename_i connections hi
      obtain ⟨h, rfl⟩ := Table.insert?_eq_some.mp hi
      refine (hnew (userMeta u c) h).trans ?_
      simp [userMeta]
  | device d' =>
    simp only [step, handle, connect, opens]
    split
    · rename_i hi
      have hc : s.connections.get? c ≠ none := by
        intro hc
        simp [Table.insert?, deviceMeta, hc] at hi
      simp [hc]
    · rename_i connections hi
      obtain ⟨h, rfl⟩ := Table.insert?_eq_some.mp hi
      have hfree : s.connections.get? c = none := h
      split
      · rename_i hempty
        rcases hempty with rfl | rfl <;> simp +contextual
      · rename_i hne
        rw [not_or] at hne
        refine (hnew (deviceMeta d' c) h).trans (or_congr_right ?_)
        constructor
        · rintro ⟨rfl, -, hd⟩
          have hdd : d' = d := Option.some.inj hd
          simp [← hdd, hne.1, hne.2, hfree]
        · intro ho
          split at ho
          · rename_i hcond
            exact ⟨(Option.some.inj ho).symm,rfl,congrArg some hcond.1⟩
          · cases ho

end Sessions

structure Current (d : String) (t : Traced) : Prop where
  latest : ∀ c, t.latest = some c → Session d t.server c → connectionOf t.server.db d = some c
  known : ∀ c, connectionOf t.server.db d = some c → Session d t.server c

/-- The session behind the node closes. -/
theorem disconnect_current {d c : String} {now : Instant} {s : Server}
    (hg : Guard (.disconnect c now) s) (hs : Session d s c)
    (hconn : connectionOf s.db d = some c) :
    connectionOf (step (.disconnect c now) s).db d = none := by
  have hcov := hg d hs
  rw [ClosesCurrent, if_pos hconn] at hcov
  -- the closing does not raise, so the table is what it left
  have hsome : markNodeOfflineAndEndLeases d EndReason.nodeOffline.value now s.db ≠ none :=
    fun hnone => ((markOffline_eq_none_iff _ _ _ _).mp hnone).2 hcov
  obtain ⟨⟨db', sends⟩, hmark⟩ := Option.ne_none_iff_exists'.mp hsome
  obtain ⟨m, hm, hr, hd⟩ := hs
  have hstep : (step (.disconnect c now) s).db = db' := by
    simp [step, handle, disconnect, hm, hr, hd, hmark]
  rw [hstep, markOffline_connectionOf hmark d, if_pos rfl]

/-- Another session, or a connection of another kind, closes. -/
theorem disconnect_other {d c : String} {now : Instant} {s : Server}
    (hg : Guard (.disconnect c now) s) (hno : Session d s c → connectionOf s.db d ≠ some c) :
    connectionOf (step (.disconnect c now) s).db d = connectionOf s.db d := by
  change connectionOf (disconnect c now s).server.db d = connectionOf s.db d
  rcases disconnect_cases c now s with h | ⟨m, d', sends, hm, hr, hd', h⟩
  · rw [h]
  · have hs : Session d' s c := ⟨m,hm,hr,hd'⟩
    by_cases hdd : d = d'
    · subst hdd
      have hclose := hg d hs
      rw [ClosesCurrent, if_neg (hno hs), ← markOffline_sameRows_iff d
        EndReason.nodeOffline.value] at hclose
      exact keeps_of_nodes (hclose _ _ h).nodes d
    · rw [markOffline_connectionOf h d, if_neg hdd]

theorem connect_connectionOf (d : String) (auth : WsAuth) (c : String) (now : Instant)
    (s : Server) : connectionOf (step (.connect auth c now) s).db d =
      (opens d (.connect auth c now) s).orElse (fun _ => connectionOf s.db d) := by
  change connectionOf (connect auth c now s).server.db d = _
  cases auth with
  | user u =>
    simp only [connect, opens, Option.orElse_none]
    split <;> rfl
  | device d' =>
    by_cases hok : s.connections.get? c = none ∧ d' ≠ "" ∧ c ≠ ""
    · rw [connect_device hok.1 hok.2.1 hok.2.2, nodeConnected_connectionOf]
      by_cases hdd : d = d'
      · subst hdd
        simp [opens, hok.1, hok.2.1, hok.2.2]
      · simp [opens, hdd, Ne.symm hdd]
    · have hnone : opens d (.connect (.device d') c now) s = none := by
        simp only [opens, ite_eq_right_iff, reduceCtorEq, imp_false]
        rintro ⟨rfl, hd, hc, hfree⟩
        exact hok ⟨hfree,hd,hc⟩
      rw [hnone, connect_rejected hok]
      rfl

theorem current_step (d : String) (e : Event) (t : Traced) (hg : Guard e t.server)
    (h : Current d t) : Current d (trackStep d e t) := by
  by_cases he : InSession e
  · have hopen : opens d e t.server = none := by
      cases e with
      | connect auth c now => exact absurd he (fun h => h)
      | _ => rfl
    have hkeep := step_keeps e t.server he hg d
    refine ⟨fun c hc hs => ?_,fun c hc => ?_⟩
    · simp only [trackStep, hopen, Option.orElse_none] at hc
      exact hkeep.trans (h.latest c hc ((session_step e t.server he c).mp hs))
    · exact (session_step e t.server he c).mpr (h.known c (hkeep.symm.trans hc))
  · cases e with
    | connect auth c now =>
      have hconn := connect_connectionOf d auth c now t.server
      refine ⟨fun x hx hs => ?_,fun x hx => ?_⟩
      · simp only [trackStep] at hx ⊢
        rw [hconn]
        cases ho : opens d (.connect auth c now) t.server with
        | none =>
          rw [ho] at hx
          have hs' := (session_connect auth c now t.server x).mp hs
          rw [ho] at hs'
          exact h.latest x hx (hs'.resolve_right (by simp))
        | some y =>
          rw [ho] at hx
          exact hx
      · simp only [trackStep] at hx ⊢
        rw [hconn] at hx
        rw [session_connect]
        cases ho : opens d (.connect auth c now) t.server with
        | none =>
          rw [ho] at hx
          exact Or.inl (h.known x hx)
        | some y =>
          rw [ho] at hx
          exact Or.inr hx
    | disconnect c now =>
      refine ⟨fun x hx hs => ?_,fun x hx => ?_⟩
      · obtain ⟨hs, hne⟩ := (session_disconnect c now t.server x).mp hs
        have hcur := h.latest x hx hs
        refine (disconnect_other hg fun _ hc => ?_).trans hcur
        exact hne (Option.some.inj (hcur.symm.trans hc))
      · by_cases hcur : Session d t.server c ∧ connectionOf t.server.db d = some c
        · rw [trackStep, disconnect_current hg hcur.1 hcur.2] at hx
          cases hx
        · have hkeep := disconnect_other hg fun hs hc => hcur ⟨hs,hc⟩
          have hx' := hkeep.symm.trans hx
          refine (session_disconnect c now t.server x).mpr ⟨h.known x hx',?_⟩
          rintro rfl
          exact hcur ⟨h.known x hx',hx'⟩
    | _ => exact absurd trivial he

theorem traced_step (d : String) (e : Event) (t : Traced) :
    step (id e) (Traced.server t) = Traced.server (trackStep d e t) := rfl

theorem traced_server (d : String) (es : List Event) (t : Traced) :
    (run (trackStep d) es t).server = run step es t.server := by
  have h := run_map (traced_step d) es t
  rw [List.map_id] at h
  exact h.symm

theorem traced_meets (d : String) (es : List Event) (t : Traced) :
    Meets step Guard es t.server ↔ Meets (trackStep d) (fun e t => Guard e t.server) es t := by
  have h := meets_map (traced_step d) Guard es t
  rwa [List.map_id] at h

/-- The session of `d` that the run opened last. -/
def latestSession (d : String) (es : List Event) (s : Server) : Option String :=
  (run (trackStep d) es ⟨s,none⟩).latest

theorem disconnect_sameRows {d c : String} {now : Instant} {s : Server} (hs : Session d s c) :
    NothingToDo d now s.db → SameRows s.db (step (.disconnect c now) s).db := by
  intro hidle
  change SameRows s.db (disconnect c now s).server.db
  rcases disconnect_cases c now s with h | ⟨m, d', sends, hm, hr, hd', h⟩
  · rw [h]
    exact SameRows.refl _
  · obtain ⟨q, hq, -, hqd⟩ := hs
    rw [hm] at hq
    obtain rfl := Option.some.inj hq
    obtain rfl := Option.some.inj (hqd.symm.trans hd')
    exact (markOffline_sameRows_iff d _ now s.db).mpr hidle _ _ h

/-- In a run in which only the session behind a node closes with effect, the
node's connection id is the latest session while that is open and none when
all are closed, and the closing of any other session changes nothing. -/
theorem latest_session_run (timeZone : Instant) (d : String) (es : List Event)
    (h : Meets step Guard es (initial timeZone)) :
    (∀ c, latestSession d es (initial timeZone) = some c →
      Session d (run step es (initial timeZone)) c →
      connectionOf (run step es (initial timeZone)).db d = some c) ∧
    ((∀ c, ¬Session d (run step es (initial timeZone)) c) →
      connectionOf (run step es (initial timeZone)).db d = none) ∧
    ∀ c now, Guard (.disconnect c now) (run step es (initial timeZone)) →
      Session d (run step es (initial timeZone)) c →
      connectionOf (run step es (initial timeZone)).db d ≠ some c →
      SameRows (run step es (initial timeZone)).db
        (step (.disconnect c now) (run step es (initial timeZone))).db := by
  have hstart : Current d ⟨initial timeZone,none⟩ :=
    ⟨fun c hc => absurd hc (by simp),fun c hc => absurd hc (by simp [connectionOf, initial,
      Database.empty])⟩
  have hcur := run_invariant (trackStep d) (current_step d) es _
    ((traced_meets d es ⟨initial timeZone,none⟩).mp h) hstart
  have hserver := traced_server d es ⟨initial timeZone,none⟩
  refine ⟨fun c hc hs => ?_,fun hno => ?_,fun c now hg hs hstale => ?_⟩
  · rw [← hserver] at hs ⊢
    exact hcur.latest c hc hs
  · rw [← hserver] at hno ⊢
    refine Option.eq_none_iff_forall_ne_some.mpr fun c hc => ?_
    exact hno c (hcur.known c hc)
  · have hclose := hg d hs
    rw [ClosesCurrent, if_neg hstale] at hclose
    exact disconnect_sameRows hs hclose

/-- Three sessions, of which the second closes while it is the current one. -/
def reconnectRun : List Event :=
  [.connect (.device "node-1") "c1" 1,.connect (.device "node-1") "c2" 2,.disconnect "c2" 3,
    .connect (.device "node-1") "c3" 4]

theorem reconnect_current : Meets step Guard reconnectRun (initial 0) ∧
    Session "node-1" (run step reconnectRun (initial 0)) "c3" ∧
    connectionOf (run step reconnectRun (initial 0)).db "node-1" = some "c3" := by
  have hguard : Meets step Guard reconnectRun (initial 0) := by
    refine ⟨trivial,trivial,?_,trivial,trivial⟩
    rintro d ⟨m, hm, -, hd⟩
    have hreg : (run step (reconnectRun.take 2) (initial 0)).connections.get? "c2" =
        some (deviceMeta "node-1" "c2") := by decide
    obtain rfl := Option.some.inj (hreg.symm.trans hm)
    obtain rfl := Option.some.inj hd
    rw [ClosesCurrent, if_pos (by decide)]
    intro l hl
    exact absurd hl (Table.not_mem_empty l)
  have hopen : Session "node-1" (run step reconnectRun (initial 0)) "c3" :=
    ⟨deviceMeta "node-1" "c3",by decide,rfl,rfl⟩
  exact ⟨hguard,hopen,(latest_session_run 0 "node-1" reconnectRun hguard).1 "c3" (by decide) hopen⟩

/-- The device of a rented node reconnects before its old session closes. -/
def overlapRun : List Event := rentedRun ++ [.connect (.device "node-1") "c2" 4]

theorem stale_disconnect_ends_lease :
    Session "node-1" (run step overlapRun (initial 0)) "c1" ∧
    connectionOf (run step overlapRun (initial 0)).db "node-1" = some "c2" ∧
    latestSession "node-1" (overlapRun ++ [.disconnect "c1" 5]) (initial 0) = some "c2" ∧
    Session "node-1" (step (.disconnect "c1" 5) (run step overlapRun (initial 0))) "c2" ∧
    connectionOf (step (.disconnect "c1" 5) (run step overlapRun (initial 0))).db "node-1" =
      none ∧
    ¬SameRows (run step overlapRun (initial 0)).db
      (step (.disconnect "c1" 5) (run step overlapRun (initial 0))).db := by
  refine ⟨⟨deviceMeta "node-1" "c1",by decide,rfl,rfl⟩,by decide,by decide,
    ⟨deviceMeta "node-1" "c2",by decide,rfl,rfl⟩,by decide,fun h => ?_⟩
  have hbilled : (step (.disconnect "c1" 5)
      (run step overlapRun (initial 0))).db.billingRecords ≠
        (run step overlapRun (initial 0)).db.billingRecords := by
    decide
  exact hbilled h.records

end CloudPlay.StaleDisconnect
