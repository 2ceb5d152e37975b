import CloudPlay.LeaseTransitions
import CloudPlay.NodeAgentService
import CloudPlay.NodeNotices
import CloudPlay.SignalingNetwork

/-!
# Both ends keep a session under the key the other end sends

Offers and candidates of a node arrive at the controller with the device id
under which the controller stored the session. Replies arrive at the node
with the session id the controller had when it made the session, which is the
key on the node if the request went out on that very connection, and find the
session if it has entered the table.
-/

set_option autoImplicit false

namespace CloudPlay.SignalingKeys
open KeyedTable ControlPlaneModels ControlPlaneSerializers ControlPlaneDatabase LeaseLifecycle
open ControlPlaneConsumer ControlPlaneEffects StaleDisconnect NodeNotices
open ControlPlaneServer hiding step initial
open NodeAgentService (getField_setField_self)
open LeaseTransitions SignalRouting SignalingNetwork TransitionRun

/-- What a message written on behalf of a session carries. -/
def Written (issued : List (String × WsAuth)) (s : ControllerSession) (c : String) :
    ClientMessage → Prop
  | .requestRemoteControlLease ref _ => ref = .uuid s.leaseId ∧ c = s.controller
  | .signal kind _ data =>
    (fromHost kind = true → (c,.device s.controlled) ∈ issued) ∧
    (fromHost kind = false → sourceConnectionid data = some (.str s.controller))
  | _ => False

/-- What a message that arrives on behalf of a session carries. -/
def Arrives (issued : List (String × WsAuth)) (s : ControllerSession) (c : String) :
    Message → Prop
  | .remoteSessionRequested requester _ =>
    requester.connectionId = s.controller ∧ (c,.device s.controlled) ∈ issued
  | .signal kind data => sourceConnectionid data =
      some (.str (if fromHost kind then s.controlled else s.controller))
  | _ => True

structure Valid (w : Network) : Prop where
  apart : IdsApart w.server
  owned : RowsOwned w.server
  live : ∀ m ∈ w.server.connections, ∃ auth, (m.connectionId,auth) ∈ w.issued ∧ Matches auth m
  once : (w.issued.map Prod.fst).Nodup
  numbered : w.started.map (fun x => x.2.number) = List.range w.started.length
  leases : ∀ x ∈ w.started, ∀ l ∈ w.server.db.leases, l.leaseId = x.2.leaseId →
    l.deviceId = x.2.controlled
  stored : ∀ a, ∀ s ∈ (w.controllers a).sessions, (a,s) ∈ w.started
  keys : ∀ a, ((w.controllers a).sessions.map ControllerSession.controlled).Nodup
  sockets : ∀ h, ∀ c ∈ (w.hosts h).socket, (c,.device (w.hosts h).deviceId) ∈ w.issued
  written : ∀ p ∈ w.sent, ∀ n ∈ p.session, ∃ x ∈ w.started, x.2.number = n ∧
    Written w.issued x.2 p.connectionId p.message
  arrived : ∀ p ∈ w.delivered, ∀ n ∈ p.session, ∃ x ∈ w.started, x.2.number = n ∧
    Arrives w.issued x.2 p.connectionId p.message
  hosted : ∀ h, ∀ o ∈ (w.hosts h).alive, ∀ n ∈ o.number, ∃ x ∈ w.started, x.2.number = n ∧
    o.controller = x.2.controller ∧ (w.hosts h).deviceId = x.2.controlled
  hostKeys : ∀ h, ((w.hosts h).alive.map HostSession.controller).Nodup

def isReply : Message → Bool
  | .signal kind _ => !fromHost kind
  | _ => false

/-- What the steps are asked for. Ids drawn for connections and leases are
new, and connection ids meet no device id. A request goes out on the
connection whose id the session has. No reply arrives at a node while its
session is still starting. -/
def Kept : Action → Network → Prop
  | .serve (.connect auth c now), w =>
    c ∉ w.issued.map Prod.fst ∧ IdsFresh (.connect auth c now) w.server
  | .serve (.rent _ req _ draw), w => ∀ x ∈ w.started, ∀ i < req.count, (draw i).1 ≠ x.2.leaseId
  | .serve e, w => IdsFresh e w.server
  | .openController _ u c now, w =>
    c ∉ w.issued.map Prod.fst ∧ IdsFresh (.connect (.user u) c now) w.server
  | .openHost h c now, w => c ∉ w.issued.map Prod.fst ∧
      IdsFresh (.connect (.device (w.hosts h).deviceId) c now) w.server
  | .sendRequest j _, w => ∀ x ∈ w.started[j]?, ∀ c ∈ (w.controllers x.1).socket,
      c = x.2.controller
  | .hostMessage h i, w => ∀ p ∈ w.delivered[i]?, isReply p.message = true →
      ∀ o ∈ (w.hosts h).starting, o.number = none ∨ o.number ≠ p.session
  | _, _ => True

instance decidableKept : (action : Action) → (w : Network) → Decidable (Kept action w)
  | .serve (.connect auth c now), w => inferInstanceAs (Decidable
      (c ∉ w.issued.map Prod.fst ∧ IdsFresh (.connect auth c now) w.server))
  | .serve (.rent _ req _ draw), w => inferInstanceAs (Decidable
      (∀ x ∈ w.started, ∀ i < req.count, (draw i).1 ≠ x.2.leaseId))
  | .serve (.release _ _ _), _ => isTrue trivial
  | .serve (.leaseList _), _ => isTrue trivial
  | .serve (.billingInfo _), _ => isTrue trivial
  | .serve (.poolNodes _ _ _ _), _ => isTrue trivial
  | .serve (.deviceToken d now), w =>
    inferInstanceAs (Decidable (IdsFresh (.deviceToken d now) w.server))
  | .serve (.adminNodes _), _ => isTrue trivial
  | .serve (.adminSetNodeState _ _ _), _ => isTrue trivial
  | .serve (.adminForceReleaseLease _ _ _), _ => isTrue trivial
  | .serve (.adminForceReleaseNode _ _ _), _ => isTrue trivial
  | .serve (.adminRebootNode _ _), _ => isTrue trivial
  | .serve (.adminDeleteNode _ _), _ => isTrue trivial
  | .serve (.adminUpdateNode _ _ _), _ => isTrue trivial
  | .serve (.savePricePlan _), _ => isTrue trivial
  | .serve (.disconnect _ _), _ => isTrue trivial
  | .serve (.receive _ _ _), _ => isTrue trivial
  | .serve (.checkHeartbeats _ _), _ => isTrue trivial
  | .receive _ _, _ => isTrue trivial
  | .openController _ u c now, w => inferInstanceAs (Decidable
      (c ∉ w.issued.map Prod.fst ∧ IdsFresh (.connect (.user u) c now) w.server))
  | .openHost h c now, w => inferInstanceAs (Decidable (c ∉ w.issued.map Prod.fst ∧
      IdsFresh (.connect (.device (w.hosts h).deviceId) c now) w.server))
  | .closeController _, _ => isTrue trivial
  | .closeHost _, _ => isTrue trivial
  | .controllerMessage _ _, _ => isTrue trivial
  | .startRemoteControl _ _ _, _ => isTrue trivial
  | .sendRequest j _, w => inferInstanceAs (Decidable
      (∀ x ∈ w.started[j]?, ∀ c ∈ (w.controllers x.1).socket, c = x.2.controller))
  | .sendReply _ _ _, _ => isTrue trivial
  | .stopStreaming _ _, _ => isTrue trivial
  | .hostMessage h i, w => inferInstanceAs (Decidable
      (∀ p ∈ w.delivered[i]?, isReply p.message = true →
        ∀ o ∈ (w.hosts h).starting, o.number = none ∨ o.number ≠ p.session))
  | .hostStarted _, _ => isTrue trivial
  | .hostFailed _, _ => isTrue trivial
  | .sendSignal _ _ _ _, _ => isTrue trivial
  | .stopHosted _ _, _ => isTrue trivial

section Serving
variable {w : Network}

theorem written_mono {issued issued' : List (String × WsAuth)} (h : issued ⊆ issued')
    {s : ControllerSession} {c : String} {msg : ClientMessage} (hw : Written issued s c msg) :
    Written issued' s c msg := by
  cases msg with
  | signal kind target data => exact ⟨fun hk => h (hw.1 hk),hw.2⟩
  | _ => exact hw

theorem arrives_mono {issued issued' : List (String × WsAuth)} (h : issued ⊆ issued')
    {s : ControllerSession} {c : String} {msg : Message} (ha : Arrives issued s c msg) :
    Arrives issued' s c msg := by
  cases msg with
  | remoteSessionRequested requester settings => exact ⟨ha.1,h ha.2⟩
  | _ => exact ha

theorem mem_deliveries {r : StepResult} {session : Option ℕ} {p : Packet Message}
    (h : p ∈ deliveries r session) : ∃ send ∈ r.sends, ∃ c ∈ recipients r.server send.target,
      p = ⟨c,send.message,session⟩ := by
  obtain ⟨send, hs, hp⟩ := List.mem_flatMap.mp h
  obtain ⟨c, hc, rfl⟩ := List.mem_map.mp hp
  exact ⟨send,hs,c,hc,rfl⟩

theorem issued_unique (hv : Valid w) {c : String} {auth auth' : WsAuth}
    (h : (c,auth) ∈ w.issued) (h' : (c,auth') ∈ w.issued) : auth = auth' := by
  have hinj := List.inj_on_of_nodup_map hv.once h h' rfl
  exact (Prod.mk.inj hinj).2

theorem session_issued (hv : Valid w) {d c : String} (h : Session d w.server c) :
    (c,.device d) ∈ w.issued := by
  obtain ⟨m, hm, hr, hd⟩ := h
  obtain ⟨auth, hissued, hmatch⟩ := hv.live m (Table.get?_mem hm)
  rw [Table.get?_key hm] at hissued
  cases auth with
  | user u =>
    rw [hmatch] at hr
    cases hr
  | device d' =>
    obtain rfl := Option.some.inj (hmatch.2.symm.trans hd)
    exact hissued

theorem number_unique (hv : Valid w) {x y : ℕ × ControllerSession} (hx : x ∈ w.started)
    (hy : y ∈ w.started) (h : x.2.number = y.2.number) : x = y := by
  have hnd : (w.started.map (fun x => x.2.number)).Nodup := by
    rw [hv.numbered]
    exact List.nodup_range
  exact List.inj_on_of_nodup_map hnd hx hy h

/-- An event of the server whose messages belong to a session keeps the
invariant when they carry what this session needs. -/
theorem serve_valid {e : Event} {session : Option ℕ} (hv : Valid w)
    (hc : ∀ auth c now, e = .connect auth c now → c ∉ w.issued.map Prod.fst)
    (hf : IdsFresh e w.server)
    (hd : ∀ user req now draw, e = .rent user req now draw →
      ∀ x ∈ w.started, ∀ i < req.count, (draw i).1 ≠ x.2.leaseId)
    (hnew : ∀ p ∈ deliveries (handle e w.server) session, ∀ n ∈ p.session, ∃ x ∈ w.started,
      x.2.number = n ∧ Arrives w.issued x.2 p.connectionId p.message) :
    Valid (w.serve e session) := by
  have hsub : w.issued ⊆ w.issued ++ opened e := List.subset_append_left _ _
  exact
    { hv with
      apart := idsApart_step hv.apart hf
      owned := rowsOwned_step hv.owned hf
      live := by
        intro m' hm'
        rcases step_connection ((Table.mem_iff_get? _ _).mp hm') with ⟨m, hm, hr, hdev⟩ |
          ⟨auth, now, rfl, hmatch⟩
        · obtain ⟨auth, hissued, hmatch⟩ := hv.live m (Table.get?_mem hm)
          rw [Table.get?_key hm] at hissued
          refine ⟨auth,hsub hissued,?_⟩
          cases auth with
          | user u => exact hr.trans hmatch
          | device d => exact ⟨hr.trans hmatch.1,hdev.trans hmatch.2⟩
        · exact ⟨auth,List.mem_append_right _ (List.mem_singleton_self _),hmatch⟩
      once := by
        show ((w.issued ++ opened e).map Prod.fst).Nodup
        rw [List.map_append]
        cases e with
        | connect auth c now =>
          refine List.nodup_append.mpr ⟨hv.once,List.nodup_singleton _,?_⟩
          intro x hx y hy hxy
          have hcy : y = c := List.mem_singleton.mp hy
          exact hc auth c now rfl (hcy ▸ hxy ▸ hx)
        | _ => simpa [opened] using hv.once
      leases := by
        intro x hx l' hl' hid
        rcases lease_device (lease_origin e w.server l' hl') with ⟨l, hl, hli, hld⟩ |
          ⟨user, req, now, draw, i, he, hi, hdraw⟩
        · exact hld.symm.trans (hv.leases x hx l hl (hli.trans hid))
        · exact absurd (hdraw.symm.trans hid) (hd user req now draw he x hx i hi)
      sockets := fun h c hs => hsub (hv.sockets h c hs)
      written := by
        intro p hp n hn
        obtain ⟨x, hx, hnum, hw⟩ := hv.written p hp n hn
        exact ⟨x,hx,hnum,written_mono hsub hw⟩
      arrived := by
        intro p hp n hn
        have harrives : ∃ x ∈ w.started, x.2.number = n ∧
            Arrives w.issued x.2 p.connectionId p.message := by
          rcases List.mem_append.mp hp with hp | hp
          · exact hv.arrived p hp n hn
          · exact hnew p hp n hn
        obtain ⟨x, hx, hnum, ha⟩ := harrives
        exact ⟨x,hx,hnum,arrives_mono hsub ha⟩ }

/-- An accepted request goes to the group of the lease's device and bears the
connection it came on. -/
theorem request_arrives (hv : Valid w) {x : ℕ × ControllerSession} (hx : x ∈ w.started)
    {m : ConnectionMeta} {settings : Fields} {r : StepResult}
    (hm : m.connectionId = x.2.controller)
    (h : handleRequestRemoteControlLease m (.uuid x.2.leaseId) settings w.server = some r) :
    ∀ send ∈ r.sends, ∀ y, (∀ d, send.target = .group (.node d) → Session d w.server y) →
      Arrives w.issued x.2 y send.message := by
  intro send hs y hy
  unfold handleRequestRemoteControlLease at h
  dsimp only at h
  split at h
  · cases h
    rw [List.mem_singleton.mp hs]
    trivial
  · rename_i l hl
    obtain ⟨hget, -, -⟩ := authorizeLeaseStream_eq_some hl
    have hdev := hv.leases x hx l (Table.get?_mem hget) (Table.get?_key hget)
    have hforward : send = forwardRequest m l.deviceId settings →
        Arrives w.issued x.2 y send.message := by
      rintro rfl
      exact ⟨hm,hdev ▸ session_issued hv (hy l.deviceId rfl)⟩
    split at h
    · cases h
      rw [List.mem_singleton.mp hs]
      trivial
    · split at h
      · cases h
        rcases List.mem_cons.mp hs with rfl | hs
        · trivial
        · exact hforward (List.mem_singleton.mp hs)
      · cases h
        exact hforward (List.mem_singleton.mp hs)

theorem outgoing_source {m : ConnectionMeta} {d : String} (hr : m.role = .device)
    (hd : m.deviceId = some d) {kind : SignalKind} (hk : fromHost kind = true) (data : Fields) :
    sourceConnectionid (outgoing m kind data) = some (.str d) := by
  cases kind with
  | offer =>
    simp only [outgoing, hr, hd]
    exact getField_setField_self data _ _
  | candidate =>
    simp only [outgoing, hr, hd]
    exact getField_setField_self data _ _
  | answer => cases hk
  | candidate2 => cases hk

theorem outgoing_reply (m : ConnectionMeta) {kind : SignalKind} (hk : fromHost kind = false)
    (data : Fields) : outgoing m kind data = data := by
  cases kind with
  | offer => cases hk
  | candidate => cases hk
  | answer => simp [outgoing]
  | candidate2 => simp [outgoing]

theorem relay_message {s : Server} {target : Option String} {msg : Message} {send : Send}
    (h : send ∈ relay s target msg) : send.message = msg := by
  unfold relay sendToConnection at h
  split at h
  · cases h
  · split at h
    · cases h
    · rw [List.mem_singleton.mp h]

/-- What the server sends on behalf of a session. -/
theorem receive_arrives (hv : Valid w) {x : ℕ × ControllerSession} (hx : x ∈ w.started)
    {c : String} {msg : ClientMessage} {now : Instant} (hw : Written w.issued x.2 c msg) :
    ∀ send ∈ (handle (.receive c msg now) w.server).sends,
    ∀ y ∈ recipients (ControlPlaneServer.step (.receive c msg now) w.server) send.target,
      Arrives w.issued x.2 y send.message := by
  intro send hs y hy
  have hgroup : ∀ d, send.target = .group (.node d) → Session d w.server y := by
    intro d ht
    rw [ht] at hy
    exact (session_receive c msg now w.server y).mp (mem_group hy)
  simp only [handle] at hs
  split at hs
  · cases hs
  · rename_i m hm
    have hid := Table.get?_key hm
    cases msg with
    | requestRemoteControlLease ref settings =>
      obtain ⟨rfl, hc⟩ := hw
      cases hrole : m.role with
      | device => simp [handleMessage, hrole] at hs
      | user =>
        simp only [handleMessage, hrole] at hs
        cases hr : handleRequestRemoteControlLease m (.uuid x.2.leaseId) settings w.server with
        | none =>
          rw [hr] at hs
          cases hs
        | some r =>
          rw [hr, Option.getD_some] at hs
          exact request_arrives hv hx (hid.trans hc) hr send hs y hgroup
    | signal kind target data =>
      have hmessage : send.message = .signal kind (outgoing m kind data) := by
        unfold handleMessage at hs
        exact relay_message hs
      rw [hmessage]
      show sourceConnectionid (outgoing m kind data) = _
      cases hk : fromHost kind with
      | true =>
        obtain ⟨auth, hissued, hmatch⟩ := hv.live m (Table.get?_mem hm)
        rw [hid] at hissued
        rw [← issued_unique hv (hw.1 hk) hissued] at hmatch
        exact outgoing_source hmatch.1 hmatch.2 hk data
      | false =>
        rw [outgoing_reply m hk]
        exact hw.2 hk
    | _ => exact absurd hw id

theorem received_valid (hv : Valid w) {p : Packet ClientMessage} (hp : p ∈ w.sent)
    (now : Instant) : Valid (w.serve (.receive p.connectionId p.message now) p.session) := by
  refine serve_valid hv (fun _ _ _ he => by cases he) trivial (fun _ _ _ _ he => by cases he) ?_
  intro q hq n hn
  obtain ⟨send, hs, y, hy, rfl⟩ := mem_deliveries hq
  obtain ⟨x, hx, hnum, hw⟩ := hv.written p hp n hn
  exact ⟨x,hx,hnum,receive_arrives hv hx hw send hs y hy⟩

/-- Messages that belong to no session. -/
theorem serve_none_valid {e : Event} (hv : Valid w)
    (hc : ∀ auth c now, e = .connect auth c now → c ∉ w.issued.map Prod.fst)
    (hf : IdsFresh e w.server)
    (hd : ∀ user req now draw, e = .rent user req now draw →
      ∀ x ∈ w.started, ∀ i < req.count, (draw i).1 ≠ x.2.leaseId) : Valid (w.serve e none) := by
  refine serve_valid hv hc hf hd ?_
  intro p hp n hn
  obtain ⟨send, -, y, -, rfl⟩ := mem_deliveries hp
  cases hn

theorem connect_valid {auth : WsAuth} {c : String} {now : Instant} (hv : Valid w)
    (hc : c ∉ w.issued.map Prod.fst) (hf : IdsFresh (.connect auth c now) w.server) :
    Valid (w.serve (.connect auth c now) none) :=
  serve_none_valid hv (fun _ _ _ he => by cases he; exact hc) hf
    (fun _ _ _ _ he => by cases he)

end Serving

section Apps
variable {w : Network}

theorem send_valid {socket : Option String} {msg : ClientMessage} {session : Option ℕ}
    (hv : Valid w) (hw : ∀ c ∈ socket, ∀ n ∈ session, ∃ x ∈ w.started, x.2.number = n ∧
      Written w.issued x.2 c msg) : Valid (w.send socket msg session) := by
  cases socket with
  | none => exact hv
  | some c =>
    refine { hv with written := ?_ }
    intro p hp n hn
    rcases List.mem_append.mp hp with hp | hp
    · exact hv.written p hp n hn
    · obtain rfl := List.mem_singleton.mp hp
      exact hw c rfl n hn

theorem setController_valid {a : ℕ} {app : ControllerApp} (hv : Valid w)
    (hs : ∀ s ∈ app.sessions, (a,s) ∈ w.started)
    (hk : (app.sessions.map ControllerSession.controlled).Nodup) :
    Valid (w.setController a app) := by
  refine { hv with stored := ?_, keys := ?_ }
  · intro b s hb
    by_cases h : b = a
    · subst h
      simp only [Network.setController, Function.update_self] at hb
      exact hs s hb
    · simp only [Network.setController, Function.update_of_ne h] at hb
      exact hv.stored b s hb
  · intro b
    by_cases h : b = a
    · subst h
      simpa only [Network.setController, Function.update_self] using hk
    · simpa only [Network.setController, Function.update_of_ne h] using hv.keys b

/-- The node keeps its identity, and its sessions are those it had or belong
to the session of a request. -/
theorem setHost_valid {h : ℕ} {app : HostApp} (hv : Valid w)
    (hs : ∀ c ∈ app.socket, (c,.device app.deviceId) ∈ w.issued)
    (ho : ∀ o ∈ app.alive, ∀ n ∈ o.number, ∃ x ∈ w.started, x.2.number = n ∧
      o.controller = x.2.controller ∧ app.deviceId = x.2.controlled)
    (hk : (app.alive.map HostSession.controller).Nodup) : Valid (w.setHost h app) := by
  have hother : ∀ {g : ℕ}, g ≠ h → (w.setHost h app).hosts g = w.hosts g :=
    fun hg => Function.update_of_ne hg _ _
  have hself : (w.setHost h app).hosts h = app := Function.update_self _ _ _
  refine { hv with sockets := ?_, hosted := ?_, hostKeys := ?_ } <;> intro g <;> by_cases hg : g = h
  · subst hg
    rw [hself]
    exact hs
  · rw [hother hg]
    exact hv.sockets g
  · subst hg
    rw [hself]
    exact ho
  · rw [hother hg]
    exact hv.hosted g
  · subst hg
    rw [hself]
    exact hk
  · rw [hother hg]
    exact hv.hostKeys g

/-- A node that only loses sessions. -/
theorem shrink_valid {h : ℕ} {app : HostApp} (hv : Valid w)
    (hs : ∀ c ∈ app.socket, (c,.device app.deviceId) ∈ w.issued)
    (hd : app.deviceId = (w.hosts h).deviceId)
    (ho : app.alive.Sublist (w.hosts h).alive) : Valid (w.setHost h app) := by
  refine setHost_valid hv hs ?_ ((ho.map _).nodup (hv.hostKeys h))
  intro o hm n hn
  rw [hd]
  exact hv.hosted h o (ho.subset hm) n hn

theorem controllerMessage_valid (hv : Valid w) (a : ℕ) (p : Packet Message) :
    Valid (w.setController a ((w.controllers a).onMessage p)) := by
  have hsame : ((w.controllers a).onMessage p).sessions = (w.controllers a).sessions := by
    unfold ControllerApp.onMessage
    split
    · split <;> rfl
    · rfl
  exact setController_valid hv (hsame ▸ hv.stored a) (hsame ▸ hv.keys a)

/-- A node starts a session for a request that has arrived on its connection. -/
theorem hostMessage_valid (hv : Valid w) (h : ℕ) {p : Packet Message} (hp : p ∈ w.delivered) :
    Valid (w.setHost h ((w.hosts h).onMessage p)) := by
  have hkeep : ∀ app : HostApp, app.deviceId = (w.hosts h).deviceId →
      app.socket = (w.hosts h).socket → app.alive = (w.hosts h).alive →
      Valid (w.setHost h app) := by
    intro app hd hs ha
    refine shrink_valid hv ?_ hd (ha ▸ List.Sublist.refl _)
    rw [hd, hs]
    exact hv.sockets h
  unfold HostApp.onMessage
  split
  · rename_i hsocket
    split
    · exact hkeep _ rfl rfl rfl
    · rename_i requester settings hmsg
      split
      · rename_i hfree
        have halive : (w.hosts h).alive = (w.hosts h).sessions := by
          rw [HostApp.alive, Option.isNone_iff_eq_none.mp hfree.1]
          rfl
        refine setHost_valid hv (hv.sockets h) ?_ ?_
        · intro o ho n hn
          rcases List.mem_cons.mp ho with rfl | ho
          · obtain ⟨x, hx, hnum, ha⟩ := hv.arrived p hp n hn
            rw [hmsg] at ha
            have hauth := issued_unique hv (hv.sockets h _ hsocket) ha.2
            exact ⟨x,hx,hnum,ha.1,WsAuth.device.inj hauth⟩
          · exact hv.hosted h o (halive ▸ ho) n hn
        · have hnd := hv.hostKeys h
          rw [halive] at hnd
          exact List.nodup_cons.mpr ⟨hfree.2,hnd⟩
      · exact hkeep _ rfl rfl rfl
    · exact hkeep _ rfl rfl rfl
  · exact hkeep _ rfl rfl rfl

theorem startRemoteControl_valid (hv : Valid w) (a : ℕ) (leaseId : Uuid) (leaseToken : String) :
    Valid (w.startRemoteControl a leaseId leaseToken) := by
  unfold Network.startRemoteControl
  split
  · exact hv
  · rename_i lease hl
    split
    · exact hv
    · rename_i hfree
      rw [not_or] at hfree
      have hsub : w.started ⊆ w.started ++ [(a,⟨w.started.length,
          (w.controllers a).websocketSessionid,lease.deviceId,leaseId⟩)] :=
        List.subset_append_left _ _
      have hgrown : Valid { w with started := w.started ++ [(a,⟨w.started.length,
          (w.controllers a).websocketSessionid,lease.deviceId,leaseId⟩)] } := by
        refine { hv with
          numbered := ?_, leases := ?_, stored := fun b s hs => hsub (hv.stored b s hs)
          written := ?_, arrived := ?_, hosted := ?_ }
        · simp [hv.numbered, List.range_succ]
        · intro x hx l hm hid
          rcases List.mem_append.mp hx with hx | hx
          · exact hv.leases x hx l hm hid
          · obtain rfl := List.mem_singleton.mp hx
            have hsame := (Table.mem_iff_get? _ _).mp hm
            rw [hid] at hsame
            rw [Option.some.inj (hsame.symm.trans hl)]
        · intro p hp n hn
          obtain ⟨x, hx, hw⟩ := hv.written p hp n hn
          exact ⟨x,hsub hx,hw⟩
        · intro p hp n hn
          obtain ⟨x, hx, hw⟩ := hv.arrived p hp n hn
          exact ⟨x,hsub hx,hw⟩
        · intro h o ho n hn
          obtain ⟨x, hx, hw⟩ := hv.hosted h o ho n hn
          exact ⟨x,hsub hx,hw⟩
      refine setController_valid hgrown ?_ (List.nodup_cons.mpr ⟨hfree.2,hv.keys a⟩)
      intro s hs
      rcases List.mem_cons.mp hs with rfl | hs
      · exact List.mem_append_right _ (List.mem_singleton_self _)
      · exact hsub (hv.stored a s hs)

end Apps

/-- One step keeps the invariant when it meets what it is asked for. -/
theorem valid_step (action : Action) (w : Network) (hg : Kept action w) (hv : Valid w) :
    Valid (step action w) := by
  cases action with
  | serve e =>
    cases e with
    | connect auth c now => exact connect_valid hv hg.1 hg.2
    | rent user req now draw =>
      exact serve_none_valid hv (fun _ _ _ he => by cases he) trivial
        (fun _ _ _ _ he => by cases he; exact hg)
    | _ =>
      exact serve_none_valid hv (fun _ _ _ he => by cases he) hg (fun _ _ _ _ he => by cases he)
  | receive i now =>
    simp only [step]
    split
    · exact hv
    · rename_i p hp
      exact received_valid hv (List.mem_of_getElem? hp) now
  | openController a u c now =>
    exact setController_valid (connect_valid hv hg.1 hg.2) (hv.stored a) (hv.keys a)
  | openHost h c now =>
    refine shrink_valid (connect_valid hv hg.1 hg.2) ?_ rfl (List.Sublist.refl _)
    intro x hx
    obtain rfl := Option.some.inj hx
    exact List.mem_append_right _ (List.mem_singleton_self _)
  | closeController a => exact setController_valid hv (hv.stored a) (hv.keys a)
  | closeHost h =>
    exact shrink_valid hv (fun c hc => by cases hc) rfl (List.Sublist.refl _)
  | controllerMessage a i =>
    simp only [step]
    split
    · exact hv
    · exact controllerMessage_valid hv a _
  | startRemoteControl a leaseId leaseToken =>
    exact startRemoteControl_valid hv a leaseId leaseToken
  | sendRequest j settings =>
    simp only [step]
    split
    · exact hv
    · rename_i a s hj
      refine send_valid hv ?_
      intro c hc n hn
      obtain rfl := Option.some.inj hn
      exact ⟨(a,s),List.mem_of_getElem? hj,rfl,rfl,hg (a,s) hj c hc⟩
  | sendReply j kind body =>
    simp only [step]
    split
    · exact hv
    · rename_i a s hj
      split
      · exact hv
      · rename_i hk
        refine send_valid hv ?_
        intro c hc n hn
        obtain rfl := Option.some.inj hn
        exact ⟨(a,s),List.mem_of_getElem? hj,rfl,fun h => absurd h hk,fun _ => rfl⟩
  | stopStreaming a controlled =>
    refine setController_valid hv (fun s hs => hv.stored a s (List.mem_filter.mp hs).1) ?_
    exact (List.filter_sublist.map _).nodup (hv.keys a)
  | hostMessage h i =>
    simp only [step]
    split
    · exact hv
    · rename_i p hp
      exact hostMessage_valid hv h (List.mem_of_getElem? hp)
  | hostStarted h => exact shrink_valid hv (hv.sockets h) rfl (List.Sublist.refl _)
  | hostFailed h => exact shrink_valid hv (hv.sockets h) rfl (List.sublist_append_right _ _)
  | sendSignal h o kind body =>
    simp only [step]
    split
    · rename_i hk
      refine send_valid hv ?_
      intro c hc n hn
      obtain ⟨x, hx, hnum, -, hd⟩ := hv.hosted h o hk.2 n hn
      refine ⟨x,hx,hnum,fun _ => hd ▸ hv.sockets h c hc,fun h => ?_⟩
      rw [hk.1] at h
      cases h
    · exact hv
  | stopHosted h controller =>
    exact shrink_valid hv (hv.sockets h) rfl
      ((List.Sublist.refl _).append List.filter_sublist)

theorem valid_initial (timeZone : Instant) (deviceIds : ℕ → String) :
    Valid (initial timeZone deviceIds) where
  apart := fun d hd => by
    rcases hd with hrow | ⟨m, hm, -⟩
    · simp [initial, ControlPlaneServer.initial, Database.empty] at hrow
    · exact absurd hm (Table.not_mem_empty m)
  owned := fun d n hn => by simp [initial, ControlPlaneServer.initial, Database.empty] at hn
  live := fun m hm => absurd hm (Table.not_mem_empty m)
  once := List.nodup_nil
  numbered := rfl
  leases := fun x hx => by cases hx
  stored := fun a s hs => by cases hs
  keys := fun a => List.nodup_nil
  sockets := fun h c hc => by cases hc
  written := fun p hp => by cases hp
  arrived := fun p hp => by cases hp
  hosted := fun h o ho => by cases ho
  hostKeys := fun h => List.nodup_nil

/-- In this state messages for a device reach the device, and every message of
a session carries the key that the other end has for it. -/
structure Agreed (w : Network) : Prop where
  party : RightParty w.server
  offers : ∀ p ∈ w.delivered, ∀ x ∈ w.started, p.session = some x.2.number →
    ∀ kind data, p.message = .signal kind data → fromHost kind = true →
      sourceConnectionid data = some (.str x.2.controlled)
  replies : ∀ p ∈ w.delivered, ∀ h, ∀ o ∈ (w.hosts h).alive, o.number ≠ none →
    p.session = o.number → ∀ kind data, p.message = .signal kind data → fromHost kind = false →
      sourceConnectionid data = some (.str o.controller)

/-- A message that one end handles finds the session it belongs to, while the
session lives. -/
def Finds : Action → Network → Prop
  | .controllerMessage a i, w => ∀ p ∈ w.delivered[i]?, ∀ kind data,
      p.message = .signal kind data → fromHost kind = true →
      ∀ s ∈ (w.controllers a).sessions, p.session = some s.number →
        (w.controllers a).find (sourceConnectionid data) = some s
  | .hostMessage h i, w => ∀ p ∈ w.delivered[i]?, ∀ kind data,
      p.message = .signal kind data → fromHost kind = false →
      ∀ o ∈ (w.hosts h).alive, o.number ≠ none → p.session = o.number →
        (w.hosts h).find (sourceConnectionid data) = some o
  | _, _ => True

theorem agreed {w : Network} (hv : Valid w) : Agreed w where
  party := rightParty hv.apart hv.owned
  offers := by
    intro p hp x hx hsession kind data hmsg hk
    obtain ⟨y, hy, hnum, ha⟩ := hv.arrived p hp _ hsession
    obtain rfl := number_unique hv hy hx hnum
    rw [hmsg] at ha
    simpa [Arrives, hk] using ha
  replies := by
    intro p hp h o ho hsome hsession kind data hmsg hk
    obtain ⟨n, hn⟩ := Option.ne_none_iff_exists'.mp hsome
    obtain ⟨x, hx, hnum, ha⟩ := hv.arrived p hp n (hsession.trans hn)
    obtain ⟨y, hy, hnum', hkey, -⟩ := hv.hosted h o ho n hn
    obtain rfl := number_unique hv hx hy (hnum.trans hnum'.symm)
    rw [hmsg] at ha
    rw [hkey]
    simpa [Arrives, hk] using ha

/-- The table is searched by a key that no two rows share. -/
theorem find_of_key {α : Type} {key : α → String} {rows : List α} (hnd : (rows.map key).Nodup)
    {r : α} (hr : r ∈ rows) : rows.find? (fun q => key q = key r) = some r := by
  induction rows with
  | nil => cases hr
  | cons q rows ih =>
    rw [List.map_cons, List.nodup_cons] at hnd
    rcases List.mem_cons.mp hr with rfl | hr
    · simp
    · have hne : key q ≠ key r := fun h => hnd.1 (h ▸ List.mem_map_of_mem hr)
      rw [List.find?_cons_of_neg (by simpa using hne)]
      exact ih hnd.2 hr

theorem finds (action : Action) (w : Network) (hg : Kept action w) (hv : Valid w) :
    Finds action w := by
  cases action with
  | controllerMessage a i =>
    intro p hp kind data hmsg hk s hs hsession
    have hsource := (agreed hv).offers p (List.mem_of_getElem? hp) (a,s) (hv.stored a s hs)
      hsession kind data hmsg hk
    rw [hsource]
    exact find_of_key (hv.keys a) hs
  | hostMessage h i =>
    intro p hp kind data hmsg hk o ho hsome hsession
    have hsource := (agreed hv).replies p (List.mem_of_getElem? hp) h o ho hsome hsession kind data
      hmsg hk
    have hin : o ∈ (w.hosts h).sessions := by
      rcases List.mem_append.mp ho with hstart | hin
      · have hreply : isReply p.message = true := by simp [hmsg, isReply, hk]
        rcases hg p hp hreply o (Option.mem_toList.mp hstart) with hnone | hne
        · exact absurd hnone hsome
        · exact absurd hsession.symm hne
      · exact hin
    rw [hsource]
    have hnd := hv.hostKeys h
    rw [HostApp.alive, List.map_append] at hnd
    exact find_of_key (List.nodup_append.mp hnd).2.1 hin
  | _ => trivial

/-- In every run whose steps are as asked, every state reached sends messages
for a device to this device and the messages of a session under the key of
the other end, and every message handled finds its session. -/
theorem signaling_run (timeZone : Instant) (deviceIds : ℕ → String) (actions : List Action)
    (h : Meets step Kept actions (initial timeZone deviceIds)) :
    (∀ before after, actions = before ++ after →
      Agreed (run step before (initial timeZone deviceIds))) ∧
    Meets step Finds actions (initial timeZone deviceIds) := by
  constructor
  · rintro before after rfl
    exact agreed (run_invariant step valid_step before _
      (meets_of_append step Kept before after _ h) (valid_initial timeZone deviceIds))
  · exact meets_of_invariant step valid_step finds actions _ h (valid_initial timeZone deviceIds)

def ann : User := { id := 7, username := "ann" }

/-- A user rents the node on which a device has connected. -/
def leased : List Action :=
  [.openHost 0 "c1" 1,.hostMessage 0 0,.serve (.receive "c1" (.nodeHello "cn" "a" "1.0" none) 2),
    .openController 0 ann "c2" 3,.controllerMessage 0 1,
    .serve (.rent ann ⟨"cn","a",.hour,1,none⟩ 4 (fun _ => (1,"token"))),
    .serve (.receive "c1" (.leaseReady (.uuid 1) none) 5),.startRemoteControl 0 1 "token"]

def requested : List Action := leased ++ [.sendRequest 0 [],.receive 0 6,.hostMessage 0 8]

/-- The node's offer reaches the controller, whose answer reaches the node. -/
def answered : List Action :=
  requested ++ [.sendSignal 0 ⟨"c2","c1",some 0⟩ .offer [],.receive 1 7,.hostStarted 0,
    .controllerMessage 0 9,.sendReply 0 .answer [],.receive 2 8,.hostMessage 0 10]

def start : Network := initial 0 (fun _ => "node-1")

theorem answer_finds_session :
    ((run step answered start).hosts 0).sessions = [⟨"c2","c1",some 0⟩] ∧
    (∀ before after, answered = before ++ after → Agreed (run step before start)) ∧
    Meets step Finds answered start :=
  ⟨by decide,signaling_run 0 (fun _ => "node-1") answered (by decide)⟩

/-- A device takes the connection id of a user for its device id. -/
def mistaken : List Action :=
  [.openController 0 ann "c1" 1,.serve (.connect (.device "c1") "c2" 2)]

/-- The controller reconnects before it sends its request. -/
def reconnected : List Action :=
  leased ++ [.closeController 0,.openController 0 ann "c3" 6,.sendRequest 0 [],.receive 0 7,
    .hostMessage 0 10,.hostStarted 0,.sendReply 0 .answer [],.receive 1 8]

/-- The answer is back before `startStreaming` has ended. -/
def early : List Action :=
  requested ++ [.sendSignal 0 ⟨"c2","c1",some 0⟩ .offer [],.receive 1 7,
    .controllerMessage 0 9,.sendReply 0 .answer [],.receive 2 8]

/-- A device named like a connection gets no messages and the user of this
connection gets them, the answer after a reconnect has a key the node does not
know, and an answer that is early finds no session. -/
theorem astray :
    ¬RightParty (run step mistaken start).server ∧
    ¬Agreed (run step reconnected start) ∧
    ¬Meets step Finds (early ++ [.hostMessage 0 10]) start := by
  refine ⟨fun h => ?_,fun h => ?_,fun h => ?_⟩
  · obtain ⟨m, hm, hrole, -⟩ := h.relayed "c2" (.signal .answer (some "c1") []) 0 "c1" rfl
      (by decide) ⟨.channel "c1",.signal .answer []⟩ (List.mem_singleton_self _) "c1" (by decide)
    have hlive : ((run step mistaken start).server.connections.get? "c1").map
        ConnectionMeta.role = some .user := by decide
    change ((run step mistaken start).server.connections.get? "c1") = some m at hm
    rw [hm, Option.map_some, hrole] at hlive
    cases hlive
  · have hreply := h.replies _ (List.mem_of_getElem?
      (show (run step reconnected start).delivered[11]? =
        some ⟨"c1",.signal .answer (signalData "c2" "node-1" []),some 0⟩ from rfl))
      0 ⟨"c3","c1",some 0⟩ (by decide) (by decide) rfl _ _ rfl rfl
    simp [sourceConnectionid, signalData, getField] at hreply
  · rw [meets_append] at h
    have hfind := h.2.1 ⟨"c1",.signal .answer (signalData "c2" "node-1" []),some 0⟩ rfl _ _ rfl rfl
      ⟨"c2","c1",some 0⟩ (by decide) (by decide) rfl
    exact absurd hfind (by decide)

end CloudPlay.SignalingKeys
