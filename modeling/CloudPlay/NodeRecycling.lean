import CloudPlay.NodeAgentProcess
import CloudPlay.ParkedNodes
import CloudPlay.StreamAuthorization

/-!
# The pool with its agents

The server together with one agent for each device and the messages in flight
between them. A socket exists for the server from `connect` on and for the
agent from its `onOpen` on, and each side can lose it before the other does.
Messages of one socket arrive in order. An agent says hello once for each
socket it opens, and only a hello or a new connection frees a waiting node.
-/

set_option autoImplicit false

namespace CloudPlay.NodeRecycling
open KeyedTable ControlPlaneModels ControlPlaneSerializers ControlPlaneDatabase LeaseLifecycle
open ControlPlaneViews ControlPlaneConsumer ControlPlaneServer LeaseEnding NodeTransitions
open NodeAgentService ParkedNodes StaleDisconnect ExclusiveAssignment TransitionRun
open NodeAgentProcess (AgentProcess AgentEvent NodeAgentConfig helloMessage sends)
open StreamAuthorization (digest)

/-- The socket an agent holds. -/
structure Socket where
  deviceId : String
  connectionId : String
  deriving DecidableEq

/-- Messages in flight carry the id of their connection. -/
structure World where
  server : Server
  agents : String → AgentProcess
  sockets : Table Socket.deviceId
  toServer : List (String × ClientMessage) := []
  toAgent : List (String × Message) := []

/-- The oldest message of a connection, and the others. -/
def next {α : Type} (c : String) (q : List (String × α)) : Option α :=
  (q.find? (fun x => x.1 = c)).map Prod.snd

def rest {α : Type} (c : String) (q : List (String × α)) : List (String × α) :=
  q.eraseP (fun x => x.1 = c)

def isDevice (s : Server) (c : String) : Bool :=
  (s.connections.get? c).any (fun m => m.role = .device)

/-- A server step, with what it sends to devices. -/
def World.serve (e : Event) (w : World) : World :=
  { w with
    server := step e w.server
    toAgent := w.toAgent ++ (handle e w.server).sends.flatMap (fun x =>
      ((recipients (step e w.server) x.target).filter (isDevice (step e w.server))).map
        (fun c => (c,x.message))) }

inductive Action where
  | request (e : Event)
  | accept (deviceId connectionId : String) (now : Instant)
  | opened (deviceId : String)
  | agent (deviceId : String) (e : AgentEvent)
  | appMessage (deviceId : String) (msg : ClientMessage)
  | serverReceives (connectionId : String) (now : Instant)
  | agentReceives (deviceId : String)
  | serverCloses (connectionId : String) (now : Instant)

/-- What comes from elsewhere than the agents' sockets. -/
def isExternal (s : Server) : Event → Bool
  | .connect (.device _) _ _ => false
  | .disconnect c _ => !isDevice s c
  | .receive c _ _ => !isDevice s c
  | _ => true

/-- The events an agent meets without its socket. -/
def isLocal : AgentEvent → Bool
  | .onOpen => false
  | .onMessage _ => false
  | _ => true

def endsSocket : AgentEvent → Bool
  | .init => true
  | .onClose => true
  | .disconnect => true
  | _ => false

/-- Messages that other parts of the app send over the agent's socket. -/
def fromApp : ClientMessage → Bool
  | .nodeHello _ _ _ _ => false
  | .nodeHeartbeat => false
  | .leaseReady _ _ => false
  | _ => true

def isHello : ClientMessage → Bool
  | .nodeHello _ _ _ _ => true
  | _ => false

def isHeartbeat : ClientMessage → Bool
  | .nodeHeartbeat => true
  | _ => false

section Stepping
variable (hash : String → String) (config : String → NodeAgentConfig)

/-- A step of an agent, with what it sends over its socket. -/
def World.act (d : String) (e : AgentEvent) (w : World) : World :=
  { w with
    agents := Function.update w.agents d (NodeAgentProcess.step hash e (w.agents d))
    toServer := w.toServer ++
      match w.sockets.get? d with
      | none => []
      | some k => (sends hash (config d) e (w.agents d)).map (fun msg => (k.connectionId,msg)) }

/-- The agent forgets its socket, and what was on the way to it is lost. -/
def World.dropSocket (d : String) (w : World) : World :=
  match w.sockets.get? d with
  | none => w
  | some k =>
    { w with
      sockets := w.sockets.filter (fun k => k.deviceId ≠ d)
      toAgent := w.toAgent.filter (fun x => x.1 ≠ k.connectionId) }

def worldStep : Action → World → World
  | .request e, w => if isExternal w.server e then w.serve e else w
  | .accept d c now, w =>
    if h : w.sockets.get? d = none then
      if (w.agents d).wsOpen = false ∧ w.server.connections.get? c = none ∧ d ≠ "" ∧ c ≠ "" then
        { w.serve (.connect (.device d) c now) with sockets := w.sockets.insert ⟨d,c⟩ h }
      else w
    else w
  | .opened d, w =>
    if w.sockets.get? d ≠ none ∧ (w.agents d).wsOpen = false then w.act hash config d .onOpen else w
  | .agent d e, w =>
    if isLocal e then
      if endsSocket e then (w.act hash config d e).dropSocket d else w.act hash config d e
    else w
  | .appMessage d msg, w =>
    match w.sockets.get? d with
    | none => w
    | some k =>
      if (w.agents d).wsOpen && fromApp msg then
        { w with toServer := w.toServer ++ [(k.connectionId,msg)] }
      else w
  | .serverReceives c now, w =>
    match next c w.toServer with
    | none => w
    | some msg => { w.serve (.receive c msg now) with toServer := rest c w.toServer }
  | .agentReceives d, w =>
    match w.sockets.get? d with
    | none => w
    | some k =>
      match next k.connectionId w.toAgent with
      | none => w
      | some msg =>
        if (w.agents d).wsOpen then
          { w.act hash config d (.onMessage msg) with toAgent := rest k.connectionId w.toAgent }
        else w
  | .serverCloses c now, w =>
    if isDevice w.server c then
      { w.serve (.disconnect c now) with toServer := w.toServer.filter (fun x => x.1 ≠ c) }
    else w

end Stepping

/-- An empty server, and agents as they are when they start. -/
def opening (timeZone : Instant) (agents : String → AgentProcess) : World :=
  { server := initial timeZone, agents := agents, sockets := .empty }

/-- Nothing but heartbeats is in flight, and both ends agree which sockets are
open. -/
structure Quiescent (w : World) : Prop where
  toServer : ∀ x ∈ w.toServer, isDevice w.server x.1 = true → isHeartbeat x.2 = true
  toAgent : ∀ k ∈ w.sockets, next k.connectionId w.toAgent = none
  sessions : ∀ m ∈ w.server.connections, m.role = .device → ∀ d ∈ m.deviceId,
    w.sockets.get? d = some ⟨d,m.connectionId⟩ ∧ (w.agents d).wsOpen = true
  sockets : ∀ k ∈ w.sockets, Session k.deviceId w.server k.connectionId

def Recycled (s : Server) : Prop :=
  ∀ n ∈ s.db.nodes, (∃ c, Session n.deviceId s c) → Idle s.db n.deviceId →
    n.status ≠ .disabled → n.status ≠ .maintenance → n.status = .free

/-- The session has its hello still before it, or is no longer the agent's. -/
def Unsettled (w : World) (d c : String) : Prop :=
  w.sockets.get? d ≠ some ⟨d,c⟩ ∨ (w.agents d).wsOpen = false ∨
    ∃ msg, (c,msg) ∈ w.toServer ∧ isHello msg = true

/-- The device has no session but the one that closes, or one that is not
settled. -/
def HelloDue (w : World) (d : String) (closing : Option String) : Prop :=
  (∀ c, Session d w.server c → closing = some c) ∨
    ∃ c, Session d w.server c ∧ closing ≠ some c ∧ Unsettled w d c

/-- A node is sent waiting only when there is a hello to free it. -/
def HelloFollows : Action → World → Prop
  | .request e, w => isExternal w.server e = true → ∀ d, Parks w.server d e → HelloDue w d none
  | .serverCloses c now, w => ∀ d, Parks w.server d (.disconnect c now) → HelloDue w d (some c)
  | _, _ => True

section Queues
variable {α : Type} {c c' : String} {q : List (String × α)} {x : String × α}

theorem mem_rest_of_ne (h : x.1 ≠ c) : x ∈ rest c q ↔ x ∈ q :=
  List.mem_eraseP_of_neg (by simpa using h)

/-- Delivering the oldest message leaves the others. -/
theorem mem_rest {msg msg' : α} (h : next c q = some msg) (hmem : (c,msg') ∈ q)
    (hne : msg' ≠ msg) : (c,msg') ∈ rest c q := by
  induction q with
  | nil => cases hmem
  | cons y q ih =>
    by_cases hy : y.1 = c
    · have hfirst : y.2 = msg := by simpa [next, hy] using h
      rcases List.mem_cons.mp hmem with rfl | hmem
      · exact absurd hfirst hne
      · simpa [rest, hy] using hmem
    · have hnext : next c q = some msg := by simpa [next, hy] using h
      rcases List.mem_cons.mp hmem with rfl | hmem
      · exact absurd rfl hy
      · simpa [rest, hy] using Or.inr (ih hnext hmem)

end Queues

section Invariant
variable {hash : String → String} {config : String → NodeAgentConfig}
variable {w w' : World} {d d' c : String} {st : NodeStatus}

theorem session_isDevice {s : Server} (h : Session d s c) : isDevice s c = true := by
  obtain ⟨m, hm, hr, -⟩ := h
  simp [isDevice, hm, hr]

/-- Nothing that comes from elsewhere opens or closes a session. -/
theorem session_external {e : Event} {s : Server} (he : isExternal s e = true) :
    Session d (step e s) c ↔ Session d s c := by
  cases e with
  | connect auth c' now =>
    cases auth with
    | user u => simp [session_connect, opens]
    | device d' => simp [isExternal] at he
  | disconnect c' now =>
    rw [session_disconnect]
    refine ⟨fun h => h.1,fun h => ⟨h,?_⟩⟩
    rintro rfl
    simp [isExternal, session_isDevice h] at he
  | receive c' msg now => exact session_receive c' msg now s c
  | _ => rfl

/-- An agent whose socket is not open stays so until it is, and then says
hello. -/
theorem act_unsettled (e : AgentEvent) (h : Unsettled w d' c) :
    Unsettled (w.act hash config d e) d' c := by
  rcases h with hsock | hopen | ⟨msg, hmem, hhello⟩
  · exact Or.inl hsock
  · by_cases hd : d' = d
    · subst hd
      by_cases hsock : w.sockets.get? d' = some ⟨d',c⟩
      · have hagent : (w.act hash config d' e).agents d' =
            NodeAgentProcess.step hash e (w.agents d') := Function.update_self _ _ _
        by_cases he : e = .onOpen
        · subst he
          refine Or.inr (Or.inr ⟨helloMessage (config d'),?_,rfl⟩)
          exact List.mem_append_right _ (by simp [hsock, sends])
        · refine Or.inr (Or.inl ?_)
          rw [hagent]
          cases e with
          | onOpen => exact absurd rfl he
          | sessionCreated c =>
            simp only [NodeAgentProcess.step]
            split <;> exact hopen
          | onMessage msg => exact hopen
          | heartbeat => exact hopen
          | sessionFailed c => exact hopen
          | stopStreaming c => exact hopen
          | _ => rfl
      · exact Or.inl hsock
    · refine Or.inr (Or.inl ?_)
      have hagent : (w.act hash config d e).agents d' = w.agents d' :=
        Function.update_of_ne hd _ _
      rw [hagent, hopen]
  · exact Or.inr (Or.inr ⟨msg,List.mem_append_left _ hmem,hhello⟩)

theorem dropSocket_unsettled (h : Unsettled w d' c) : Unsettled (w.dropSocket d) d' c := by
  unfold World.dropSocket
  split
  · exact h
  · rcases h with hsock | hopen | hhello
    · refine Or.inl fun hnew => hsock ?_
      have hnew : (w.sockets.filter (fun k => k.deviceId ≠ d)).get? d' = some ⟨d',c⟩ := hnew
      rw [Table.get?_filter, Option.filter_eq_some_iff] at hnew
      exact hnew.1
    · exact Or.inr (Or.inl hopen)
    · exact Or.inr (Or.inr hhello)

/-- What is due stays due while no session comes or goes. -/
theorem HelloDue.of_sessions {closing : Option String} (h : HelloDue w d closing)
    (hs : ∀ c, Session d w'.server c ↔ Session d w.server c ∧ closing ≠ some c)
    (hu : ∀ c, closing ≠ some c → Unsettled w d c → Unsettled w' d c) : HelloDue w' d none := by
  rcases h with hnone | ⟨c, hc, hne, hunsettled⟩
  · refine Or.inl fun c hc => ?_
    have hsession := (hs c).mp hc
    exact absurd (hnone c hsession.1) hsession.2
  · exact Or.inr ⟨c,(hs c).mpr ⟨hc,hne⟩,by simp,hu c hne hunsettled⟩

structure Tracked (w : World) : Prop where
  consistent : Consistent w.server.db
  parked : ∀ d st, Waiting w.server.db d st → st = .offline ∨ st = .releasing
  due : ∀ d st, Waiting w.server.db d st → HelloDue w d none

/-- A step of an agent, or the loss of its socket. -/
theorem Tracked.quiet (h : Tracked w) (hserver : w'.server = w.server)
    (hu : ∀ d c, Unsettled w d c → Unsettled w' d c) : Tracked w' := by
  refine ⟨hserver ▸ h.consistent,fun d st hw => h.parked d st (hserver ▸ hw),fun d st hw => ?_⟩
  exact (h.due d st (hserver ▸ hw)).of_sessions (fun c => by simp [hserver]) fun c _ => hu d c

/-- A server step, when what is due is clear. -/
theorem Tracked.serve (h : Tracked w) {e : Event} (hserver : w'.server = step e w.server)
    (hdue : ∀ d st, Waiting (step e w.server).db d st → (st = .offline ∨ st = .releasing) →
      (Parks w.server d e ∨ Waiting w.server.db d st) → HelloDue w' d none) : Tracked w' := by
  have hparked : ∀ d st, Waiting (step e w.server).db d st → st = .offline ∨ st = .releasing := by
    intro d st hw
    rcases waiting_step h.consistent hw with hp | hw
    · exact hp.2
    · exact h.parked d st hw
  rw [← hserver] at hparked
  refine ⟨hserver ▸ consistent_step e w.server h.consistent,hparked,fun d st hw => ?_⟩
  have hst := hparked d st hw
  rw [hserver] at hw
  exact hdue d st hw hst ((waiting_step h.consistent hw).imp_left And.left)

theorem request_tracked (h : Tracked w) {e : Event} (he : isExternal w.server e = true)
    (hg : HelloFollows (.request e) w) : Tracked (w.serve e) := by
  refine h.serve rfl fun d st _ _ hwhy => ?_
  have hdue : HelloDue w d none := hwhy.elim (hg he d) (h.due d st)
  exact hdue.of_sessions (fun c => by simp [World.serve, session_external he])
    fun c _ hc => hc

theorem accept_tracked (h : Tracked w) {now : Instant} (hsock : w.sockets.get? d = none)
    (hopen : (w.agents d).wsOpen = false) (hfree : w.server.connections.get? c = none)
    (hd : d ≠ "") (hne : c ≠ "") : Tracked
      { w.serve (.connect (.device d) c now) with sockets := w.sockets.insert ⟨d,c⟩ hsock } := by
  refine h.serve rfl fun d' st _ _ hwhy => ?_
  have hdue : HelloDue w d' none := hwhy.elim (fun hp => hp.elim) (h.due d' st)
  have hget (d' : String) : (w.sockets.insert ⟨d,c⟩ hsock).get? d' =
      if d' = d then some ⟨d,c⟩ else w.sockets.get? d' := Table.get?_insert _ _ _ d'
  by_cases hdd : d' = d
  · -- the new session itself has its hello before it
    subst hdd
    refine Or.inr ⟨c,?_,by simp,Or.inr (Or.inl hopen)⟩
    exact (session_connect _ c now w.server c).mpr (Or.inr (by simp [opens, hfree, hd, hne]))
  · refine hdue.of_sessions (fun x => ?_) fun x _ hx => ?_
    · have hother : opens d' (.connect (.device d) c now) w.server = none := by
        simp [opens, Ne.symm hdd]
      have hsession := session_connect (d := d') (.device d) c now w.server x
      rw [hother] at hsession
      simpa [World.serve] using hsession
    · refine hx.imp_left fun hx => ?_
      rwa [hget, if_neg hdd]

/-- The hello of an open session frees a node that waits. -/
theorem hello_frees {s : Server} (hc : Consistent s.db) (hs : Session d s c)
    {msg : ClientMessage} (hhello : isHello msg = true) {now : Instant}
    (hw : Waiting (step (.receive c msg now) s).db d st) :
    ¬(st = .offline ∨ st = .releasing) := by
  obtain ⟨m, hm, hr, hd⟩ := hs
  cases msg with
  | nodeHello region gpuTier version capabilities =>
    have hdb : (step (.receive c (.nodeHello region gpuTier version capabilities) now) s).db =
        updateNodeHello d ⟨region,gpuTier,version,capabilities⟩ now s.db := by
      simp [step, handle, hm, handleMessage, hr, hd]
    rw [hdb] at hw
    have hidle : Idle s.db d := by
      refine idle_of_kept (fun l hl _ => ?_) hw.idle
      rwa [updateNodeHello, Database.updateNode_leases, Database.getOrCreateNode_leases]
    obtain ⟨n, hn, hst⟩ := waiting_row hw (updateNodeHello_node s.db d _ now d)
    rw [if_pos rfl] at hn
    obtain rfl := Option.some.inj hn
    simp only [helloNode, not_engaged_of_idle hc hidle, and_true] at hst
    intro hwaits
    split at hst
    · exact hw.notFree hst.symm
    · rename_i hno
      exact hno (hst.symm ▸ hwaits)
  | _ => cases hhello

theorem receive_tracked (h : Tracked w) {now : Instant} {msg : ClientMessage}
    (hnext : next c w.toServer = some msg) :
    Tracked { w.serve (.receive c msg now) with toServer := rest c w.toServer } := by
  refine h.serve rfl fun d st hw hst hwhy => ?_
  have hdue : HelloDue w d none := hwhy.elim (fun hp => hp.elim) (h.due d st)
  rcases hdue with hnone | ⟨x, hx, -, hunsettled⟩
  · exact Or.inl fun x hx => hnone x ((session_receive c msg now w.server x).mp hx)
  · refine Or.inr ⟨x,(session_receive c msg now w.server x).mpr hx,by simp,?_⟩
    refine hunsettled.imp_right (Or.imp_right ?_)
    rintro ⟨msg', hmem, hhello⟩
    refine ⟨msg',?_,hhello⟩
    by_cases hxc : x = c
    · subst hxc
      refine mem_rest hnext hmem ?_
      rintro rfl
      exact hello_frees h.consistent hx hhello hw hst
    · exact (mem_rest_of_ne hxc).mpr hmem

theorem closed_tracked (h : Tracked w) {now : Instant}
    (hg : HelloFollows (.serverCloses c now) w) : Tracked
      { w.serve (.disconnect c now) with toServer := w.toServer.filter (fun x => x.1 ≠ c) } := by
  refine h.serve rfl fun d st _ _ hwhy => ?_
  have hdue : HelloDue w d (some c) := by
    rcases hwhy with hp | hw
    · exact hg d hp
    · by_cases hs : Session d w.server c
      · refine hg d ⟨hs,fun hnone => ?_,covered_of_idle hw.idle⟩
        simpa [statusOf, hnone] using hw.status
      · rcases h.due d st hw with hnone | ⟨x, hx, -, hunsettled⟩
        · exact Or.inl fun x hx => absurd (hnone x hx) (by simp)
        · refine Or.inr ⟨x,hx,?_,hunsettled⟩
          rintro hxc
          exact hs (Option.some.inj hxc ▸ hx)
  refine hdue.of_sessions (fun x => ?_) fun x hne hx => ?_
  · have hsession := session_disconnect (d := d) c now w.server x
    refine hsession.trans (and_congr_right fun _ => not_congr ?_)
    exact ⟨fun h => congrArg some h.symm,fun h => (Option.some.inj h).symm⟩
  · refine hx.imp_right (Or.imp_right ?_)
    rintro ⟨msg, hmem, hhello⟩
    refine ⟨msg,List.mem_filter.mpr ⟨hmem,?_⟩,hhello⟩
    simpa using fun hxc : x = c => hne (congrArg some hxc.symm)

theorem tracked_step (a : Action) (w : World) (hg : HelloFollows a w) (h : Tracked w) :
    Tracked (worldStep hash config a w) := by
  cases a with
  | request e =>
    simp only [worldStep]
    split
    · rename_i he
      exact request_tracked h he hg
    · exact h
  | accept d c now =>
    simp only [worldStep]
    split
    · split
      · rename_i hsock hok
        exact accept_tracked h hsock hok.1 hok.2.1 hok.2.2.1 hok.2.2.2
      · exact h
    · exact h
  | opened d =>
    simp only [worldStep]
    split
    · exact h.quiet rfl fun _ _ => act_unsettled _
    · exact h
  | agent d e =>
    have hact : Tracked (w.act hash config d e) := h.quiet rfl fun _ _ => act_unsettled _
    simp only [worldStep]
    split
    · split
      · refine hact.quiet ?_ fun _ _ => dropSocket_unsettled
        unfold World.dropSocket
        split <;> rfl
      · exact hact
    · exact h
  | appMessage d msg =>
    simp only [worldStep]
    split
    · exact h
    · split
      · refine h.quiet rfl fun _ _ hu => hu.imp_right (Or.imp_right ?_)
        rintro ⟨msg, hmem, hhello⟩
        exact ⟨msg,List.mem_append_left _ hmem,hhello⟩
      · exact h
  | serverReceives c now =>
    simp only [worldStep]
    split
    · exact h
    · rename_i msg hnext
      exact receive_tracked h hnext
  | agentReceives d =>
    simp only [worldStep]
    split
    · exact h
    · split
      · exact h
      · rename_i msg _
        split
        · have hact : Tracked (w.act hash config d (.onMessage msg)) :=
            h.quiet rfl fun _ _ => act_unsettled _
          exact hact.quiet rfl fun _ _ hu => hu
        · exact h
  | serverCloses c now =>
    simp only [worldStep]
    split
    · exact closed_tracked h hg
    · exact h

theorem tracked_opening (timeZone : Instant) (agents : String → AgentProcess) :
    Tracked (opening timeZone agents) := by
  have hno : ∀ d st, ¬Waiting (opening timeZone agents).server.db d st := by
    intro d st hw
    obtain ⟨n, hn, -⟩ := waiting_row hw rfl
    cases hn
  exact ⟨(assigned_initial timeZone).2,fun d st hw => absurd hw (hno d st),
    fun d st hw => absurd hw (hno d st)⟩

/-- With nothing in flight, nothing is due. -/
theorem quiescent_settled (hq : Quiescent w) (hs : Session d w.server c) : ¬Unsettled w d c := by
  obtain ⟨m, hm, hr, hd⟩ := hs
  have hsocket := hq.sessions m (Table.get?_mem hm) hr d hd
  rw [Table.get?_key hm] at hsocket
  rintro (hsock | hopen | ⟨msg, hmem, hhello⟩)
  · exact hsock hsocket.1
  · rw [hsocket.2] at hopen
    cases hopen
  · have hbeat := hq.toServer (c,msg) hmem (session_isDevice ⟨m,hm,hr,hd⟩)
    cases msg <;> simp [isHello, isHeartbeat] at hhello hbeat

theorem Tracked.recycled (h : Tracked w) (hq : Quiescent w) : Recycled w.server := by
  rintro n hn ⟨c, hs⟩ hidle hdis hmain
  by_contra hfree
  have hrow := (w.server.db.nodes.mem_iff_get? n).mp hn
  have hw : Waiting w.server.db n.deviceId n.status :=
    ⟨hidle,by rw [statusOf, hrow]; rfl,hfree,hdis,hmain⟩
  rcases h.due _ _ hw with hnone | ⟨x, hx, -, hunsettled⟩
  · cases hnone c hs
  · exact quiescent_settled hq hx hunsettled

end Invariant

/-- In a run in which no node is sent waiting without a hello to come, a
connected node without a live lease is FREE or blocked whenever nothing but
heartbeats is in flight. -/
theorem recycled_run (hash : String → String) (config : String → NodeAgentConfig)
    (timeZone : Instant) (agents : String → AgentProcess) (as : List Action)
    (hg : Meets (worldStep hash config) HelloFollows as (opening timeZone agents))
    (before after : List Action) (has : as = before ++ after)
    (hq : Quiescent (run (worldStep hash config) before (opening timeZone agents))) :
    Recycled (run (worldStep hash config) before (opening timeZone agents)).server := by
  subst has
  have hbefore := meets_of_append _ _ before after _ hg
  have htracked : Tracked (run (worldStep hash config) before (opening timeZone agents)) :=
    run_invariant _ tracked_step before _ hbefore (tracked_opening timeZone agents)
  exact htracked.recycled hq

def agentConfig (deviceId : String) : NodeAgentConfig :=
  { deviceId := deviceId, region := "cn", gpuTier := "a", agentVersion := "1.0" }

def freshAgents : String → AgentProcess := fun _ => NodeAgentProcess.start true true false ""

/-- A node comes up and is rented; its agent reports the lease ready. -/
def servedRun : List Action :=
  [.accept "node-1" "c1" 1,.opened "node-1",.agentReceives "node-1",.serverReceives "c1" 2,
    .request (rentOne ann 3 1 "t1"),.agentReceives "node-1",.serverReceives "c1" 4]

/-- The customer releases it, and the agent hears of that. -/
def givenBackRun : List Action :=
  servedRun ++ [.request (.release ann { leaseIds := [.uuid 1] } 5),.agentReceives "node-1"]

theorem quiescent_of_decide {w : World}
    (h : (∀ x ∈ w.toServer, isDevice w.server x.1 = true → isHeartbeat x.2 = true) ∧
      (∀ k ∈ w.sockets.rows, (next k.connectionId w.toAgent).isNone) ∧
      (∀ m ∈ w.server.connections.rows, m.role = .device → ∀ d ∈ m.deviceId,
        w.sockets.get? d = some ⟨d,m.connectionId⟩ ∧ (w.agents d).wsOpen = true) ∧
      ∀ k ∈ w.sockets.rows, ∃ m ∈ w.server.connections.get? k.connectionId,
        m.role = .device ∧ m.deviceId = some k.deviceId) : Quiescent w :=
  ⟨h.1,fun k hk => Option.isNone_iff_eq_none.mp (h.2.1 k hk),h.2.2.1,h.2.2.2⟩

theorem released_node_stays :
    Quiescent (run (worldStep digest agentConfig) givenBackRun (opening 0 freshAgents)) ∧
    ¬Recycled (run (worldStep digest agentConfig) givenBackRun (opening 0 freshAgents)).server := by
  have hwaits : ∃ n ∈ (run (worldStep digest agentConfig) givenBackRun
      (opening 0 freshAgents)).server.db.nodes.rows, n.status = .releasing ∧
      Idle (run (worldStep digest agentConfig) givenBackRun
        (opening 0 freshAgents)).server.db n.deviceId ∧
      ∃ m ∈ (run (worldStep digest agentConfig) givenBackRun
        (opening 0 freshAgents)).server.connections.get? "c1",
          m.role = .device ∧ m.deviceId = some n.deviceId := by
    decide
  refine ⟨quiescent_of_decide (by decide),fun h => ?_⟩
  obtain ⟨n, hn, hst, hidle, m, hm, hr, hd⟩ := hwaits
  have hfree := h n hn ⟨"c1",m,hm,hr,hd⟩ hidle (by simp [hst]) (by simp [hst])
  simp [hst] at hfree

/-- The socket breaks, the lease is released meanwhile, and the agent
reconnects. -/
def reconnectedRun : List Action :=
  [.accept "node-1" "c1" 1,.opened "node-1",.agentReceives "node-1",.serverReceives "c1" 2,
    .request (rentOne ann 3 1 "t1"),.agent "node-1" .onClose,
    .request (.release ann { leaseIds := [.uuid 1] } 4),.serverCloses "c1" 5,
    .accept "node-1" "c2" 6,.opened "node-1",.agentReceives "node-1",.serverReceives "c2" 7]

/-- Every session closes or is no longer its agent's. -/
theorem helloDue_of_lost {w : World} {closing : Option String}
    (h : ∀ m ∈ w.server.connections.rows, m.role = .device → closing = some m.connectionId ∨
      ∀ d ∈ m.deviceId, w.sockets.get? d ≠ some ⟨d,m.connectionId⟩) (d : String) :
    HelloDue w d closing := by
  by_cases hall : ∀ c, Session d w.server c → closing = some c
  · exact Or.inl hall
  · push Not at hall
    obtain ⟨c, ⟨m, hm, hr, hd⟩, hne⟩ := hall
    have hlost := h m (Table.get?_mem hm) hr
    rw [Table.get?_key hm] at hlost
    exact Or.inr ⟨c,⟨m,hm,hr,hd⟩,hne,Or.inl (hlost.resolve_left hne d hd)⟩

theorem reconnected_recycled :
    (∃ n ∈ (run (worldStep digest agentConfig) reconnectedRun
      (opening 0 freshAgents)).server.db.nodes.rows, n.deviceId = "node-1" ∧ n.status = .free) ∧
    Recycled
      (run (worldStep digest agentConfig) reconnectedRun (opening 0 freshAgents)).server := by
  have hguard : Meets (worldStep digest agentConfig) HelloFollows reconnectedRun
      (opening 0 freshAgents) := by
    refine ⟨trivial,trivial,trivial,trivial,fun _ _ hp => hp.elim,trivial,fun _ d _ => ?_,
      fun d _ => ?_,trivial,trivial,trivial,trivial,trivial⟩
    · exact helloDue_of_lost (by decide) d
    · exact helloDue_of_lost (by decide) d
  refine ⟨by decide,?_⟩
  exact recycled_run digest agentConfig 0 freshAgents reconnectedRun hguard reconnectedRun []
    (List.append_nil _).symm (quiescent_of_decide (by decide))

end CloudPlay.NodeRecycling
