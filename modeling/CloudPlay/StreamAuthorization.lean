import CloudPlay.NodeAgentService
import CloudPlay.NodeNotices

/-!
# Only the holder of a lease gets a stream

The server composed with the agent of one pool node. Messages to the node
wait in an inbox and are handled in any order; `startStreaming` waits for a
log request before it checks, so a call and its check are two steps; and the
handler of a lease stream waits between its authorization and its forwarding.
Each message keeps the server as it was when the message was sent.
-/

set_option autoImplicit false

namespace CloudPlay.StreamAuthorization
open KeyedTable ControlPlaneModels ControlPlaneSerializers ControlPlaneDatabase LeaseLifecycle
open ControlPlaneViews ControlPlaneConsumer ControlPlaneServer ExclusiveAssignment EndedTerminal
open NodeAgentService NodeNotices TransitionRun

/-- `legacy` marks what the request without a lease caused. -/
structure Sent where
  message : Message
  server : Server
  legacy : Bool

structure Call where
  sent : Sent
  call : StreamCall

/-- A handler of a lease stream that has been authorized. -/
structure StreamHandler where
  connectionId : String
  lease : Lease
  settings : Fields

/-- `sessions` are the calls whose checks passed. The last two fields record
the leases the node was ever given and the tokens each user was ever told. -/
structure System where
  server : Server
  agent : NodeAgent
  handlers : List StreamHandler := []
  inbox : List Sent := []
  calls : List Call := []
  sessions : List Call := []
  issued : List Lease := []
  told : List (UserId × String) := []

inductive Action where
  | server (e : Event)
  | authorize (connectionId : String) (leaseId : Uuid) (settings : Fields)
  | forward (i : ℕ)
  | deliver (i : ℕ)
  | check (i : ℕ)
  | closed
  | restarted

/-- A connection of the node's device. -/
def reaches (deviceId : String) (s : Server) (c : String) : Bool :=
  (s.connections.get? c).any (fun m => m.role = .device && m.deviceId = some deviceId)

def arriving (deviceId : String) (s : Server) (legacy : Bool) (sends : List Send) : List Sent :=
  sends.flatMap (fun send =>
    ((recipients s send.target).filter (reaches deviceId s)).map (fun _ => ⟨send.message,s,legacy⟩))

/-- The user a request is answered to. -/
def requestUser : Event → Option UserId
  | .rent user _ _ _ => some user.id
  | .release user _ _ => some user.id
  | .leaseList user => some user.id
  | .billingInfo user => some user.id
  | .adminForceReleaseLease user _ _ => some user.id
  | _ => none

def bodyTokens : Body → List String
  | .rented leases leaseTokenMap =>
    leases.map LeaseData.leaseToken ++ leaseTokenMap.map Prod.snd
  | .leases leases => leases.map LeaseData.leaseToken
  | .lease lease => [lease.leaseToken]
  | .billing _ _ activeLeases _ => activeLeases.map LeaseData.leaseToken
  | _ => []

def answered (e : Event) (r : StepResult) : List (UserId × String) :=
  match requestUser e, r.response with
  | some user, some response => (bodyTokens response.body).map (user,·)
  | _, _ => []

def pushed : Send → List (UserId × String)
  | ⟨.group (.user uid),.leaseUpdate lease⟩ => [(uid,lease.leaseToken)]
  | _ => []

/-- The server after a step, with what the step sent on its way. -/
def System.absorb (sys : System) (deviceId : String) (legacy : Bool) (r : StepResult) : System :=
  { sys with
    server := r.server
    inbox := sys.inbox ++ arriving deviceId r.server legacy r.sends
    issued := sys.issued ++ r.server.db.leases.rows.filter (fun l => l.deviceId = deviceId)
    told := sys.told ++ r.sends.flatMap pushed }

/-- The handler of a lease stream up to its authorization. -/
def authorizeStream (c : String) (id : Uuid) (settings : Fields) (s : Server) :
    Option StreamHandler :=
  match s.connections.get? c with
  | none => none
  | some m =>
    if m.role ≠ .user then none
    else match authorizeLeaseStream id m.userId s.db with
      | none => none
      | some l =>
        if (s.db.nodes.get? l.deviceId).all (fun n => !n.hasConnection) then none
        else some ⟨c,l,settings⟩

/-- The rest of the handler. `_set_lease_active` raises when the lease is
gone, and a connection closes only after its handler. -/
def resume (h : StreamHandler) (s : Server) : Option StepResult :=
  match s.connections.get? h.connectionId with
  | none => none
  | some m =>
    if h.lease.status = .ready then
      (s.db.leases.get? h.lease.leaseId).map (fun l =>
        { server := { s with db := setLeaseActive h.lease.leaseId s.db }
          sends := [pushLeaseUpdate (activeLease l),
            forwardRequest m h.lease.deviceId h.settings] })
    else some { server := s, sends := [forwardRequest m h.lease.deviceId h.settings] }

/-- Without anything in between, the two parts are the handler. -/
theorem resume_authorized {c : String} {id : Uuid} {settings : Fields} {s : Server}
    {m : ConnectionMeta} {h : StreamHandler} (hm : s.connections.get? c = some m)
    (ha : authorizeStream c id settings s = some h) :
    resume h s = handleRequestRemoteControlLease m (.uuid id) settings s := by
  simp only [authorizeStream, hm] at ha
  split at ha
  · cases ha
  · split at ha
    · cases ha
    · rename_i l hl
      obtain ⟨hget, -, -⟩ := authorizeLeaseStream_eq_some hl
      obtain rfl : l.leaseId = id := Table.get?_key hget
      split at ha
      · cases ha
      · rename_i hnode
        cases ha
        simp only [resume, hm, handleRequestRemoteControlLease, hl, if_neg hnode, hget]
        split <;> rfl

variable (hash : String → String) (deviceId : String)

def step : Action → System → System
  | .server e, sys =>
    let sys' := sys.absorb deviceId (isLegacy e) (handle e sys.server)
    { sys' with told := sys'.told ++ answered e (handle e sys.server) }
  | .authorize c id settings, sys =>
    { sys with handlers := sys.handlers ++ (authorizeStream c id settings sys.server).toList }
  | .forward i, sys =>
    let sys' := { sys with handlers := sys.handlers.eraseIdx i }
    match sys.handlers[i]?.bind (fun h => resume h sys.server) with
    | none => sys'
    | some r => sys'.absorb deviceId false r
  | .deliver i, sys =>
    match sys.inbox[i]? with
    | none => sys
    | some sent =>
      let out := sys.agent.onMessage hash sent.message
      { sys with
        agent := out.agent
        inbox := sys.inbox.eraseIdx i
        calls := sys.calls ++ out.call.toList.map (fun call => ⟨sent,call⟩) }
  | .check i, sys =>
    match sys.calls[i]? with
    | none => sys
    | some call =>
      let passed := startStreaming hash sys.agent call.call.settings = .passed
      { sys with
        calls := sys.calls.eraseIdx i
        sessions := sys.sessions ++ if passed then [call] else [] }
  | .closed, sys => { sys with agent := sys.agent.clearUnlessHeadless }
  | .restarted, sys =>
    { sys with
      agent := { isHeadless := sys.agent.isHeadless, enabled := sys.agent.enabled }
      calls := [] }

/-- The user of the connection, when the message was sent, held a lease of
the node. -/
def Entitled (sent : Sent) (c : String) : Prop :=
  ∃ m ∈ sent.server.connections.rows, m.connectionId = c ∧
    Holds sent.server.db m.userId deviceId

instance (sent : Sent) (c : String) : Decidable (Entitled deviceId sent c) :=
  inferInstanceAs (Decidable (∃ m ∈ sent.server.connections.rows, m.connectionId = c ∧
    Holds sent.server.db m.userId deviceId))

/-- The password a request brings, when it is a string. -/
def Sent.password (sent : Sent) : Option String :=
  match sent.message with
  | .remoteSessionRequested _ settings => (getField settings "connectPassword").bind asString
  | _ => none

/-- The user of the connection was told the token. A device is told the tokens
of its own leases. -/
def Knows (told : List (UserId × String)) (call : Call) (token : String) : Prop :=
  ∃ m ∈ call.sent.server.connections.rows, m.connectionId = call.call.target.connectionId ∧
    m.userId.all (fun user => (user,token) ∈ told)

/-- Tokens are not guessed: a request brings the token of a lease of the node
only if its user was told it. -/
def NotGuessed : Action → System → Prop
  | .check i, sys => ∀ call ∈ sys.calls[i]?, ∀ l ∈ sys.issued,
      call.sent.password = some l.leaseToken → Knows sys.told call l.leaseToken
  | _, _ => True

/-- The handler goes on while the lease it was authorized for still is what
it was authorized by. -/
def StillHeld (h : StreamHandler) (s : Server) : Prop :=
  ∃ m ∈ s.connections.get? h.connectionId, ∃ l ∈ s.db.leases.get? h.lease.leaseId,
    some l.user = m.userId ∧ l.deviceId = h.lease.deviceId ∧ Streamable l ∧ l.endedAt = none

/-- A legacy request of a user without a lease is not given the token, and does
not bring a token of a lease whose credentials the node keeps. -/
def LeaseChecked : Action → System → Prop
  | .forward i, sys => ∀ h ∈ sys.handlers[i]?, StillHeld h sys.server
  | .deliver i, sys => ∀ sent ∈ sys.inbox[i]?, sent.legacy = true →
      ∀ requesterInfo settings, sent.message = .remoteSessionRequested requesterInfo settings →
        Entitled deviceId sent requesterInfo.connectionId ∨ sys.agent.fillsIn settings = false
  | .check i, sys => ∀ call ∈ sys.calls[i]?, call.sent.legacy = true →
      ¬Entitled deviceId call.sent call.call.target.connectionId →
      ∀ l ∈ sys.issued, Knows sys.told call l.leaseToken →
        sys.agent.connectPasswordHash = hash l.leaseToken →
        call.sent.password ≠ some l.leaseToken
  | _, _ => True

def Guarded (a : Action) (sys : System) : Prop :=
  NotGuessed a sys ∧ LeaseChecked hash deviceId a sys

structure Sound (sys : System) : Prop where
  consistent : Consistent sys.server.db
  assigned : ∀ sent ∈ sys.inbox, ∀ id d token unit,
    sent.message = .leaseAssigned id d token unit → ∃ l ∈ sys.issued, l.leaseToken = token
  requested : ∀ sent ∈ sys.inbox, sent.legacy = false → ∀ requesterInfo settings,
    sent.message = .remoteSessionRequested requesterInfo settings →
    Entitled deviceId sent requesterInfo.connectionId
  credentials : sys.agent.connectable = true →
    ∃ l ∈ sys.issued, sys.agent.connectPasswordHash = hash l.leaseToken
  called : ∀ call ∈ sys.calls, Entitled deviceId call.sent call.call.target.connectionId ∨
    call.sent.legacy = true ∧ ∀ password, call.call.settings.connectPassword = some password →
      call.sent.password = some password
  started : ∀ call ∈ sys.sessions, Entitled deviceId call.sent call.call.target.connectionId

section Arriving
variable {deviceId : String} {s : Server} {legacy : Bool} {sends : List Send}

theorem arriving_mem {sent : Sent} (h : sent ∈ arriving deviceId s legacy sends) :
    ∃ send ∈ sends, sent = ⟨send.message,s,legacy⟩ ∧
      ∃ c ∈ recipients s send.target, reaches deviceId s c = true := by
  simp only [arriving, List.mem_flatMap, List.mem_map, List.mem_filter] at h
  obtain ⟨send, hsend, c, hc, rfl⟩ := h
  exact ⟨send,hsend,rfl,c,hc⟩

/-- A message to the group of a device reaches no other device. -/
theorem group_reaches {d c : String} (h : c ∈ recipients s (.group (.node d)))
    (hr : reaches deviceId s c = true) : d = deviceId := by
  simp only [recipients, List.mem_map, List.mem_filter, Bool.and_eq_true, decide_eq_true_eq] at h
  obtain ⟨m, ⟨hm, -, hd⟩, rfl⟩ := h
  have hget := (s.connections.mem_iff_get? m).mp hm
  simp only [reaches, hget, Option.any_some, Bool.and_eq_true, decide_eq_true_eq] at hr
  exact Option.some.inj (hd.symm.trans hr.2)

end Arriving

section Steps
variable {hash : String → String} {deviceId : String} {sys : System}

theorem Sound.withTold (h : Sound hash deviceId sys) (told : List (UserId × String)) :
    Sound hash deviceId { sys with told := told } :=
  ⟨h.consistent,h.assigned,h.requested,h.credentials,h.called,h.started⟩

theorem Sound.withHandlers (h : Sound hash deviceId sys) (handlers : List StreamHandler) :
    Sound hash deviceId { sys with handlers := handlers } :=
  ⟨h.consistent,h.assigned,h.requested,h.credentials,h.called,h.started⟩

theorem absorb_sound {legacy : Bool} {r : StepResult} (h : Sound hash deviceId sys)
    (hc : Consistent r.server.db) (hj : ∀ send ∈ r.sends, Justified r.server legacy send) :
    Sound hash deviceId (sys.absorb deviceId legacy r) where
  consistent := hc
  assigned sent hs id d token unit hmsg := by
    rcases List.mem_append.mp hs with hs | hs
    · obtain ⟨l, hl, ht⟩ := h.assigned sent hs id d token unit hmsg
      exact ⟨l,List.mem_append_left _ hl,ht⟩
    · obtain ⟨send, hsend, rfl, c, hrec, hreach⟩ := arriving_mem hs
      cases hj send hsend with
      | routine _ hr =>
        change send.message = _ at hmsg
        rw [hmsg] at hr
        exact hr.elim
      | assigned l hl =>
        cases hmsg
        have hd := group_reaches hrec hreach
        refine ⟨l,List.mem_append_right _ ?_,rfl⟩
        exact List.mem_filter.mpr ⟨hl,by simpa using hd⟩
      | checked => cases hmsg
      | unchecked _ _ hne => exact absurd hmsg (hne id d token unit)
  requested sent hs hlegacy requesterInfo settings hmsg := by
    rcases List.mem_append.mp hs with hs | hs
    · exact h.requested sent hs hlegacy requesterInfo settings hmsg
    · obtain ⟨send, hsend, rfl, c, hrec, hreach⟩ := arriving_mem hs
      cases hj send hsend with
      | routine _ hr =>
        change send.message = _ at hmsg
        rw [hmsg] at hr
        exact hr.elim
      | assigned => cases hmsg
      | checked m d settings' hm hholds =>
        cases hmsg
        exact ⟨m,Table.get?_mem hm,rfl,group_reaches hrec hreach ▸ hholds⟩
      | unchecked _ htrue => exact absurd (htrue.symm.trans hlegacy) (by simp)
  credentials hcon := by
    obtain ⟨l, hl, hhash⟩ := h.credentials hcon
    exact ⟨l,List.mem_append_left _ hl,hhash⟩
  called := h.called
  started := h.started

/-- A handler that goes on in time forwards on behalf of a holder. -/
theorem resume_justified {h : StreamHandler} {s : Server} {r : StepResult}
    (hheld : StillHeld h s) (hc : Consistent s.db) (hr : resume h s = some r) :
    Consistent r.server.db ∧ ∀ send ∈ r.sends, Justified r.server false send := by
  obtain ⟨m, hm, l, hl, huser, hd, hst, hlive⟩ := hheld
  have hmc := Table.get?_key hm
  unfold resume at hr
  rw [hm] at hr
  dsimp only at hr
  split at hr
  · rw [hl] at hr
    cases hr
    constructor
    · apply (updateLease_shrinks s.db h.lease.leaseId activeLease activeLease_leaseId ?_).consistent hc
      intro q hq
      obtain rfl : l = q := Option.some.inj (hl.symm.trans hq)
      exact ⟨rfl,rfl,fun he => he,fun _ => ⟨by simp [activeLease],by simp [activeLease, hlive]⟩⟩
    · have hholds : Holds (setLeaseActive h.lease.leaseId s.db) m.userId h.lease.deviceId :=
        ⟨activeLease l,setLeaseActive_mem hl,huser,hd,Or.inr rfl,hlive⟩
      intro send hs
      rcases List.mem_pair.mp hs with rfl | rfl
      · exact .routine _ trivial
      · exact .checked m _ _ (hmc.symm ▸ hm) hholds
  · cases hr
    have hholds : Holds s.db m.userId h.lease.deviceId :=
      ⟨l,Table.get?_mem hl,huser,hd,hst,hlive⟩
    refine ⟨hc,fun send hs => ?_⟩
    rw [List.mem_singleton.mp hs]
    exact .checked m _ _ (hmc.symm ▸ hm) hholds

theorem forward_sound (i : ℕ) (h : Sound hash deviceId sys)
    (hg : LeaseChecked hash deviceId (.forward i) sys) :
    Sound hash deviceId (step hash deviceId (.forward i) sys) := by
  have hrest := h.withHandlers (sys.handlers.eraseIdx i)
  simp only [step]
  cases hi : sys.handlers[i]? with
  | none => exact hrest
  | some handler =>
    cases hr : resume handler sys.server with
    | none => simpa [hr] using hrest
    | some r =>
      obtain ⟨hc, hj⟩ := resume_justified (hg handler hi) h.consistent hr
      simpa [hr] using absorb_sound hrest hc hj

theorem deliver_sound (i : ℕ) (h : Sound hash deviceId sys)
    (hg : LeaseChecked hash deviceId (.deliver i) sys) :
    Sound hash deviceId (step hash deviceId (.deliver i) sys) := by
  simp only [step]
  cases hi : sys.inbox[i]? with
  | none => exact h
  | some sent =>
    have hmem : sent ∈ sys.inbox := List.mem_of_getElem? hi
    refine ⟨h.consistent,?_,?_,?_,?_,h.started⟩
    · exact fun other ho => h.assigned other (List.mem_of_mem_eraseIdx ho)
    · exact fun other ho => h.requested other (List.mem_of_mem_eraseIdx ho)
    · intro hcon
      rcases onMessage_credentials hash sys.agent sent.message hcon with
        ⟨hold, hhash⟩ | ⟨id, d, token, unit, hmsg, hhash⟩
      · obtain ⟨l, hl, hlh⟩ := h.credentials hold
        exact ⟨l,hl,hhash.trans hlh⟩
      · obtain ⟨l, hl, ht⟩ := h.assigned sent hmem id d token unit hmsg
        exact ⟨l,hl,ht ▸ hhash⟩
    · intro call hcall
      rcases List.mem_append.mp hcall with hcall | hcall
      · exact h.called call hcall
      · obtain ⟨out, hout, rfl⟩ := List.mem_map.mp hcall
        obtain ⟨settings, hmsg, hst⟩ := onMessage_call hash (Option.mem_toList.mp hout)
        cases hlegacy : sent.legacy with
        | false => exact Or.inl (h.requested sent hmem hlegacy _ _ hmsg)
        | true =>
          refine (hg sent hi hlegacy _ _ hmsg).imp id fun hfill => ⟨rfl,?_⟩
          intro password hp
          simp only [Sent.password, hmsg, unfilled_password hfill hst hp]
          rfl

theorem check_sound (hinj : Function.Injective hash) (i : ℕ) (h : Sound hash deviceId sys)
    (hguess : NotGuessed (.check i) sys) (hg : LeaseChecked hash deviceId (.check i) sys) :
    Sound hash deviceId (step hash deviceId (.check i) sys) := by
  simp only [step]
  cases hi : sys.calls[i]? with
  | none => exact h
  | some call =>
    refine ⟨h.consistent,h.assigned,h.requested,h.credentials,?_,?_⟩
    · exact fun other ho => h.called other (List.mem_of_mem_eraseIdx ho)
    · intro other ho
      rcases List.mem_append.mp ho with ho | ho
      · exact h.started other ho
      · split at ho
        · rename_i hpassed
          rw [List.mem_singleton.mp ho]
          rcases h.called call (List.mem_of_getElem? hi) with hent | ⟨hlegacy, hbrought⟩
          · exact hent
          · by_contra hent
            obtain ⟨hcon, -, password, hp, hhash⟩ :=
              (startStreaming_passed_iff hash sys.agent call.call.settings).mp hpassed
            obtain ⟨l, hl, hlh⟩ := h.credentials hcon
            have htoken : password = l.leaseToken := hinj (hhash.symm.trans hlh)
            have hpw : call.sent.password = some l.leaseToken := htoken ▸ hbrought password hp
            exact hg call hi hlegacy hent l hl (hguess call hi l hl hpw) hlh hpw
        · simp at ho

theorem step_sound (hinj : Function.Injective hash) (a : Action) (sys : System)
    (hg : Guarded hash deviceId a sys) (h : Sound hash deviceId sys) :
    Sound hash deviceId (step hash deviceId a sys) := by
  cases a with
  | server e =>
    exact (absorb_sound h (consistent_step e sys.server h.consistent)
      (handle_justified e sys.server h.consistent)).withTold _
  | authorize c id settings => exact h.withHandlers _
  | forward i => exact forward_sound i h hg.2
  | deliver i => exact deliver_sound i h hg.2
  | check i => exact check_sound hinj i h hg.1 hg.2
  | closed =>
    refine ⟨h.consistent,h.assigned,h.requested,fun hcon => ?_,h.called,h.started⟩
    obtain ⟨hold, hhash⟩ := clearUnlessHeadless_credentials sys.agent hcon
    obtain ⟨l, hl, hlh⟩ := h.credentials hold
    exact ⟨l,hl,hhash.trans hlh⟩
  | restarted =>
    exact ⟨h.consistent,h.assigned,h.requested,fun hcon => absurd hcon (by simp [step]),
      by simp [step],h.started⟩

end Steps

def start (timeZone : Instant) (isHeadless enabled : Bool) : System :=
  { server := initial timeZone, agent := { isHeadless := isHeadless, enabled := enabled } }

theorem start_sound (timeZone : Instant) (isHeadless enabled : Bool) :
    Sound hash deviceId (start timeZone isHeadless enabled) :=
  ⟨(assigned_initial timeZone).2,by simp [start],by simp [start],by simp [start],by simp [start],
    by simp [start]⟩

/-- In a run whose legacy requests never get by on the lease of somebody else,
every stream that starts is that of a holder. -/
theorem holder_streams (hinj : Function.Injective hash) (timeZone : Instant)
    (isHeadless enabled : Bool) (as : List Action)
    (h : Meets (step hash deviceId) (Guarded hash deviceId) as (start timeZone isHeadless enabled)) :
    ∀ call ∈ (run (step hash deviceId) as (start timeZone isHeadless enabled)).sessions,
      Entitled deviceId call.sent call.call.target.connectionId :=
  (run_invariant (step hash deviceId) (step_sound hinj) as _ h
    (start_sound hash deviceId timeZone isHeadless enabled)).started

/-- The SHA-256 digest of the token `t1`, and an injection around it. -/
def digest : String → String :=
  Equiv.swap "t1" "628b49d96dcde97a430dd4f597705899e09a968f793491e4b704cae33a40dc02"

/-- The node is rented and has been told its lease. -/
def assignedRun : List Action := rentedRun.map .server ++ [.deliver 0,.deliver 0]

/-- Its customer asks for a stream. -/
def requestedRun : List Action :=
  assignedRun ++ [.server (.receive "c1" (.leaseReady (.uuid 1) none) 4),
    .server (.connect (.user ann) "u1" 5),
    .server (.receive "u1" (.requestRemoteControlLease (.uuid 1) []) 6),.deliver 0]

def atNode (as : List Action) : System := run (step digest "node-1") as (start 0 false true)

theorem holder_stream_starts :
    ∃ call ∈ (atNode (requestedRun ++ [.check 0])).sessions,
      Entitled "node-1" call.sent call.call.target.connectionId := by
  have hpass (i : ℕ) (sys : System) (h : ∀ sent ∈ sys.inbox[i]?, sent.legacy = false) :
      Guarded digest "node-1" (.deliver i) sys :=
    ⟨trivial,fun sent hs htrue => absurd (htrue.symm.trans (h sent hs)) (by simp)⟩
  have hcall : ∀ call ∈ (atNode requestedRun).calls[0]?,
      call.sent.password = none ∧ call.sent.legacy = false := by decide
  have hcheck : Guarded digest "node-1" (.check 0) (atNode requestedRun) :=
    ⟨fun call hc l _ hp => by simp [(hcall call hc).1] at hp,
      fun call hc htrue => absurd (htrue.symm.trans (hcall call hc).2) (by simp)⟩
  have hmeets : Meets (step digest "node-1") (Guarded digest "node-1")
      (requestedRun ++ [Action.check 0]) (start 0 false true) :=
    ⟨⟨trivial,trivial⟩,⟨trivial,trivial⟩,⟨trivial,trivial⟩,hpass 0 _ (by decide),
      hpass 0 _ (by decide),⟨trivial,trivial⟩,⟨trivial,trivial⟩,⟨trivial,trivial⟩,
      hpass 0 _ (by decide),hcheck,trivial⟩
  obtain ⟨call, hcall⟩ : ∃ call, call ∈ (atNode (requestedRun ++ [Action.check 0])).sessions :=
    List.exists_mem_of_length_pos (by decide)
  exact ⟨call,hcall,holder_streams digest "node-1" (Equiv.swap _ _).injective 0 false true _
    hmeets call hcall⟩

/-- Another user asks the same node without naming a lease. -/
def strangerRun : List Action :=
  assignedRun ++ [.server (.connect (.user bob) "u2" 5),
    .server (.receive "u2" (.requestRemoteControl (some "node-1") []) 6),.deliver 0]

theorem stranger_streams :
    Meets (step digest "node-1") NotGuessed (strangerRun ++ [.check 0]) (start 0 false true) ∧
    ∃ call ∈ (atNode (strangerRun ++ [.check 0])).sessions,
      ¬Entitled "node-1" call.sent call.call.target.connectionId := by
  have hcall : ∀ call ∈ (atNode strangerRun).calls[0]?, call.sent.password = none := by decide
  have hguess : NotGuessed (.check 0) (atNode strangerRun) :=
    fun call hc l _ hp => by simp [hcall call hc] at hp
  exact ⟨⟨trivial,trivial,trivial,trivial,trivial,trivial,trivial,trivial,hguess,trivial⟩,
    by decide⟩

end CloudPlay.StreamAuthorization
