import CloudPlay.LeaseOrders
import CloudPlay.RequestSettings
import CloudPlay.StaleDisconnect
import CloudPlay.StreamAuthorization

/-!
# The holder of a lease is let in

The other half of who gets a stream. Messages that arrive in order bring the
agent the token of a lease before any request made under it, and nothing
takes it away while the lease is live: a release is for this lease, the
socket stays open or the agent is headless, and the node is reached when it
is rented. So every request made under a live lease passes the checks, as
long as the lease lasts.
-/

set_option autoImplicit false

namespace CloudPlay.ServedHolders
open KeyedTable ControlPlaneModels ControlPlaneSerializers ControlPlaneDatabase
open ControlPlaneViews ControlPlaneConsumer ControlPlaneServer ControlPlaneEffects
open ExclusiveAssignment EndedTerminal NodeNotices LeaseTransitions LeaseOrders
open NodeAgentService RequestSettings StreamAuthorization StaleDisconnect TransitionRun

/-- The message gives the agent the token of the lease. -/
def Assigns (l : Lease) : Message → Prop
  | .leaseAssigned _ _ token _ => token = l.leaseToken
  | _ => False

/-- The message leaves an agent with the token of the lease. -/
def Harmless (l : Lease) : Message → Prop
  | .leaseAssigned _ _ token _ => token = l.leaseToken
  | .leaseRelease _ _ _ => False
  | _ => True

def IsRequest : Message → Prop
  | .remoteSessionRequested _ _ => True
  | _ => False

/-- A request without a password, or with the token of the lease. -/
def Brings (l : Lease) : Message → Prop
  | .remoteSessionRequested _ settings =>
    blankPassword settings = true ∨
      getField settings "connectPassword" = some (.str l.leaseToken)
  | _ => False

structure Keyed (hash : String → String) (a : NodeAgent) (l : Lease) : Prop where
  token : a.activeLeaseToken = some l.leaseToken
  connectable : a.connectable = true
  password : a.connectPasswordHash = hash l.leaseToken

variable (hash : String → String) (deviceId : String)

/-- The lease was there when the message was sent. -/
def SentUnder (sent : Sent) (l : Lease) : Prop :=
  ∃ q ∈ sent.server.db.leases, q.deviceId = deviceId ∧ q.leaseId = l.leaseId

/-- The assignment of the lease is on its way, and what comes before it is no
request made under the lease. -/
inductive Pending (l : Lease) : List Sent → Prop
  | assigned {sent : Sent} {rest : List Sent} : Assigns l sent.message →
      (∀ x ∈ rest, Harmless l x.message) → Pending l (sent::rest)
  | earlier {sent : Sent} {rest : List Sent} :
      (IsRequest sent.message → ¬SentUnder deviceId sent l) → Pending l rest →
      Pending l (sent::rest)

/-- The agent has the token already, or gets it before it is asked. -/
def Informed (sys : System) (l : Lease) : Prop :=
  (Keyed hash sys.agent l ∧ ∀ sent ∈ sys.inbox, Harmless l sent.message) ∨
  (Pending deviceId l sys.inbox ∧ ∀ call ∈ sys.calls, ¬SentUnder deviceId call.sent l)

/-- Lease ids of the node are not drawn twice, and the node is rented while
one of its sessions is open. -/
def RentsReached : Event → System → Prop
  | .rent _ _ _ draw, sys => (∀ i, ∀ l ∈ sys.issued, (draw i).1 ≠ l.leaseId) ∧
      ((∃ n ∈ sys.server.db.nodes, n.status = .free ∧ n.deviceId = deviceId) →
        ∃ c, Session deviceId sys.server c)
  | _, _ => True

def InOrder : Action → System → Prop
  | .server e, sys => FreesIdleNodes e sys.server ∧ ReleasesLive deviceId e sys.server ∧
      RentsReached deviceId e sys
  | .forward i, sys => ∀ h ∈ sys.handlers[i]?, StillHeld h sys.server
  | .deliver i, _ => i = 0
  | .closed, sys => sys.agent.isHeadless = true ∨ Idle sys.server.db deviceId
  | .restarted, sys => Idle sys.server.db deviceId
  | _, _ => True

/-- The ids of the node's leases that a server has are on record. -/
def Recorded (sys : System) (s : Server) : Prop :=
  ∀ l ∈ s.db.leases, l.deviceId = deviceId → ∃ q ∈ sys.issued, q.leaseId = l.leaseId

def Live (db : Database) (l : Lease) : Prop :=
  l ∈ db.leases ∧ l.deviceId = deviceId ∧ l.endedAt = none

structure Following (sys : System) : Prop where
  exclusive : Exclusive sys.server.db
  consistent : Consistent sys.server.db
  enabled : sys.agent.enabled = true
  recorded : Recorded deviceId sys sys.server
  waiting : ∀ sent ∈ sys.inbox, Recorded deviceId sys sent.server
  called : ∀ call ∈ sys.calls, Recorded deviceId sys call.sent.server
  informed : ∀ l, Live deviceId sys.server.db l → Informed hash deviceId sys l
  brought : ∀ call ∈ sys.calls, ∀ l, Live deviceId sys.server.db l →
    SentUnder deviceId call.sent l → Brings l call.sent.message →
    call.call.settings.connectPassword = some l.leaseToken ∧ call.call.settings.screenId.isSome

section Messages
variable {hash : String → String} {a : NodeAgent} {l : Lease} {msg : Message}

theorem assigns_not_request (h : Assigns l msg) : ¬IsRequest msg := by
  cases msg <;> simp_all [Assigns, IsRequest]

theorem routine_not_request (h : Routine msg) : ¬IsRequest msg := by
  cases msg <;> simp_all [Routine, IsRequest]

theorem assigns_keyed (h : Assigns l msg) : Keyed hash (a.onMessage hash msg).agent l := by
  cases msg with
  | leaseAssigned id d token unit =>
    have ht : token = l.leaseToken := h
    subst ht
    exact ⟨rfl,rfl,rfl⟩
  | _ => exact h.elim

theorem harmless_keyed (hk : Keyed hash a l) (h : Harmless l msg) :
    Keyed hash (a.onMessage hash msg).agent l := by
  cases msg with
  | leaseAssigned id d token unit => exact assigns_keyed h
  | leaseRelease id d reason => exact h.elim
  | _ => exact hk

theorem Brings.isRequest (h : Brings l msg) : IsRequest msg := by
  cases msg with
  | remoteSessionRequested requesterInfo settings => trivial
  | _ => exact h.elim

/-- An agent keyed to a lease makes a call with its token. -/
theorem call_brings {call : StreamCall} (hk : Keyed hash a l) (henabled : a.enabled = true)
    (hb : Brings l msg) (hcall : (a.onMessage hash msg).call = some call) :
    call.settings.connectPassword = some l.leaseToken := by
  obtain ⟨settings, rfl, hst⟩ := onMessage_call hash hcall
  have hcast := fromJson_password hst
  rw [nullable, defaultScreen_password, NodeAgent.fillPassword] at hcast
  by_cases hfill : a.fillsIn settings = true
  · rw [if_pos hfill, getField_setField_self, hk.token] at hcast
    exact (Option.some.inj hcast).symm
  · have hblank : blankPassword settings = false := by
      simpa [NodeAgent.fillsIn, hk.token, henabled] using hfill
    have hown := hb.resolve_left (by simp [hblank])
    rw [if_neg hfill, hown] at hcast
    exact (Option.some.inj hcast).symm

@[simp] theorem onMessage_enabled (hash : String → String) (a : NodeAgent) (msg : Message) :
    (a.onMessage hash msg).agent.enabled = a.enabled := by
  cases msg with
  | leaseRelease id d reason =>
    simp only [NodeAgent.onMessage, NodeAgent.clearUnlessHeadless]
    split <;> rfl
  | _ => rfl

theorem silent_harmless (h : Silent msg) : Harmless l msg := by
  cases msg with
  | leaseAssigned id d token unit => exact h.elim
  | leaseRelease id d reason => exact h.elim
  | _ => trivial

theorem fromJson_screenId {settings : Fields} {st : StreamedSettings}
    (h : StreamedSettings.fromJson settings = some st) :
    nullable asInt settings "targetScreenId" = some st.screenId := by
  obtain ⟨_, -, h⟩ := Option.bind_eq_some_iff.mp h
  obtain ⟨_, -, h⟩ := Option.bind_eq_some_iff.mp h
  obtain ⟨_, -, h⟩ := Option.bind_eq_some_iff.mp h
  obtain ⟨_, -, h⟩ := Option.bind_eq_some_iff.mp h
  obtain ⟨_, -, h⟩ := Option.bind_eq_some_iff.mp h
  obtain ⟨screen, hs, h⟩ := Option.bind_eq_some_iff.mp h
  have hst : st.screenId = screen := by
    simp only [Option.bind_eq_bind, Option.bind_eq_some_iff, Option.pure_def,
      Option.some.injEq] at h
    obtain ⟨_, -, _, -, _, -, _, -, _, -, _, -, _, -, _, -, rfl⟩ := h
    rfl
  rw [hs, hst]

/-- `startStreaming` is never called without a screen. -/
theorem call_screen {call : StreamCall} (hcall : (a.onMessage hash msg).call = some call) :
    call.settings.screenId.isSome := by
  obtain ⟨settings, -, hst⟩ := onMessage_call hash hcall
  have hcast := fromJson_screenId hst
  generalize a.fillPassword settings = filled at hcast
  unfold defaultScreen at hcast
  split at hcast
  · rw [nullable, getField_setField_self] at hcast
    simp [← Option.some.inj hcast]
  · rw [nullable, getField_setField_self] at hcast
    simp [← Option.some.inj hcast]
  · rename_i value hnull hget
    rw [nullable, hget] at hcast
    cases value with
    | null => exact absurd rfl hnull
    | _ =>
      simp only [Option.map_eq_some_iff] at hcast
      obtain ⟨n, -, hn⟩ := hcast
      simp [← hn]

end Messages

section Queue
variable {hash : String → String} {deviceId : String} {l q : Lease} {inbox more : List Sent}

theorem pending_append (h : Pending deviceId l inbox)
    (hmore : ∀ x ∈ more, Harmless l x.message) : Pending deviceId l (inbox ++ more) := by
  induction h with
  | assigned hl hrest =>
    refine .assigned hl fun x hx => ?_
    exact (List.mem_append.mp hx).elim (hrest x) (hmore x)
  | earlier hno _ ih => exact .earlier hno ih

theorem pending_after (h : Pending deviceId l more)
    (hno : ∀ x ∈ inbox, ¬SentUnder deviceId x l) : Pending deviceId l (inbox ++ more) := by
  induction inbox with
  | nil => exact h
  | cons x inbox ih =>
    exact .earlier (fun _ => hno x List.mem_cons_self)
      (ih fun y hy => hno y (List.mem_cons_of_mem _ hy))

/-- Of messages that ask for nothing, one that assigns the lease is the first. -/
theorem pending_of_mem (hall : ∀ x ∈ inbox, Harmless l x.message ∧ ¬IsRequest x.message)
    (hone : ∃ x ∈ inbox, Assigns l x.message) : Pending deviceId l inbox := by
  induction inbox with
  | nil => simp at hone
  | cons x inbox ih =>
    by_cases hx : Assigns l x.message
    · exact .assigned hx fun y hy => (hall y (List.mem_cons_of_mem _ hy)).1
    · obtain ⟨y, hy, ha⟩ := hone
      rcases List.mem_cons.mp hy with rfl | hy
      · exact absurd ha hx
      · refine .earlier (fun hreq => absurd hreq (hall x List.mem_cons_self).2) ?_
        exact ih (fun z hz => hall z (List.mem_cons_of_mem _ hz)) ⟨y,hy,ha⟩

theorem sentUnder_congr (hid : q.leaseId = l.leaseId) (sent : Sent) :
    SentUnder deviceId sent q ↔ SentUnder deviceId sent l := by
  rw [SentUnder, SentUnder, hid]

theorem harmless_congr (htoken : q.leaseToken = l.leaseToken) (msg : Message) :
    Harmless q msg ↔ Harmless l msg := by
  cases msg <;> simp [Harmless, htoken]

theorem brings_congr (htoken : q.leaseToken = l.leaseToken) (msg : Message) :
    Brings q msg ↔ Brings l msg := by
  cases msg <;> simp [Brings, htoken]

theorem pending_congr (hid : q.leaseId = l.leaseId) (htoken : q.leaseToken = l.leaseToken)
    (h : Pending deviceId q inbox) : Pending deviceId l inbox := by
  induction h with
  | @assigned sent rest ha hrest =>
    refine .assigned ?_ fun x hx => (harmless_congr htoken x.message).mp (hrest x hx)
    revert ha
    cases sent.message <;> simp [Assigns, htoken]
  | earlier hno _ ih => exact .earlier (fun hr hs => hno hr ((sentUnder_congr hid _).mpr hs)) ih

/-- A row that changes keeps its id and its token. -/
theorem informed_congr {sys : System} (hid : q.leaseId = l.leaseId)
    (htoken : q.leaseToken = l.leaseToken) (h : Informed hash deviceId sys q) :
    Informed hash deviceId sys l := by
  rcases h with ⟨hk, hall⟩ | ⟨hp, hcalls⟩
  · exact Or.inl ⟨⟨htoken ▸ hk.token,hk.connectable,htoken ▸ hk.password⟩,
      fun sent hs => (harmless_congr htoken _).mp (hall sent hs)⟩
  · exact Or.inr ⟨pending_congr hid htoken hp,
      fun call hc hs => hcalls call hc ((sentUnder_congr hid _).mpr hs)⟩

end Queue

section Steps
variable {hash : String → String} {deviceId : String} {sys : System}

theorem Following.passes (h : Following hash deviceId sys) {call : Call} (hcall : call ∈ sys.calls)
    {l : Lease} (hl : Live deviceId sys.server.db l) (hs : SentUnder deviceId call.sent l)
    (hb : Brings l call.sent.message) :
    startStreaming hash sys.agent call.call.settings = .passed := by
  obtain ⟨hpassword, hscreen⟩ := h.brought call hcall l hl hs hb
  rcases h.informed l hl with ⟨hk, -⟩ | ⟨-, hno⟩
  · exact (startStreaming_passed_iff hash _ _).mpr
      ⟨hk.connectable,hscreen,_,hpassword,hk.password⟩
  · exact absurd hs (hno call hcall)

/-- What arrives in a step does no harm to a live lease. -/
theorem arriving_harmless {s : Server} {legacy : Bool} {sends : List Send} {l : Lease}
    (hex : Exclusive s.db) (hsends : ∀ send ∈ sends, Ordered deviceId s.db send)
    (hl : Live deviceId s.db l) :
    ∀ sent ∈ arriving deviceId s legacy sends, Harmless l sent.message := by
  intro sent hs
  obtain ⟨send, hsend, rfl, c, hrec, hreach⟩ := arriving_mem hs
  cases hsends send hsend with
  | silent _ hquiet => exact silent_harmless hquiet
  | assigned q hq hlive =>
    have hd := group_reaches hrec hreach
    have hsame := hex.single q hq l hl.1 hlive hl.2.2 (hd.trans hl.2.1.symm)
    exact congrArg Lease.leaseToken hsame
  | released q reason hidle =>
    have hended := hidle (group_reaches hrec hreach) l hl.1 hl.2.1
    simp [hl.2.2] at hended

/-- A message to the node arrives over each of its sessions. -/
theorem arriving_of_session {s : Server} {legacy : Bool} {sends : List Send} {send : Send}
    (hsend : send ∈ sends) (htarget : send.target = .group (.node deviceId))
    (hsession : ∃ c, Session deviceId s c) :
    ⟨send.message,s,legacy⟩ ∈ arriving deviceId s legacy sends := by
  obtain ⟨c, m, hm, hrole, hd⟩ := hsession
  have hreach : c ∈ (recipients s send.target).filter (reaches deviceId s) := by
    rw [htarget]
    refine List.mem_filter.mpr ⟨List.mem_map.mpr ⟨m,?_,Table.get?_key hm⟩,
      by simp [reaches, hm, hrole, hd]⟩
    exact List.mem_filter.mpr ⟨Table.get?_mem hm,by simp [hrole, hd]⟩
  exact List.mem_flatMap.mpr ⟨send,hsend,List.mem_map.mpr ⟨c,hreach,rfl⟩⟩

/-- Where a live lease comes from: it was live before, or is announced now. -/
inductive Comes (deviceId : String) (sys : System) (r : StepResult) (l : Lease) : Prop
  | kept (q : Lease) : Live deviceId sys.server.db q → q.leaseId = l.leaseId →
      q.leaseToken = l.leaseToken → Comes deviceId sys r l
  | new : (∀ q ∈ sys.issued, q.leaseId ≠ l.leaseId) → leaseAssigned l ∈ r.sends →
      (∃ c, Session deviceId r.server c) → (∀ send ∈ r.sends, ¬IsRequest send.message) →
      Comes deviceId sys r l

theorem absorb_following {legacy : Bool} {r : StepResult} (h : Following hash deviceId sys)
    (hex : Exclusive r.server.db) (hc : Consistent r.server.db)
    (hsends : ∀ send ∈ r.sends, Ordered deviceId r.server.db send)
    (hfrom : ∀ l, Live deviceId r.server.db l → Comes deviceId sys r l) :
    Following hash deviceId (sys.absorb deviceId legacy r) := by
  have holder {s : Server} (hr : Recorded deviceId sys s) :
      Recorded deviceId (sys.absorb deviceId legacy r) s := by
    intro l hl hd
    obtain ⟨q, hq, hid⟩ := hr l hl hd
    exact ⟨q,List.mem_append_left _ hq,hid⟩
  have hself : Recorded deviceId (sys.absorb deviceId legacy r) r.server := by
    intro l hl hd
    refine ⟨l,List.mem_append_right _ (List.mem_filter.mpr ⟨hl,?_⟩),rfl⟩
    exact decide_eq_true hd
  have hfresh {s : Server} {l : Lease} (hr : Recorded deviceId sys s)
      (hnew : ∀ q ∈ sys.issued, q.leaseId ≠ l.leaseId) :
      ∀ q ∈ s.db.leases, q.deviceId = deviceId → q.leaseId ≠ l.leaseId := by
    intro q hq hd hid
    obtain ⟨p, hp, hpid⟩ := hr q hq hd
    exact hnew p hp (hpid.trans hid)
  refine ⟨hex,hc,h.enabled,hself,?_,fun call hcall => holder (h.called call hcall),?_,?_⟩
  · intro sent hs
    rcases List.mem_append.mp hs with hs | hs
    · exact holder (h.waiting sent hs)
    · obtain ⟨send, -, rfl, -⟩ := arriving_mem hs
      exact hself
  · intro l hl
    have hmore : ∀ sent ∈ arriving deviceId r.server legacy r.sends, Harmless l sent.message :=
      arriving_harmless hex hsends hl
    cases hfrom l hl with
    | kept q hq hid htoken =>
      rcases informed_congr hid htoken (h.informed q hq) with ⟨hk, hall⟩ | ⟨hp, hcalls⟩
      · refine Or.inl ⟨hk,fun sent hs => ?_⟩
        exact (List.mem_append.mp hs).elim (hall sent) (hmore sent)
      · exact Or.inr ⟨pending_append hp hmore,hcalls⟩
    | new hnew hsend hsession hquiet =>
      refine Or.inr ⟨pending_after (pending_of_mem ?_ ?_) ?_,?_⟩
      · intro sent hs
        refine ⟨hmore sent hs,?_⟩
        obtain ⟨send, hin, rfl, -⟩ := arriving_mem hs
        exact hquiet send hin
      · have htarget : (leaseAssigned l).target = .group (.node deviceId) :=
          congrArg (fun d => Target.group (.node d)) hl.2.1
        exact ⟨_,arriving_of_session hsend htarget hsession,rfl⟩
      · rintro sent hs ⟨q, hq, hd, hid⟩
        exact hfresh (h.waiting sent hs) hnew q hq hd hid
      · rintro call hcall ⟨q, hq, hd, hid⟩
        exact hfresh (h.called call hcall) hnew q hq hd hid
  · intro call hcall l hl hs hb
    cases hfrom l hl with
    | kept q hq hid htoken =>
      rw [← htoken]
      exact h.brought call hcall q hq ((sentUnder_congr hid _).mpr hs)
        ((brings_congr htoken _).mpr hb)
    | new hnew _ _ _ =>
      obtain ⟨q, hq, hd, hid⟩ := hs
      exact absurd hid (hfresh (h.called call hcall) hnew q hq hd)

/-- A live lease was live before the step, or the step rents it out. -/
theorem server_comes {e : Event} (hg : RentsReached deviceId e sys) {l : Lease}
    (hl : Live deviceId (ControlPlaneServer.step e sys.server).db l) :
    Comes deviceId sys (handle e sys.server) l := by
  obtain ⟨hrow, hd, hlive⟩ := hl
  by_cases hold : l ∈ sys.server.db.leases
  · exact .kept l ⟨hold,hd,hlive⟩ rfl rfl
  · cases lease_origin e sys.server l hrow with
    | kept hq => exact absurd hq hold
    | @rented user req now draw i price n hi =>
      obtain ⟨hsend, ⟨j, hj⟩, hnode⟩ := rentLease_announces hrow hold
      obtain ⟨hnew, hreached⟩ := hg
      have hid : (draw i).1 = (draw j).1 := hj
      refine .new (fun q hq hqid => hnew j q hq (hid ▸ hqid.symm)) hsend
        (hreached (hd ▸ hnode)) fun send hs => ?_
      rcases rentLease_sends user req now draw sys.server.db send hs with hr | ⟨q, -, rfl⟩
      · exact fun hreq => absurd hreq (routine_not_request hr)
      · exact fun hreq => hreq
    | @finished _ reason now q hq =>
      have hended := LeaseLifecycle.finish_endedAt reason.value now sys.server.db.timeZone q
      simp [hlive] at hended
    | @timedOut timeout now q hq _ _ =>
      have hended := LeaseLifecycle.finish_endedAt heartbeatTimeout now sys.server.db.timeZone q
      simp [hlive] at hended
    | @ready c msg now q hq => exact .kept q ⟨hq,hd,hlive⟩ rfl rfl
    | @active c msg now q hq => exact .kept q ⟨hq,hd,hlive⟩ rfl rfl

theorem server_following (e : Event) (h : Following hash deviceId sys)
    (hg : InOrder deviceId (.server e) sys) :
    Following hash deviceId (StreamAuthorization.step hash deviceId (.server e) sys) := by
  obtain ⟨hidle, hlive, hreached⟩ := hg
  obtain ⟨hex, hc⟩ := assigned_step e sys.server hidle ⟨h.exclusive,h.consistent⟩
  have hnext : Following hash deviceId
      (sys.absorb deviceId (isLegacy e) (handle e sys.server)) := absorb_following h hex hc
    (handle_ordered deviceId e sys.server h.exclusive h.consistent hlive)
    fun l hl => server_comes hreached hl
  exact ⟨hnext.exclusive,hnext.consistent,hnext.enabled,hnext.recorded,hnext.waiting,hnext.called,
    hnext.informed,hnext.brought⟩

/-- The rest of a lease stream's handler, as long as the lease is held. -/
theorem resume_kept {handler : StreamHandler} {s : Server} {r : StepResult}
    (hheld : StillHeld handler s) (hr : resume handler s = some r) :
    Shrinks s.db r.server.db ∧ (∀ send ∈ r.sends, Silent send.message) ∧
      ∀ l ∈ r.server.db.leases, ∃ q ∈ s.db.leases, q.leaseId = l.leaseId ∧
        q.deviceId = l.deviceId ∧ q.leaseToken = l.leaseToken ∧ q.endedAt = l.endedAt := by
  obtain ⟨m, hm, l, hl, -, -, -, hlive⟩ := hheld
  rw [Option.mem_def] at hm hl
  simp only [resume, hm, hl, Option.map_some] at hr
  split at hr
  · cases hr
    refine ⟨updateLease_shrinks s.db handler.lease.leaseId activeLease activeLease_leaseId ?_,
      ?_,fun q' hq' => ?_⟩
    · intro q hq
      obtain rfl : l = q := Option.some.inj (hl.symm.trans hq)
      exact ⟨rfl,rfl,id,fun _ => ⟨by simp [activeLease],by simp [activeLease, hlive]⟩⟩
    · simp [LeaseLifecycle.pushLeaseUpdate, forwardRequest, Silent]
    · rcases modify_origin activeLease_leaseId q' hq' with hq | ⟨q, hq, rfl⟩
      · exact ⟨q',hq,rfl,rfl,rfl,rfl⟩
      · exact ⟨q,hq,rfl,rfl,rfl,rfl⟩
  · cases hr
    exact ⟨shrinks_refl _,by simp [forwardRequest, Silent],fun q hq => ⟨q,hq,rfl,rfl,rfl,rfl⟩⟩

theorem Following.withHandlers (h : Following hash deviceId sys) (handlers : List StreamHandler) :
    Following hash deviceId { sys with handlers := handlers } :=
  ⟨h.exclusive,h.consistent,h.enabled,h.recorded,h.waiting,h.called,h.informed,h.brought⟩

theorem forward_following (i : ℕ) (h : Following hash deviceId sys)
    (hg : InOrder deviceId (.forward i) sys) :
    Following hash deviceId (StreamAuthorization.step hash deviceId (.forward i) sys) := by
  have hrest := h.withHandlers (sys.handlers.eraseIdx i)
  simp only [StreamAuthorization.step]
  cases hi : sys.handlers[i]? with
  | none => exact hrest
  | some handler =>
    cases hr : resume handler sys.server with
    | none => simpa [hr] using hrest
    | some r =>
      obtain ⟨hshrinks, hsilent, hrows⟩ := resume_kept (hg handler hi) hr
      have hfrom : ∀ l, Live deviceId r.server.db l →
          Comes deviceId { sys with handlers := sys.handlers.eraseIdx i } r l := by
        intro l hl
        obtain ⟨q, hq, hid, hd, htoken, he⟩ := hrows l hl.1
        exact .kept q ⟨hq,hd.trans hl.2.1,he.trans hl.2.2⟩ hid htoken
      have hnext : Following hash deviceId ({ sys with
          handlers := sys.handlers.eraseIdx i }.absorb deviceId false r) :=
        absorb_following hrest (hshrinks.exclusive h.exclusive)
          (hshrinks.consistent h.consistent) (fun send hs => .silent send (hsilent send hs)) hfrom
      simpa [hr] using hnext

theorem deliver_following (h : Following hash deviceId sys) :
    Following hash deviceId (StreamAuthorization.step hash deviceId (.deliver 0) sys) := by
  simp only [StreamAuthorization.step]
  cases hinbox : sys.inbox with
  | nil => simpa using h
  | cons x rest =>
    have hx : x ∈ sys.inbox := hinbox ▸ List.mem_cons_self
    have hrest : ∀ y ∈ rest, y ∈ sys.inbox := fun y hy => hinbox ▸ List.mem_cons_of_mem _ hy
    have hmade {call : Call} (hc : call ∈ (sys.agent.onMessage hash x.message).call.toList.map
        (fun call => (⟨x,call⟩ : Call))) :
        call.sent = x ∧ (sys.agent.onMessage hash x.message).call = some call.call := by
      obtain ⟨out, hout, rfl⟩ := List.mem_map.mp hc
      exact ⟨rfl,Option.mem_toList.mp hout⟩
    simp only [List.getElem?_cons_zero, List.eraseIdx_cons_zero]
    refine ⟨h.exclusive,h.consistent,?_,h.recorded,fun y hy => h.waiting y (hrest y hy),?_,?_,?_⟩
    · exact (onMessage_enabled hash sys.agent x.message).trans h.enabled
    · intro call hc
      rcases List.mem_append.mp hc with hc | hc
      · exact h.called call hc
      · exact (hmade hc).1 ▸ h.waiting x hx
    · intro l hl
      rcases h.informed l hl with ⟨hk, hall⟩ | ⟨hp, hcalls⟩
      · exact Or.inl ⟨harmless_keyed hk (hall x hx),fun y hy => hall y (hrest y hy)⟩
      · rw [hinbox] at hp
        cases hp with
        | assigned ha hharmless => exact Or.inl ⟨assigns_keyed ha,hharmless⟩
        | earlier hno hp =>
          refine Or.inr ⟨hp,fun call hc => ?_⟩
          rcases List.mem_append.mp hc with hc | hc
          · exact hcalls call hc
          · obtain ⟨hsent, hcall⟩ := hmade hc
            obtain ⟨settings, hmsg, -⟩ := onMessage_call hash hcall
            rw [hsent]
            exact hno (hmsg ▸ trivial)
    · intro call hc l hl hs hb
      rcases List.mem_append.mp hc with hc | hc
      · exact h.brought call hc l hl hs hb
      · obtain ⟨hsent, hcall⟩ := hmade hc
        rw [hsent] at hs hb
        refine ⟨?_,call_screen hcall⟩
        rcases h.informed l hl with ⟨hk, -⟩ | ⟨hp, -⟩
        · exact call_brings hk h.enabled hb hcall
        · rw [hinbox] at hp
          cases hp with
          | assigned ha _ =>
            exact absurd hb.isRequest (assigns_not_request ha)
          | earlier hno _ => exact absurd hs (hno hb.isRequest)

theorem step_following (a : Action) (sys : System) (hg : InOrder deviceId a sys)
    (h : Following hash deviceId sys) :
    Following hash deviceId (StreamAuthorization.step hash deviceId a sys) := by
  cases a with
  | server e => exact server_following e h hg
  | authorize c id settings => exact h.withHandlers _
  | forward i => exact forward_following i h hg
  | deliver i =>
    obtain rfl : i = 0 := hg
    exact deliver_following h
  | check i =>
    simp only [StreamAuthorization.step]
    cases hi : sys.calls[i]? with
    | none => exact h
    | some call =>
      have hmem {other : Call} (ho : other ∈ sys.calls.eraseIdx i) : other ∈ sys.calls :=
        List.mem_of_mem_eraseIdx ho
      refine ⟨h.exclusive,h.consistent,h.enabled,h.recorded,h.waiting,
        fun other ho => h.called other (hmem ho),fun l hl => ?_,
        fun other ho => h.brought other (hmem ho)⟩
      exact (h.informed l hl).imp_right fun hp => ⟨hp.1,fun other ho => hp.2 other (hmem ho)⟩
  | closed =>
    have hkept : sys.agent.clearUnlessHeadless.enabled = sys.agent.enabled := by
      unfold NodeAgent.clearUnlessHeadless
      split <;> rfl
    refine ⟨h.exclusive,h.consistent,hkept.trans h.enabled,h.recorded,h.waiting,h.called,
      fun l hl => ?_,h.brought⟩
    rcases hg with hheadless | hidle
    · have hsame : sys.agent.clearUnlessHeadless = sys.agent := by
        simp [NodeAgent.clearUnlessHeadless, hheadless]
      refine (h.informed l hl).imp_left fun hk => ⟨?_,hk.2⟩
      change Keyed hash sys.agent.clearUnlessHeadless l
      rw [hsame]
      exact hk.1
    · have hended := hidle l hl.1 hl.2.1
      simp [hl.2.2] at hended
  | restarted =>
    refine ⟨h.exclusive,h.consistent,h.enabled,h.recorded,h.waiting,
      by simp [StreamAuthorization.step],fun l hl => ?_,by simp [StreamAuthorization.step]⟩
    have hended := hg l hl.1 hl.2.1
    simp [hl.2.2] at hended

theorem start_following (timeZone : Instant) (isHeadless : Bool) :
    Following hash deviceId (start timeZone isHeadless true) := by
  obtain ⟨hex, hc⟩ := assigned_initial timeZone
  have hnone : ∀ l, l ∉ (start timeZone isHeadless true).server.db.leases := fun l hl =>
    absurd hl (Table.not_mem_empty l)
  exact ⟨hex,hc,rfl,fun l hl => absurd hl (hnone l),by simp [start],by simp [start],
    fun l hl => absurd hl.1 (hnone l),by simp [start]⟩

end Steps

/-- The states of runs in which everything comes in order. -/
def Reached (sys : System) : Prop :=
  ∃ timeZone isHeadless as,
    Meets (StreamAuthorization.step hash deviceId) (InOrder deviceId) as
      (start timeZone isHeadless true) ∧
    run (StreamAuthorization.step hash deviceId) as (start timeZone isHeadless true) = sys

/-- The agent works off its inbox. -/
def drain (sys : System) : System :=
  run (StreamAuthorization.step hash deviceId) (List.replicate sys.inbox.length (.deliver 0)) sys

/-- The holder asks through the server, and the node gets to it. -/
def askNode (c : String) (leaseId : Uuid) (s : StreamingSettings) (now : Instant) (sys : System) :
    System :=
  drain hash deviceId (StreamAuthorization.step hash deviceId
    (.server (.receive c (.requestRemoteControlLease (.uuid leaseId) s.toJson) now)) sys)

section Serving
variable {hash : String → String} {deviceId : String} {sys : System}

theorem Reached.following (h : Reached hash deviceId sys) : Following hash deviceId sys := by
  obtain ⟨timeZone, isHeadless, as, hmeets, rfl⟩ := h
  exact run_invariant _ step_following as _ hmeets (start_following timeZone isHeadless)

theorem Reached.next (h : Reached hash deviceId sys) (a : Action) (ha : InOrder deviceId a sys) :
    Reached hash deviceId (StreamAuthorization.step hash deviceId a sys) := by
  obtain ⟨timeZone, isHeadless, as, hmeets, rfl⟩ := h
  refine ⟨timeZone,isHeadless,as ++ [a],?_,by rw [run_append]; rfl⟩
  exact (meets_append _ _ as [a] _).mpr ⟨hmeets,ha,trivial⟩

/-- However long the agent waits before it checks a request that was made
under a lease, the request gets past the checks while the lease is live. -/
theorem lease_admits (h : Reached hash deviceId sys) :
    ∀ call ∈ sys.calls, ∀ l, Live deviceId sys.server.db l →
      SentUnder deviceId call.sent l → Brings l call.sent.message →
      startStreaming hash sys.agent call.call.settings = .passed :=
  fun _ hcall _ hl hs hb => h.following.passes hcall hl hs hb

/-- The node is rented to `ann`, reports the lease ready, and she connects. -/
def connectedRun : List Action :=
  assignedRun ++ [.server (.receive "c1" (.leaseReady (.uuid 1) none) 4),
    .server (.connect (.user ann) "u1" 5)]

theorem connected_reached : Reached digest "node-1" (atNode connectedRun) := by
  have hrent : RentsReached "node-1" (rentOne ann 3 1 "t1")
      (atNode ((rentedRun.take 2).map Action.server)) := by
    have hnone : (atNode ((rentedRun.take 2).map Action.server)).issued = [] := rfl
    refine ⟨fun i l hl => ?_,fun _ => ⟨"c1",deviceMeta "node-1" "c1",rfl,rfl,rfl⟩⟩
    rw [hnone] at hl
    cases hl
  exact ⟨0,false,connectedRun,⟨⟨trivial,trivial,trivial⟩,⟨trivial,trivial,trivial⟩,
    ⟨trivial,trivial,hrent⟩,rfl,rfl,⟨trivial,trivial,trivial⟩,⟨trivial,trivial,trivial⟩,
    trivial⟩,rfl⟩

/-- Her request, made without a password, passes although the agent checks it
late. -/
theorem requested_admitted :
    ∃ call ∈ (atNode requestedRun).calls,
      startStreaming digest (atNode requestedRun).agent call.call.settings = .passed := by
  have hreached : Reached digest "node-1" (atNode requestedRun) :=
    (connected_reached.next (.server (.receive "u1" (.requestRemoteControlLease (.uuid 1) []) 6))
      ⟨trivial,trivial,trivial⟩).next (.deliver 0) rfl
  obtain ⟨call, hcall⟩ : ∃ call, call ∈ (atNode requestedRun).calls :=
    List.exists_mem_of_length_pos (by decide)
  have hlease : ∃ l ∈ (atNode requestedRun).server.db.leases.rows,
      l.deviceId = "node-1" ∧ l.endedAt = none ∧ l.leaseId = 1 := by decide
  obtain ⟨l, hl, hd, hlive, hid⟩ := hlease
  have hunder : ∀ call ∈ (atNode requestedRun).calls,
      ∃ q ∈ call.sent.server.db.leases.rows, q.deviceId = "node-1" ∧ q.leaseId = 1 := by decide
  have hmessages : (atNode requestedRun).calls.map (fun call => call.sent.message) =
      [.remoteSessionRequested (requesterInfo (userMeta ann "u1")) []] := rfl
  have hbrings : ∀ call ∈ (atNode requestedRun).calls, Brings l call.sent.message := by
    intro call hc
    have hmem := List.mem_map_of_mem (f := fun call : Call => call.sent.message) hc
    rw [hmessages, List.mem_singleton] at hmem
    rw [hmem]
    exact Or.inl rfl
  refine ⟨call,hcall,lease_admits hreached call hcall l ⟨hl,hd,hlive⟩ ?_ (hbrings call hcall)⟩
  rw [SentUnder, hid]
  exact hunder call hcall

/-- Releasing an old lease once more takes the node from its next customer. -/
def releasedTwiceRun : List Action :=
  assignedRun ++ [.server (.release ann { leaseIds := [.uuid 1] } 5),.deliver 0,
    .server (.receive "c1" (.nodeHello "cn" "a" "1.0" none) 6),.server (rentOne bob 7 2 "t2"),
    .deliver 0,.server (.release ann { leaseIds := [.uuid 1] } 8),.deliver 0]

example : (atNode releasedTwiceRun).agent.connectable = false ∧
    ∃ l ∈ (atNode releasedTwiceRun).server.db.leases.rows, l.leaseId = 2 ∧ l.endedAt = none := by
  decide

@[simp] theorem deliver_server (i : ℕ) (sys : System) :
    (StreamAuthorization.step hash deviceId (.deliver i) sys).server = sys.server := by
  simp only [StreamAuthorization.step]
  split <;> rfl

theorem deliver_calls {call : Call} (i : ℕ) (h : call ∈ sys.calls) :
    call ∈ (StreamAuthorization.step hash deviceId (.deliver i) sys).calls := by
  simp only [StreamAuthorization.step]
  split
  · exact h
  · exact List.mem_append_left _ h

theorem deliveries_following (n : ℕ) (h : Following hash deviceId sys) :
    Following hash deviceId
      (run (StreamAuthorization.step hash deviceId) (List.replicate n (.deliver 0)) sys) := by
  induction n generalizing sys with
  | zero => exact h
  | succ n ih => exact ih (deliver_following h)

theorem deliveries_server (n : ℕ) (sys : System) :
    (run (StreamAuthorization.step hash deviceId) (List.replicate n (.deliver 0)) sys).server =
      sys.server := by
  induction n generalizing sys with
  | zero => rfl
  | succ n ih => exact (ih _).trans (deliver_server 0 sys)

theorem deliveries_calls {call : Call} (n : ℕ) (h : call ∈ sys.calls) :
    call ∈ (run (StreamAuthorization.step hash deviceId)
      (List.replicate n (.deliver 0)) sys).calls := by
  induction n generalizing sys with
  | zero => exact h
  | succ n ih => exact ih (deliver_calls 0 h)

/-- Every message of the inbox is handled, by the agent as it then is. -/
theorem drain_calls {x : Sent} (hx : x ∈ sys.inbox)
    (hcall : ∀ a : NodeAgent, (a.onMessage hash x.message).call.isSome) :
    ∃ call ∈ (drain hash deviceId sys).calls, call.sent = x ∧
      ∃ a : NodeAgent, (a.onMessage hash x.message).call = some call.call := by
  rw [drain]
  induction hinbox : sys.inbox generalizing sys with
  | nil => simp [hinbox] at hx
  | cons y rest ih =>
    rw [List.length_cons, List.replicate_succ]
    have hnext : StreamAuthorization.step hash deviceId (.deliver 0) sys =
        { sys with
          agent := (sys.agent.onMessage hash y.message).agent
          inbox := rest
          calls := sys.calls ++ (sys.agent.onMessage hash y.message).call.toList.map
            (fun call => ⟨y,call⟩) } := by
      simp [StreamAuthorization.step, hinbox]
    rw [hinbox] at hx
    rcases List.mem_cons.mp hx with rfl | hx
    · obtain ⟨call, hc⟩ := Option.isSome_iff_exists.mp (hcall sys.agent)
      refine ⟨⟨x,call⟩,deliveries_calls rest.length ?_,rfl,sys.agent,hc⟩
      rw [hnext]
      exact List.mem_append_right _ (by simp [hc])
    · exact ih (hnext ▸ hx) (hnext ▸ rfl)

/-- The server forwards the request of a holder, and the lease stays live. -/
theorem request_forwarded {s : Server} {c : String} {m : ConnectionMeta} {l : Lease}
    {settings : Fields} {now : Instant} (hm : s.connections.get? c = some m)
    (hrole : m.role = .user) (huser : m.userId = some l.user) (hl : Live deviceId s.db l)
    (hst : Streamable l) (hnode : (s.db.nodes.get? deviceId).any Node.hasConnection = true) :
    forwardRequest m deviceId settings ∈
        (handle (.receive c (.requestRemoteControlLease (.uuid l.leaseId) settings) now) s).sends ∧
    (handle (.receive c (.requestRemoteControlLease (.uuid l.leaseId) settings) now)
      s).server.connections = s.connections ∧
    ∃ q, Live deviceId (handle (.receive c (.requestRemoteControlLease (.uuid l.leaseId)
      settings) now) s).server.db q ∧ q.leaseId = l.leaseId ∧ q.leaseToken = l.leaseToken := by
  obtain ⟨hrow, hd, hlive⟩ := hl
  have hget := (s.db.leases.mem_iff_get? l).mp hrow
  have hauth : authorizeLeaseStream l.leaseId m.userId s.db = some l := by
    simp [authorizeLeaseStream, hget, Option.filter_some, huser, hst]
  have hopen : (s.db.nodes.get? l.deviceId).all (fun n => !n.hasConnection) = false := by
    rw [hd]
    cases hn : s.db.nodes.get? deviceId with
    | none => simp [hn] at hnode
    | some n => simpa [hn] using hnode
  simp only [handle, hm, handleMessage, hrole, handleRequestRemoteControlLease, hauth, hopen,
    Bool.false_eq_true, if_false]
  by_cases hready : l.status = .ready
  · rw [if_pos hready]
    refine ⟨by simp [hd],rfl,activeLease l,⟨setLeaseActive_mem hget,hd,hlive⟩,rfl,rfl⟩
  · rw [if_neg hready]
    exact ⟨by simp [hd],rfl,l,⟨hrow,hd,hlive⟩,rfl,rfl⟩

/-- A holder who asks for a stream gets past the checks once the node has
worked off its inbox, with the settings of the app. -/
theorem request_served (h : Reached hash deviceId sys) {c : String} {m : ConnectionMeta}
    {l : Lease} (s : StreamingSettings) (now : Instant)
    (hm : sys.server.connections.get? c = some m) (hrole : m.role = .user)
    (huser : m.userId = some l.user) (hl : Live deviceId sys.server.db l) (hst : Streamable l)
    (hnode : (sys.server.db.nodes.get? deviceId).any Node.hasConnection = true)
    (hsession : ∃ k, Session deviceId sys.server k)
    (hpassword : s.connectPassword.getD "" = "" ∨ s.connectPassword = some l.leaseToken) :
    ∃ call ∈ (askNode hash deviceId c l.leaseId s now sys).calls,
      call.call = ⟨requesterInfo m,{ s.streamed with
        screenId := some (s.targetScreenId.getD 0)
        connectPassword := some l.leaseToken }⟩ ∧
      startStreaming hash (askNode hash deviceId c l.leaseId s now sys).agent
        call.call.settings = .passed := by
  obtain ⟨hsend, hconn, q, hq, hid, htoken⟩ :=
    @request_forwarded deviceId sys.server c m l s.toJson now hm hrole huser hl hst hnode
  have hfollow := server_following (.receive c (.requestRemoteControlLease (.uuid l.leaseId)
    s.toJson) now) h.following ⟨trivial,trivial,trivial⟩
  rw [askNode]
  generalize hasked : StreamAuthorization.step hash deviceId (.server (.receive c
    (.requestRemoteControlLease (.uuid l.leaseId) s.toJson) now)) sys = asked at hfollow ⊢
  have hserver : asked.server = (handle (.receive c (.requestRemoteControlLease
    (.uuid l.leaseId) s.toJson) now) sys.server).server := by
    rw [← hasked]
    rfl
  rw [← hserver] at hconn hq
  have hx : (⟨(forwardRequest m deviceId s.toJson).message,asked.server,false⟩ : Sent) ∈
      asked.inbox := by
    have hopen : ∃ k, Session deviceId asked.server k := by
      obtain ⟨k, mk, hmk, hk⟩ := hsession
      exact ⟨k,mk,hconn ▸ hmk,hk⟩
    rw [hserver] at hopen ⊢
    rw [← hasked]
    exact List.mem_append_right _ (arriving_of_session hsend rfl hopen)
  have hcall (a : NodeAgent) :
      (a.onMessage hash (forwardRequest m deviceId s.toJson).message).call =
        some ⟨requesterInfo m,s.arrived a⟩ := by
    rw [forwardRequest, onMessage_request, fromJson_arrived, Option.map_some]
  have hbrings : Brings q (forwardRequest m deviceId s.toJson).message := by
    have hget := (sanitize_toJson s "connectPassword").trans (toJson_password s)
    rcases hpassword with hp | hp
    · left
      rw [blankPassword, hget]
      cases hs : s.connectPassword with
      | none => rfl
      | some password => simpa [hs] using hp
    · right
      rw [hget, hp, htoken]
      rfl
  obtain ⟨call, hmem, hsent, a, hmade⟩ :=
    @drain_calls hash deviceId asked _ hx (fun a => by rw [hcall a]; rfl)
  have hdrained : Following hash deviceId (drain hash deviceId asked) :=
    deliveries_following asked.inbox.length hfollow
  have hlive : Live deviceId (drain hash deviceId asked).server.db q := by
    rw [drain, deliveries_server]
    exact hq
  have hunder : SentUnder deviceId call.sent q := by
    rw [hsent]
    exact ⟨q,hq.1,hq.2.1,rfl⟩
  have hb : Brings q call.sent.message := by
    rw [hsent]
    exact hbrings
  refine ⟨call,hmem,?_,hdrained.passes hmem hlive hunder hb⟩
  have hmatch : call.call = ⟨requesterInfo m,s.arrived a⟩ :=
    Option.some.inj (hmade.symm.trans (hcall a))
  have hbrought := (hdrained.brought call hmem q hlive hunder hb).1
  rw [hmatch] at hbrought ⊢
  have hafter : passwordAfter a s.connectPassword = some l.leaseToken := htoken ▸ hbrought
  rw [StreamingSettings.arrived, hafter]

/-- `ann` asks with the token of her lease, as the app does. -/
def withToken : StreamingSettings := { connectPassword := some "t1" }

theorem token_served :
    ∃ call ∈ (askNode digest "node-1" "u1" 1 withToken 6 (atNode connectedRun)).calls,
      call.call.settings.connectPassword = some "t1" ∧
      startStreaming digest (askNode digest "node-1" "u1" 1 withToken 6
        (atNode connectedRun)).agent call.call.settings = .passed := by
  have hlease : ∃ l ∈ (atNode connectedRun).server.db.leases.rows, l.deviceId = "node-1" ∧
      l.endedAt = none ∧ Streamable l ∧ l.user = 1 ∧ l.leaseToken = "t1" ∧ l.leaseId = 1 := by
    decide
  obtain ⟨l, hl, hd, hlive, hst, huser, htoken, hid⟩ := hlease
  have hm : (atNode connectedRun).server.connections.get? "u1" = some (userMeta ann "u1") := rfl
  obtain ⟨call, hcall, hmade, hpassed⟩ := request_served connected_reached withToken 6 hm rfl
    (congrArg some huser.symm) ⟨hl,hd,hlive⟩ hst rfl
    ⟨"c1",deviceMeta "node-1" "c1",rfl,rfl,rfl⟩ (Or.inr (congrArg some htoken.symm))
  rw [hid] at hcall hpassed
  refine ⟨call,hcall,?_,hpassed⟩
  rw [hmade, htoken]

end Serving
end CloudPlay.ServedHolders
