import CloudPlay.TokenFlowSockets
import CloudPlay.ExclusiveAssignment

/-!
# Tenants on one server

What `U` observes is the answers to its own requests as a customer and the
messages delivered to its user connections. Both are the same on the hidden
server, so the tokens of other users do not reach `U`. In the other direction
a step for `U` leaves the rows of every other user alone.
-/

set_option autoImplicit false

namespace CloudPlay.TenantIsolation
open KeyedTable ControlPlaneModels ControlPlaneSerializers ControlPlaneDatabase LeaseLifecycle
open ControlPlaneViews ControlPlaneConsumer ControlPlaneServer ControlPlaneEffects LeaseEnding
open TokenHiding TokenFlow TokenFlowSockets ExclusiveAssignment TransitionRun

def requester : Event → Option User
  | .rent user _ _ _ => some user
  | .release user _ _ => some user
  | .leaseList user => some user
  | .billingInfo user => some user
  | .poolNodes user _ _ _ => some user
  | .adminNodes user => some user
  | .adminSetNodeState user _ _ => some user
  | .adminForceReleaseLease user _ _ => some user
  | .adminForceReleaseNode user _ _ => some user
  | .adminRebootNode user _ => some user
  | .adminDeleteNode user _ => some user
  | .adminUpdateNode user _ _ => some user
  | _ => none

/-- A request `U` makes without being an administrator. -/
def ownRequest (U : UserId) (e : Event) : Bool :=
  (requester e).any (fun user => user.id = U && !user.isStaff)

def isUserConnection (U : UserId) (s : Server) (c : String) : Bool :=
  (s.connections.get? c).any (fun m => m.role = .user && m.userId = some U)

structure Observation where
  response : Option Response
  messages : List (String × Message)

/-- The messages delivered to user connections of `U`. -/
def deliveries (U : UserId) (s : Server) (sends : List Send) : List (String × Message) :=
  sends.flatMap (fun send => ((recipients s send.target).filter (isUserConnection U s)).map
    (fun c => (c,send.message)))

def observe (U : UserId) (e : Event) (s : Server) : Observation :=
  ⟨if ownRequest U e then (handle e s).response else none,
    deliveries U (handle e s).server (handle e s).sends⟩

def observations (U : UserId) : List Event → Server → List Observation
  | [], _ => []
  | e::es, s => observe U e s::observations U es (step e s)

/-- Inputs that differ at most in the tokens drawn for leases of others. -/
def SameInput (U : UserId) : Event → Event → Prop
  | .rent user req now draw, .rent user' req' now' draw' =>
    user = user' ∧ req = req' ∧ now = now' ∧ (∀ i, (draw i).1 = (draw' i).1) ∧
      (user.id = U → draw = draw')
  | e, e' => e = e'

def hideEvent (U : UserId) : Event → Event
  | .rent user req now draw => .rent user req now (hideDraw U user.id draw)
  | e => e

variable {U : UserId}

theorem sameInput_hide {e e' : Event} (h : SameInput U e e') : hideEvent U e = hideEvent U e' := by
  unfold SameInput at h
  split at h
  · obtain ⟨rfl, rfl, rfl, hids, hown⟩ := h
    simp only [hideEvent, Event.rent.injEq, true_and]
    funext i
    rename_i user _ _ draw draw'
    by_cases hu : user.id = U
    · rw [hown hu]
    · simp [hideDraw, shown, hu, hids]
  · rw [h]

section Observing

/-- A message outside the visible ones reaches no user connection of `U`. -/
theorem invisible_recipients (s : Server) (send : Send) (h : visible U send = false) :
    (recipients s send.target).filter (isUserConnection U s) = [] := by
  refine List.filter_eq_nil_iff.mpr fun c hc hown => ?_
  have hreg : ∀ m ∈ s.connections.rows, m.connectionId = c → m.role = .user ∧
      m.userId = some U := by
    intro m hm hmc
    have hget : s.connections.get? c = some m := (s.connections.get?_eq_some c m).mpr ⟨hm,hmc⟩
    simpa [isUserConnection, hget] using hown
  cases htarget : send.target with
  | channel x => simp [visible, htarget] at h
  | group g =>
    rw [htarget] at hc
    cases g with
    | users => simp [visible, htarget] at h
    | user V =>
      obtain ⟨m, hm, hmc⟩ := List.mem_map.mp hc
      rw [List.mem_filter] at hm
      have hV : V ≠ U := by simpa [visible, htarget] using h
      have hu := (hreg m hm.1 hmc).2
      simp only [Bool.and_eq_true, decide_eq_true_eq] at hm
      exact hV (Option.some.inj (hm.2.2.symm.trans hu))
    | node d =>
      obtain ⟨m, hm, hmc⟩ := List.mem_map.mp hc
      rw [List.mem_filter] at hm
      simp only [Bool.and_eq_true, decide_eq_true_eq] at hm
      have hr := (hreg m hm.1 hmc).1
      rw [hm.2.1] at hr
      cases hr

theorem deliveries_visible (s : Server) (sends : List Send) :
    deliveries U s (sends.filter (visible U)) = deliveries U s sends := by
  induction sends with
  | nil => rfl
  | cons send sends ih =>
    rw [List.filter_cons]
    cases hv : visible U send with
    | true =>
      rw [if_pos rfl, deliveries, List.flatMap_cons]
      exact congrArg _ ih
    | false =>
      rw [if_neg (by simp), deliveries, deliveries, List.flatMap_cons,
        invisible_recipients s send hv]
      exact ih

/-- One event on the hidden server. -/
structure HandleAlike (U : UserId) (e : Event) (r r' : StepResult) : Prop where
  step : StepAlike U r r'
  response : ownRequest U e → r'.response = r.response

theorem view_alike (own : Prop) {e : Event} (s : Server) {v v' : ViewResult}
    (h : Alike U own v v') (ho : ownRequest U e → own) :
    HandleAlike U e (ofView s v) (ofView (hideServer U s) v') :=
  ⟨⟨by simp [ofView, hideServer, h.db],h.sends⟩,fun hown => congrArg some (h.response (ho hown))⟩

theorem admin_alike {e : Event} (s : Server) (user : User) {v v' : ViewResult}
    (h : Matched U v v') (he : requester e = some user) :
    HandleAlike U e (ofView s (adminOnly user s.db v))
      (ofView (hideServer U s) (adminOnly user (hide U s.db) v')) := by
  refine view_alike _ s (adminOnly_alike user s.db h.1 h.2) fun hown => ?_
  simpa [ownRequest, he] using hown

theorem socket_alike {e : Event} {r r' : StepResult} (h : StepAlike U r r')
    (he : requester e = none) : HandleAlike U e r r' :=
  ⟨h,fun hown => by simp [ownRequest, he] at hown⟩

theorem handle_alike (e : Event) (s : Server) :
    HandleAlike U e (handle e s) (handle (hideEvent U e) (hideServer U s)) := by
  have hown : ∀ {e : Event} {user : User}, requester e = some user → ownRequest U e →
      user.id = U := by
    intro e user he ho
    simp only [ownRequest, he, Option.any_some, Bool.and_eq_true, decide_eq_true_eq] at ho
    exact ho.1
  cases e with
  | rent user req now draw =>
    exact view_alike _ s (rentLease_alike user req now draw s.db) (hown rfl)
  | release user req now => exact view_alike _ s (releaseLease_alike user req now s.db) (hown rfl)
  | leaseList user => exact view_alike _ s (leaseList_alike user s.db) (hown rfl)
  | billingInfo user => exact view_alike _ s (billingInfo_alike user s.db) (hown rfl)
  | poolNodes user region tier status =>
    exact view_alike True s (alike_answer s.db fun _ => rfl) (fun _ => trivial)
  | deviceToken d now =>
    refine view_alike True s ?_ (fun _ => trivial)
    simp only [hideServer, deviceToken, hide_nodes]
    cases s.db.nodes.insert? (registeredNode d now) <;> exact ⟨rfl,rfl,fun _ => rfl⟩
  | adminNodes user => exact admin_alike s user ⟨rfl,rfl⟩ rfl
  | adminSetNodeState user d state =>
    exact admin_alike s user (adminSetNodeState_matched d state s.db) rfl
  | adminForceReleaseLease user id now =>
    exact admin_alike s user (adminForceReleaseLease_matched id s.db) rfl
  | adminForceReleaseNode user d now =>
    exact admin_alike s user (adminForceReleaseNode_matched d s.db) rfl
  | adminRebootNode user d => exact admin_alike s user (adminRebootNode_matched d s.db) rfl
  | adminDeleteNode user d => exact admin_alike s user (adminDeleteNode_matched d s.db) rfl
  | adminUpdateNode user d patch =>
    exact admin_alike s user (adminUpdateNode_matched d patch s.db) rfl
  | savePricePlan plan =>
    refine socket_alike ⟨?_,rfl⟩ rfl
    simp only [handle, hideEvent, hideServer, savePricePlan]
    have hp : (hide U s.db).prices = s.db.prices := rfl
    rw [hp]
    cases s.db.prices.insert? plan <;> rfl
  | connect auth c now => exact socket_alike (connect_alike auth c s) rfl
  | disconnect c now => exact socket_alike (disconnect_alike c s) rfl
  | receive c msg now =>
    refine socket_alike ?_ rfl
    have hconn : (hideServer U s).connections = s.connections := rfl
    simp only [handle, hideEvent, hconn]
    split
    · exact ⟨rfl,rfl⟩
    · rename_i m _
      have h := @handleMessage_alike U now m msg s
      generalize handleMessage m msg now (hideServer U s) = q at h ⊢
      generalize handleMessage m msg now s = p at h ⊢
      cases h with
      | none => exact ⟨rfl,rfl⟩
      | some hr => exact hr
  | checkHeartbeats timeout now =>
    refine socket_alike ?_ rfl
    have hstale : staleNodes (hide U s.db) timeout now = staleNodes s.db timeout now := rfl
    obtain ⟨hdb, hs⟩ := @takeDown_alike U now (staleNodes s.db timeout now) s.db
    simp only [handle, hideEvent, hideServer, hstale, hdb]
    exact ⟨rfl,hs⟩

theorem observe_hide (e : Event) (s : Server) :
    observe U (hideEvent U e) (hideServer U s) = observe U e s := by
  have h := handle_alike (U := U) e s
  have hreq : ownRequest U (hideEvent U e) = ownRequest U e := by cases e <;> rfl
  have hmessages : ∀ sends, deliveries U (hideServer U (handle e s).server) sends =
      deliveries U (handle e s).server sends := fun _ => rfl
  rw [observe, observe, hreq, h.step.server, hmessages, ← deliveries_visible, h.step.sends,
    deliveries_visible]
  congr 1
  split
  · rename_i hown
    exact h.response hown
  · rfl

theorem observations_hide (es : List Event) (s : Server) :
    observations U (es.map (hideEvent U)) (hideServer U s) = observations U es s := by
  induction es generalizing s with
  | nil => rfl
  | cons e es ih =>
    have hstep : step (hideEvent U e) (hideServer U s) = hideServer U (step e s) :=
      (handle_alike e s).step.server
    rw [List.map_cons, observations, observe_hide, hstep, ih]
    rfl

end Observing

section Rows
variable {V : UserId} {db db' db'' : Database}

/-- The rows of tenant `V`. -/
structure SameTenant (V : UserId) (db db' : Database) : Prop where
  leases : db'.leases.rows.filter (fun l => l.user = V) =
    db.leases.rows.filter (fun l => l.user = V)
  records : db'.billingRecords.filter (fun b => b.user = V) =
    db.billingRecords.filter (fun b => b.user = V)
  keys : db'.idempotencyKeys.rows.filter (fun k => k.user = V) =
    db.idempotencyKeys.rows.filter (fun k => k.user = V)

theorem SameTenant.refl (db : Database) : SameTenant V db db := ⟨rfl,rfl,rfl⟩

theorem SameTenant.trans (h : SameTenant V db db') (h' : SameTenant V db' db'') :
    SameTenant V db db'' :=
  ⟨h'.leases.trans h.leases,h'.records.trans h.records,h'.keys.trans h.keys⟩

/-- Rewriting rows of others in place. -/
theorem filter_map_other {ls : List Lease} {f : Lease → Lease} (hu : ∀ l, (f l).user = l.user)
    (hf : ∀ l ∈ ls, l.user = V → f l = l) :
    (ls.map f).filter (fun l => l.user = V) = ls.filter (fun l => l.user = V) := by
  rw [List.filter_map]
  have hfilter : ls.filter ((fun l => decide (l.user = V)) ∘ f) =
      ls.filter (fun l => l.user = V) :=
    List.filter_congr fun l _ => by simp [hu]
  rw [hfilter]
  refine map_eq_self_iff.mpr fun l hl => ?_
  rw [List.mem_filter] at hl
  exact hf l hl.1 (of_decide_eq_true hl.2)

theorem ends_tenant {reason : String} {t : Instant} {ids : List Uuid}
    (h : Ends reason t ids db db') (hids : ∀ l ∈ db.leases, l.leaseId ∈ ids → l.user ≠ V) :
    SameTenant V db db' where
  leases := by
    rw [h.leases]
    refine filter_map_other (fun l => ?_) fun l hl hu => ?_
    · unfold finishIn
      split <;> simp
    · have hout : l.leaseId ∉ ids := fun hi => hids l hl hi hu
      simp [finishIn, hout]
  records := by
    obtain ⟨new, hnew, hfrom⟩ := h.records
    have hnone : new.filter (fun b => b.user = V) = [] := by
      refine List.filter_eq_nil_iff.mpr fun b hb hbu => ?_
      obtain ⟨l, hl, hi, -, -, hu⟩ := hfrom b hb
      exact hids l hl hi (hu.symm.trans (of_decide_eq_true hbu))
    rw [hnew, List.filter_append, hnone, List.append_nil]
  keys := by rw [h.idempotencyKeys]

theorem createLease_tenant {l : Lease} (hV : l.user ≠ V) (h : db.createLease l = some db') :
    SameTenant V db db' := by
  simp only [Database.createLease, Option.map_eq_some_iff] at h
  obtain ⟨leases, hl, rfl⟩ := h
  obtain ⟨hk, rfl⟩ := Table.insert?_eq_some.mp hl
  exact ⟨by simp [Table.insert, hV],rfl,rfl⟩

theorem setNodeStatus_tenant (db : Database) (d : String) (st : NodeStatus) :
    SameTenant V db (db.setNodeStatus d st) := ⟨rfl,rfl,rfl⟩

theorem setReleasing_tenant (db : Database) (d : String) :
    SameTenant V db (setReleasing db d) := by
  rcases setReleasing_cases db d with h | ⟨_, -, -, h⟩ <;> rw [h]
  · exact SameTenant.refl db
  · exact ⟨rfl,rfl,rfl⟩

theorem rentNodes_tenant {user : UserId} {unit : BillingUnit} {price : Money} {now : Instant}
    {draw : ℕ → Uuid × String} {i : ℕ} {nodes : List Node} {ls : List Lease} (hV : user ≠ V)
    (h : rentNodes user unit price now draw i nodes db = some (db',ls)) :
    SameTenant V db db' := by
  induction nodes generalizing i db ls with
  | nil =>
    simp only [rentNodes, Option.some.injEq, Prod.mk.injEq] at h
    exact h.1 ▸ SameTenant.refl db
  | cons n nodes ih =>
    simp only [rentNodes, Option.bind_eq_bind, Option.bind_eq_some_iff, Option.pure_def,
      Option.some.injEq, Prod.mk.injEq, Prod.exists] at h
    obtain ⟨db₁, h₁, db₂, ls₂, h₂, rfl, rfl⟩ := h
    exact ((createLease_tenant hV h₁).trans
      (setNodeStatus_tenant db₁ n.deviceId .assigned)).trans (ih h₂)

theorem remember_tenant {user : User} {scope : Scope} {key : Option String} {sends : List Send}
    {body : Body} (hV : user.id ≠ V) :
    SameTenant V db (remember db sends user scope key body).db := by
  cases key with
  | none => exact SameTenant.refl db
  | some k =>
    simp only [remember, Database.createIdempotencyKey]
    cases hi : db.idempotencyKeys.insert? ⟨user.id,scope,k,body⟩ with
    | none => exact SameTenant.refl db
    | some keys =>
      obtain ⟨hk, rfl⟩ := Table.insert?_eq_some.mp hi
      exact ⟨rfl,rfl,by simp [Table.insert, hV]⟩

theorem rentLease_tenant (user : User) (req : RentRequest) (now : Instant)
    (draw : ℕ → Uuid × String) (hV : user.id ≠ V) :
    SameTenant V db (rentLease user req now draw db).db := by
  unfold rentLease
  split
  · exact SameTenant.refl db
  · split
    · exact SameTenant.refl db
    · dsimp only
      split
      · exact SameTenant.refl db
      · split
        · exact SameTenant.refl db
        · rename_i db' ls h
          exact (rentNodes_tenant hV h).trans (remember_tenant hV)

theorem releaseLeases_tenant {user : UserId} {t : Instant} {rs : List LeaseRef}
    {out : ReleaseOutcome} (hV : user ≠ V) (h : releaseLeases user t rs db = some out) :
    SameTenant V db out.db := by
  refine releaseLeases_closure SameTenant.refl (fun _ _ _ => SameTenant.trans) user t ?_ rs db
    out h
  intro id l l' a b hl he
  obtain ⟨hget, hu⟩ := leaseOfUser_eq_some.mp hl
  have hmem := Table.get?_mem hget
  refine (ends_tenant (endLease_ends hmem he).1 fun q hq hid => ?_).trans
    (setReleasing_tenant b l.deviceId)
  rw [a.leases.key_injective hq hmem (List.mem_singleton.mp hid), hu]
  exact hV

theorem releaseLease_tenant (user : User) (req : ReleaseRequest) (now : Instant)
    (hV : user.id ≠ V) : SameTenant V db (releaseLease user req now db).db := by
  unfold releaseLease
  split
  · exact SameTenant.refl db
  · split
    · exact SameTenant.refl db
    · split
      · exact SameTenant.refl db
      · rename_i out h
        have hout := releaseLeases_tenant hV h
        split
        · exact hout
        · exact hout.trans (remember_tenant hV)

theorem billingInfo_tenant (user : User) : SameTenant V db (billingInfo user db).db := by
  simp only [billingInfo, answer, Database.ensureAccount]
  split <;> exact ⟨rfl,rfl,rfl⟩

/-- A message on a user connection writes to leases of that user at most. -/
theorem messageEffect_tenant {m : ConnectionMeta} {msg : ClientMessage} {now : Instant}
    (hr : m.role = .user) (hu : m.userId ≠ some V) (h : MessageEffect m msg now db db') :
    SameTenant V db db' := by
  cases h with
  | none => exact SameTenant.refl db
  | seen d hd => simp [hr] at hd
  | hello d hello hd => simp [hr] at hd
  | ready id claimed d hd => simp [hr] at hd
  | active id l _ hl =>
    simp only [authorizeLeaseStream, Option.filter_eq_some_iff, Bool.and_eq_true,
      decide_eq_true_eq] at hl
    obtain ⟨hget, hown, -⟩ := hl
    have hrows : (setLeaseActive id db).leases.rows = db.leases.rows.map (fun q =>
      if q.leaseId = id then activeLease q else q) := rfl
    refine ⟨?_,rfl,rfl⟩
    rw [hrows]
    refine filter_map_other (fun q => ?_) fun q hq hqV => ?_
    · split <;> rfl
    · have hne : q.leaseId ≠ id := by
        intro hid
        have hql := db.leases.key_injective hq (Table.get?_mem hget)
          (hid.trans (Table.get?_key hget).symm)
        rw [hql] at hqV
        exact hu (hown.symm.trans (congrArg some hqV))
      simp [hne]

end Rows

/-- A step taken for `U`: a request of `U` that is no administrator's, or an
event of a user connection of `U`. -/
def ActsFor (U : UserId) : Event → Server → Prop
  | .connect (.user u) _ _, _ => u.id = U
  | .disconnect c _, s => isUserConnection U s c
  | .receive c _ _, s => isUserConnection U s c
  | e, _ => ownRequest U e

theorem refused_tenant {V : UserId} {user : User} {db : Database} {v : ViewResult}
    (h : user.isStaff = false) : SameTenant V db (adminOnly user db v).db := by
  simp only [adminOnly, h, Bool.false_eq_true, if_false]
  exact SameTenant.refl db

theorem actsFor_tenant {V : UserId} (hV : V ≠ U) (e : Event) (s : Server) (h : ActsFor U e s) :
    SameTenant V s.db (step e s).db := by
  have hown : ∀ {e : Event} {user : User}, requester e = some user → ownRequest U e = true →
      user.id ≠ V ∧ user.isStaff = false := by
    intro e user he ho
    simp only [ownRequest, he, Option.any_some, Bool.and_eq_true, decide_eq_true_eq,
      Bool.not_eq_true'] at ho
    exact ⟨fun hid => hV (hid.symm.trans ho.1),ho.2⟩
  have hconn : ∀ c, isUserConnection U s c = true → ∃ m, s.connections.get? c = some m ∧
      m.role = .user ∧ m.userId = some U := by
    intro c hc
    simp only [isUserConnection, Option.any_eq_true, Bool.and_eq_true, decide_eq_true_eq] at hc
    exact hc
  cases e with
  | rent user req now draw => exact rentLease_tenant user req now draw (hown rfl h).1
  | release user req now => exact releaseLease_tenant user req now (hown rfl h).1
  | leaseList user => exact SameTenant.refl _
  | billingInfo user => exact billingInfo_tenant user
  | poolNodes user region tier status => exact SameTenant.refl _
  | deviceToken d now => exact absurd h (by simp [ActsFor, ownRequest, requester])
  | adminNodes user => exact refused_tenant (hown rfl h).2
  | adminSetNodeState user d state => exact refused_tenant (hown rfl h).2
  | adminForceReleaseLease user id now => exact refused_tenant (hown rfl h).2
  | adminForceReleaseNode user d now => exact refused_tenant (hown rfl h).2
  | adminRebootNode user d => exact refused_tenant (hown rfl h).2
  | adminDeleteNode user d => exact refused_tenant (hown rfl h).2
  | adminUpdateNode user d patch => exact refused_tenant (hown rfl h).2
  | savePricePlan plan => exact absurd h (by simp [ActsFor, ownRequest, requester])
  | connect auth c now =>
    cases auth with
    | user u =>
      change SameTenant V s.db (connect (.user u) c now s).server.db
      rcases connect_cases (.user u) c now s with hdb | ⟨d, hd, -⟩
      · rw [hdb]
        exact SameTenant.refl _
      · cases hd
    | device d => exact absurd h (by simp [ActsFor, ownRequest, requester])
  | disconnect c now =>
    obtain ⟨m, hm, hr, -⟩ := hconn c h
    change SameTenant V s.db (disconnect c now s).server.db
    rcases disconnect_cases c now s with hdb | ⟨q, d, sends, hq, hqr, -⟩
    · rw [hdb]
      exact SameTenant.refl _
    · rw [hm] at hq
      obtain rfl := Option.some.inj hq
      simp [hr] at hqr
  | receive c msg now =>
    obtain ⟨m, hm, hr, hu⟩ := hconn c h
    rcases receive_effect c msg now s with hdb | ⟨q, hq, he⟩
    · rw [hdb]
      exact SameTenant.refl _
    · rw [hm] at hq
      obtain rfl := Option.some.inj hq
      exact messageEffect_tenant hr (by simp [hu, Ne.symm hV]) he
  | checkHeartbeats timeout now => exact absurd h (by simp [ActsFor, ownRequest, requester])

/-- Tenant isolation: a step for `U` keeps the rows of every other user, and two
runs that differ in the tokens of others show `U` the same. -/
theorem tenants_isolated (U : UserId) (s : Server) :
    (∀ e V, V ≠ U → ActsFor U e s → SameTenant V s.db (step e s).db) ∧
    ∀ es es', List.Forall₂ (SameInput U) es es' → observations U es s = observations U es' s := by
  refine ⟨fun e V hV h => actsFor_tenant hV e s h,fun es es' h => ?_⟩
  have hsame : es.map (hideEvent U) = es'.map (hideEvent U) := by
    induction h with
    | nil => rfl
    | cons he _ ih => rw [List.map_cons, List.map_cons, sameInput_hide he, ih]
  rw [← observations_hide es s, hsame, observations_hide es' s]

end CloudPlay.TenantIsolation
