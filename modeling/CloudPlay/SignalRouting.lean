import CloudPlay.NodeTransitions
import CloudPlay.StaleDisconnect

/-!
# Where a message for a device goes

A target is resolved first as the id of a live connection and then as a
device id. A message for a device goes astray only when another connection
has the device's id for its own, so messages reach the right party as long as
the two kinds of id do not meet and no connection id is handed out twice.
-/

set_option autoImplicit false

namespace CloudPlay.SignalRouting
open KeyedTable ControlPlaneModels ControlPlaneSerializers ControlPlaneDatabase LeaseLifecycle
open ControlPlaneConsumer ControlPlaneServer ControlPlaneEffects NodeTransitions StaleDisconnect

def deviceOf : WsAuth → Option String
  | .user _ => none
  | .device d => some d

def Matches : WsAuth → ConnectionMeta → Prop
  | .user _, m => m.role = .user
  | .device d, m => m.role = .device ∧ m.deviceId = some d

instance decidableMatches : (auth : WsAuth) → (m : ConnectionMeta) → Decidable (Matches auth m)
  | .user _, m => inferInstanceAs (Decidable (m.role = .user))
  | .device d, m => inferInstanceAs (Decidable (m.role = .device ∧ m.deviceId = some d))

/-- The device has a row or a live connection. -/
def Identity (s : Server) (d : String) : Prop :=
  (s.db.nodes.get? d).isSome ∨ ∃ m ∈ s.connections, Matches (.device d) m

instance (s : Server) (d : String) : Decidable (Identity s d) :=
  inferInstanceAs (Decidable (_ ∨ ∃ m ∈ s.connections.rows, Matches (.device d) m))

/-- The connection is closed, or it was opened with a token of the device. -/
def ClosedOr (d : String) (s : Server) (c : String) : Prop :=
  ∀ m ∈ s.connections.get? c, Matches (.device d) m

instance (d : String) (s : Server) (c : String) : Decidable (ClosedOr d s c) :=
  inferInstanceAs (Decidable (∀ m ∈ s.connections.get? c, Matches (.device d) m))

/-- No live connection has the id of another device. -/
def IdsApart (s : Server) : Prop := ∀ d, Identity s d → ClosedOr d s d

/-- A node row names connections of its own device only. -/
def RowsOwned (s : Server) : Prop :=
  ∀ d n, s.db.nodes.get? d = some n → ∀ c ∈ n.connectionId, ClosedOr d s c

def targetOf : ClientMessage → Option String
  | .requestRemoteControl target _ => target
  | .signal _ target _ => target
  | _ => none

/-- Whatever a connection sends to a device reaches connections of this device
only, and so does what the server sends to its group. -/
structure RightParty (s : Server) : Prop where
  relayed : ∀ c msg now d, targetOf msg = some d → Identity s d →
    ∀ send ∈ (handle (.receive c msg now) s).sends,
    ∀ x ∈ recipients (step (.receive c msg now) s) send.target, Session d s x
  grouped : ∀ d, ∀ x ∈ recipients s (.group (.node d)), Session d s x

section Resolving
variable {s : Server} {d : String}

theorem resolveTarget_right (ha : IdsApart s) (ho : RowsOwned s) (hd : Identity s d) {c : String}
    (h : resolveTarget s d = some c) : ClosedOr d s c := by
  unfold resolveTarget at h
  cases hlive : s.connections.get? d with
  | some m =>
    rw [hlive] at h
    rw [← Option.some.inj h]
    exact ha d hd
  | none =>
    rw [hlive] at h
    simp only [Option.bind_eq_some_iff, Option.filter_eq_some_iff] at h
    obtain ⟨n, ⟨hn, -⟩, hc⟩ := h
    exact ho d n hn c hc

theorem relay_right (ha : IdsApart s) (ho : RowsOwned s) (hd : Identity s d) {msg : Message}
    {send : Send} (h : send ∈ relay s (some d) msg) :
    ∃ x, send = ⟨.channel x,msg⟩ ∧ Session d s x := by
  unfold relay at h
  rw [Option.bind_some] at h
  cases hr : resolveTarget s d with
  | none => simp [hr] at h
  | some x =>
    rw [hr] at h
    unfold sendToConnection at h
    cases hx : s.connections.get? x with
    | none => simp [hx] at h
    | some m =>
      simp only [hx] at h
      refine ⟨x,List.mem_singleton.mp h,?_⟩
      exact ⟨m,hx,resolveTarget_right ha ho hd hr m hx⟩

theorem mem_group {x : String} (h : x ∈ recipients s (.group (.node d))) : Session d s x := by
  obtain ⟨m, hm, rfl⟩ := List.mem_map.mp h
  have hrow := List.mem_filter.mp hm
  simp only [Bool.and_eq_true, decide_eq_true_eq] at hrow
  exact ⟨m,(Table.mem_iff_get? _ _).mp hrow.1,hrow.2⟩

theorem rightParty (ha : IdsApart s) (ho : RowsOwned s) : RightParty s where
  relayed := by
    intro c msg now d ht hd send hs x hx
    have hrelay : ∃ out, send ∈ relay s (some d) out := by
      simp only [handle] at hs
      split at hs
      · cases hs
      · rename_i m hm
        cases msg with
        | requestRemoteControl target settings =>
          obtain rfl : target = some d := ht
          exact ⟨_,hs⟩
        | signal kind target data =>
          obtain rfl : target = some d := ht
          exact ⟨_,hs⟩
        | _ => cases ht
    obtain ⟨out, hrelay⟩ := hrelay
    obtain ⟨y, rfl, hy⟩ := relay_right ha ho hd hrelay
    rw [List.mem_singleton.mp hx]
    exact hy
  grouped := fun d x hx => mem_group hx

end Resolving

section Steps

/-- A live connection was so before, or the step opens it. -/
theorem step_connection {e : Event} {s : Server} {c : String} {m' : ConnectionMeta}
    (h : (step e s).connections.get? c = some m') :
    (∃ m, s.connections.get? c = some m ∧ m'.role = m.role ∧ m'.deviceId = m.deviceId) ∨
    ∃ auth now, e = .connect auth c now ∧ Matches auth m' := by
  cases e with
  | receive x msg now =>
    left
    simp only [step, handle] at h
    split at h
    · exact ⟨m',h,rfl,rfl⟩
    · rename_i m hm
      cases hr : handleMessage m msg now s with
      | none =>
        rw [hr] at h
        exact ⟨m',h,rfl,rfl⟩
      | some r =>
        rw [hr, Option.getD_some] at h
        rcases handleMessage_connections hr with hc | ⟨f, hf, hc, hkeep⟩
        · rw [hc] at h
          exact ⟨m',h,rfl,rfl⟩
        · rw [hc, Table.get?_modify] at h
          split at h
          · rename_i hx
            obtain ⟨q, hq, rfl⟩ := Option.map_eq_some_iff.mp h
            exact ⟨q,hx ▸ hq,(hkeep q).1,(hkeep q).2.1⟩
          · exact ⟨m',h,rfl,rfl⟩
  | connect auth x now =>
    have hinsert : ∀ (m : ConnectionMeta) (hm : s.connections.get? m.connectionId = none),
        (s.connections.insert m hm).get? c = some m' → m.connectionId = x → Matches auth m →
        (∃ m, s.connections.get? c = some m ∧ m'.role = m.role ∧ m'.deviceId = m.deviceId) ∨
        ∃ a t, Event.connect auth x now = .connect a c t ∧ Matches a m' := by
      intro m hm hget hid hauth
      rw [Table.get?_insert] at hget
      split at hget
      · rename_i hcx
        obtain rfl := Option.some.inj hget
        exact Or.inr ⟨auth,now,by rw [hcx, hid],hauth⟩
      · exact Or.inl ⟨m',hget,rfl,rfl⟩
    cases auth with
    | user u =>
      simp only [step, handle, connect] at h
      split at h
      · exact Or.inl ⟨m',h,rfl,rfl⟩
      · rename_i connections hi
        obtain ⟨hm, rfl⟩ := Table.insert?_eq_some.mp hi
        exact hinsert _ hm h rfl rfl
    | device d =>
      simp only [step, handle, connect] at h
      split at h
      · exact Or.inl ⟨m',h,rfl,rfl⟩
      · rename_i connections hi
        obtain ⟨hm, rfl⟩ := Table.insert?_eq_some.mp hi
        split at h
        · exact Or.inl ⟨m',h,rfl,rfl⟩
        · exact hinsert _ hm h rfl ⟨rfl,rfl⟩
  | disconnect x now =>
    left
    have hfilter : ∀ m, (s.connections.filter (fun m => m.connectionId ≠ x)).get? c = some m →
        s.connections.get? c = some m := by
      intro m hm
      rw [Table.get?_filter, Option.filter_eq_some_iff] at hm
      exact hm.1
    simp only [step, handle, disconnect] at h
    split at h
    · exact ⟨m',h,rfl,rfl⟩
    · split at h
      · split at h <;> exact ⟨m',hfilter m' h,rfl,rfl⟩
      · exact ⟨m',hfilter m' h,rfl,rfl⟩
  | _ => exact Or.inl ⟨m',h,rfl,rfl⟩

/-- The ids a step brings in are new: a connection id is on no row and is no
device id but the connecting device's own, and a device that connects or
registers has not taken the id of a live connection of somebody else. -/
def IdsFresh : Event → Server → Prop
  | .connect auth c _, s =>
    (∀ n ∈ s.db.nodes, n.connectionId ≠ some c) ∧ (Identity s c → auth = .device c) ∧
    ∀ d ∈ deviceOf auth, ClosedOr d s d
  | .deviceToken d _, s => ClosedOr d s d
  | _, _ => True

instance decidableIdsFresh : (e : Event) → (s : Server) → Decidable (IdsFresh e s)
  | .connect auth c _, s => inferInstanceAs (Decidable
      ((∀ n ∈ s.db.nodes.rows, n.connectionId ≠ some c) ∧ (Identity s c → auth = .device c) ∧
        ∀ d ∈ deviceOf auth, ClosedOr d s d))
  | .deviceToken d _, s => inferInstanceAs (Decidable (ClosedOr d s d))
  | .rent _ _ _ _, _ => isTrue trivial
  | .release _ _ _, _ => isTrue trivial
  | .leaseList _, _ => isTrue trivial
  | .billingInfo _, _ => isTrue trivial
  | .poolNodes _ _ _ _, _ => isTrue trivial
  | .adminNodes _, _ => isTrue trivial
  | .adminSetNodeState _ _ _, _ => isTrue trivial
  | .adminForceReleaseLease _ _ _, _ => isTrue trivial
  | .adminForceReleaseNode _ _ _, _ => isTrue trivial
  | .adminRebootNode _ _, _ => isTrue trivial
  | .adminDeleteNode _ _, _ => isTrue trivial
  | .adminUpdateNode _ _ _, _ => isTrue trivial
  | .savePricePlan _, _ => isTrue trivial
  | .disconnect _ _, _ => isTrue trivial
  | .receive _ _ _, _ => isTrue trivial
  | .checkHeartbeats _ _, _ => isTrue trivial

theorem closedOr_step {e : Event} {s : Server} {d c : String} (h : ClosedOr d s c)
    (hnew : ∀ auth now, e = .connect auth c now → auth = .device d) :
    ClosedOr d (step e s) c := by
  intro m' hm
  rcases step_connection hm with ⟨m, hm₀, hr, hdev⟩ | ⟨auth, now, he, hmatch⟩
  · have hold := h m hm₀
    exact ⟨hr.trans hold.1,hdev.trans hold.2⟩
  · rwa [hnew auth now he] at hmatch

/-- An identity is an old one, or a device connects or registers. -/
theorem identity_step {e : Event} {s : Server} {d : String} (h : Identity (step e s) d) :
    Identity s d ∨ (∃ c now, e = .connect (.device d) c now) ∨ ∃ now, e = .deviceToken d now := by
  rcases h with hrow | ⟨m', hm, hmatch⟩
  · have hchange := node_change e s d
    generalize (step e s).db.nodes.get? d = row' at hchange hrow
    generalize hbefore : s.db.nodes.get? d = row at hchange
    cases hchange with
    | same => exact Or.inl (Or.inl (hbefore ▸ hrow))
    | registered => exact Or.inr (Or.inr ⟨_,rfl⟩)
    | deleted hu hnone => cases hrow
    | connected hc hd hne => exact Or.inr (Or.inl ⟨_,_,rfl⟩)
    | hello hm hr hd => exact Or.inl (Or.inr ⟨_,Table.get?_mem hm,hr,hd⟩)
    | _ => exact Or.inl (Or.inl (by rw [hbefore]; rfl))
  · rcases step_connection ((Table.mem_iff_get? _ _).mp hm) with ⟨m, hm₀, hr, hd⟩ |
      ⟨auth, now, rfl, hauth⟩
    · exact Or.inl (Or.inr ⟨m,Table.get?_mem hm₀,hr ▸ hmatch.1,hd ▸ hmatch.2⟩)
    · cases auth with
      | user u =>
        have hrole := hauth.symm.trans hmatch.1
        cases hrole
      | device d' =>
        obtain rfl := Option.some.inj (hauth.2.symm.trans hmatch.2)
        exact Or.inr (Or.inl ⟨m'.connectionId,now,rfl⟩)

theorem idsApart_step {e : Event} {s : Server} (h : IdsApart s) (hf : IdsFresh e s) :
    IdsApart (step e s) := by
  intro d hd
  have hold : ClosedOr d s d := by
    rcases identity_step hd with hi | ⟨c, now, rfl⟩ | ⟨now, rfl⟩
    · exact h d hi
    · exact hf.2.2 d rfl
    · exact hf
  refine closedOr_step hold ?_
  rintro auth now rfl
  rcases identity_step hd with hi | ⟨c, t, he⟩ | ⟨t, he⟩
  · exact hf.2.1 hi
  · cases he
    rfl
  · cases he

/-- A row has its connection id from before, or the device has connected. -/
theorem row_connection {e : Event} {s : Server} {d c : String} {n' : Node}
    (hn' : (step e s).db.nodes.get? d = some n') (hc : n'.connectionId = some c) :
    (∃ n, s.db.nodes.get? d = some n ∧ n.connectionId = some c) ∨
    s.connections.get? c = none ∧ ∃ now, e = .connect (.device d) c now := by
  have hchange := node_change e s d
  rw [hn'] at hchange
  generalize hbefore : s.db.nodes.get? d = row at hchange
  generalize hafter : some n' = row' at hchange
  cases hchange with
  | same => exact Or.inl ⟨n',hafter.symm,hc⟩
  | registered =>
    obtain rfl := Option.some.inj hafter
    cases hc
  | deleted hu hnone => cases hafter
  | connected hnone hd hne =>
    obtain rfl := Option.some.inj hafter
    obtain rfl := Option.some.inj hc
    exact Or.inr ⟨hnone,_,rfl⟩
  | disconnected hm hr hd hcov =>
    obtain rfl := Option.some.inj hafter
    cases hc
  | takenDown hstale hdown =>
    obtain rfl := Option.some.inj hafter
    cases hc
  | hello hm hr hd =>
    obtain rfl := Option.some.inj hafter
    have hrow : (knownNode s.db d _).connectionId = some c := hc
    unfold knownNode at hrow
    rw [hbefore] at hrow
    cases row with
    | none => cases hrow
    | some n => exact Or.inl ⟨n,rfl,hrow⟩
  | inUse hm hr hd hl hid hdev hst =>
    obtain rfl := Option.some.inj hafter
    unfold inUseNode at hc
    split at hc <;> exact Or.inl ⟨_,rfl,hc⟩
  | _ =>
    obtain rfl := Option.some.inj hafter
    exact Or.inl ⟨_,rfl,hc⟩

theorem rowsOwned_step {e : Event} {s : Server} (h : RowsOwned s) (hf : IdsFresh e s) :
    RowsOwned (step e s) := by
  intro d n' hn' c hc
  rcases row_connection hn' hc with ⟨n, hn, hnc⟩ | ⟨hnone, now, rfl⟩
  · refine closedOr_step (h d n hn c hnc) ?_
    rintro auth now rfl
    exact absurd hnc (hf.1 n (Table.get?_mem hn))
  · refine closedOr_step (fun m hm => by rw [hnone] at hm; cases hm) ?_
    rintro auth t he
    cases he
    rfl

end Steps

end CloudPlay.SignalRouting
