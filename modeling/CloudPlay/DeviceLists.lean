import CloudPlay.NodeNotices
import CloudPlay.PublishedView

/-!
# The list of devices a user is shown

`connected_devices` lists the connections of users: to each user his own and
those that others can be connected to. All lists are sent again when a user
disconnects or tells about his device, and not when he connects, so a
connection stays unlisted until it has introduced itself.
-/

set_option autoImplicit false

namespace CloudPlay.DeviceLists
open KeyedTable ControlPlaneModels ControlPlaneSerializers ControlPlaneDatabase LeaseLifecycle
open ControlPlaneViews ControlPlaneConsumer ControlPlaneServer ControlPlaneEffects
open NodeNotices TransitionRun PublishedView

abbrev Registry := Table ConnectionMeta.connectionId

def entryListed (devices : List DeviceEntry) (k : String) : Option DeviceEntry :=
  devices.find? (fun d => d.connectionId = k)

/-- The entry of a connection in the list of a user. -/
def listedFor (u : UserId) (connections : Registry) (k : String) : Option DeviceEntry :=
  ((connections.get? k).filter (fun m =>
    m.role = .user && (m.userId = some u || m.connective))).map deviceEntry

theorem entryListed_build (connections : Registry) (u : UserId) :
    entryListed (buildDeviceListForUser connections u) = listedFor u connections := by
  funext k
  rw [listedFor, ← Table.get?_filter, entryListed, buildDeviceListForUser, List.find?_map]
  rfl

def listOf : Message → Option (List DeviceEntry)
  | .connectedDevices devices => some devices
  | _ => none

/-- A user whom the lists are sent to; the id 0 counts as none. -/
def listener (c : String) (connections : Registry) : Option UserId :=
  ((connections.get? c).filter (fun m => m.role = .user)).bind (fun m => m.userId.filter (· ≠ 0))

def NoLists (sends : List Send) : Prop := ∀ send ∈ sends, listOf send.message = none

/-- No connection changes hands. Either all lists are sent again, or no list is
sent and the registry shows the same but for silent connections. -/
structure ListTold (silent : Set String) (before after : Registry) (sends : List Send) :
    Prop where
  same : ∀ c m, before.get? c = some m → ∀ m', after.get? c = some m' →
    m'.role = m.role ∧ m'.userId = m.userId
  told : sends = broadcastConnectedDevices after ∨
    NoLists sends ∧ ∀ k, k ∉ silent → ∀ u, listedFor u after k = listedFor u before k

section Told
variable {silent : Set String} {before after : Registry} {sends : List Send}

theorem told_same (connections : Registry) (hs : NoLists sends) :
    ListTold silent connections connections sends where
  same := by
    intro c m hm m' hm'
    rw [hm, Option.some.injEq] at hm'
    rw [← hm']
    exact ⟨rfl,rfl⟩
  told := Or.inr ⟨hs,fun _ _ _ => rfl⟩

theorem noLists_nil : NoLists [] := by simp [NoLists]

end Told

section Views
variable (now : Instant) (db : Database)

theorem notices_noLists {ls : List Lease} {notice : Lease → Send}
    (h : ∀ l, listOf (notice l).message = none) :
    NoLists (ls.flatMap (fun l => [notice l,pushLeaseUpdate l]) ++ [pushPoolUpdate db]) := by
  intro send hs
  rcases List.mem_append.mp hs with hs | hs
  · obtain ⟨l, -, hl⟩ := List.mem_flatMap.mp hs
    rcases List.mem_pair.mp hl with rfl | rfl
    · exact h l
    · rfl
  · rw [List.mem_singleton.mp hs]
    rfl

theorem rentLease_noLists (user : User) (req : RentRequest) (draw : ℕ → Uuid × String) :
    NoLists (rentLease user req now draw db).sends := by
  unfold rentLease
  split
  · exact noLists_nil
  · split
    · exact noLists_nil
    · dsimp only
      split
      · exact noLists_nil
      · split
        · exact noLists_nil
        · rw [remember_sends]
          exact notices_noLists _ fun _ => rfl

theorem releaseLease_noLists (user : User) (req : ReleaseRequest) :
    NoLists (releaseLease user req now db).sends := by
  unfold releaseLease
  split
  · exact noLists_nil
  · split
    · exact noLists_nil
    · split
      · exact noLists_nil
      · split
        · exact noLists_nil
        · rw [remember_sends]
          exact notices_noLists _ fun _ => rfl

theorem adminSetNodeState_noLists (d : String) (state : Option String) :
    NoLists (adminSetNodeState d state db).sends := by
  unfold adminSetNodeState
  split
  · exact noLists_nil
  · split
    · exact noLists_nil
    · simp [NoLists, pushPoolUpdate, listOf]

theorem adminForceReleaseLease_noLists (id : Uuid) :
    NoLists (adminForceReleaseLease id now db).sends := by
  unfold adminForceReleaseLease
  split
  · exact noLists_nil
  · split
    · exact noLists_nil
    · simp [NoLists, leaseRelease, pushLeaseUpdate, pushPoolUpdate, listOf]

theorem adminForceReleaseNode_noLists (d : String) :
    NoLists (adminForceReleaseNode d now db).sends := by
  unfold adminForceReleaseNode
  split
  · exact noLists_nil
  · split
    · exact noLists_nil
    · exact notices_noLists _ fun _ => rfl

theorem adminRebootNode_noLists (d : String) : NoLists (adminRebootNode d db).sends := by
  unfold adminRebootNode
  split
  · exact noLists_nil
  · simp [NoLists, listOf]

theorem adminDeleteNode_noLists (d : String) : NoLists (adminDeleteNode d db).sends := by
  unfold adminDeleteNode
  split
  · exact noLists_nil
  · dsimp only
    split
    · exact noLists_nil
    · simp [NoLists, pushPoolUpdate, listOf]

theorem adminUpdateNode_noLists (d : String) (patch : NodePatch) :
    NoLists (adminUpdateNode d patch db).sends := by
  unfold adminUpdateNode
  split
  · exact noLists_nil
  · split
    · exact noLists_nil
    · simp [NoLists, pushPoolUpdate, listOf]

theorem admin_noLists {user : User} {view : ViewResult} (h : NoLists view.sends) :
    NoLists (adminOnly user db view).sends := by
  rcases adminOnly_cases user db view with ⟨-, hv⟩ | ⟨-, -, hv⟩
  · rwa [hv]
  · rw [hv]
    exact noLists_nil

variable {now db}

theorem markOffline_noLists {d reason : String} {db' : Database} {sends : List Send}
    (h : markNodeOfflineAndEndLeases d reason now db = some (db',sends)) : NoLists sends := by
  unfold markNodeOfflineAndEndLeases at h
  split at h
  · simp only [Option.some.injEq, Prod.mk.injEq] at h
    rw [← h.2]
    exact noLists_nil
  · simp only [Option.bind_eq_bind, Option.bind_eq_some_iff, Option.pure_def, Option.some.injEq,
      Prod.mk.injEq, Prod.exists] at h
    obtain ⟨ended, db'', -, rfl, rfl⟩ := h
    intro send hs
    simp only [List.mem_append, List.mem_map, List.mem_singleton] at hs
    rcases hs with ⟨l, -, rfl⟩ | rfl <;> rfl

theorem takeDown_noLists (nodes : List Node) (db : Database) :
    NoLists (takeDown now nodes db).2 := by
  induction nodes generalizing db with
  | nil => exact noLists_nil
  | cons n nodes ih =>
    unfold takeDown
    split
    · exact noLists_nil
    · rename_i db' sends h
      intro send hs
      rcases List.mem_append.mp hs with hs | hs
      · exact markOffline_noLists h send hs
      · exact ih db' send hs

theorem handleLeaseReady_noLists {m : ConnectionMeta} {ref : LeaseRef} {claimed : Option String}
    {s : Server} {r : StepResult} (h : handleLeaseReady m ref claimed now s = some r) :
    NoLists r.sends ∧ r.server.connections = s.connections := by
  unfold handleLeaseReady at h
  split at h
  · cases h
    exact ⟨noLists_nil,rfl⟩
  · cases h
    exact ⟨noLists_nil,rfl⟩
  · cases h
  · dsimp only at h
    split at h
    · cases h
      exact ⟨noLists_nil,rfl⟩
    · cases h
      exact ⟨by simp [NoLists, pushLeaseUpdate, pushPoolUpdate, listOf],rfl⟩

theorem handleRequestRemoteControlLease_noLists {m : ConnectionMeta} {ref : LeaseRef}
    {settings : Fields} {s : Server} {r : StepResult}
    (h : handleRequestRemoteControlLease m ref settings s = some r) :
    NoLists r.sends ∧ r.server.connections = s.connections := by
  unfold handleRequestRemoteControlLease at h
  split at h
  · cases h
    exact ⟨by simp [NoLists, errorMessage, listOf],rfl⟩
  · cases h
  · split at h
    · cases h
      exact ⟨by simp [NoLists, errorMessage, listOf],rfl⟩
    · split at h
      · cases h
        exact ⟨by simp [NoLists, errorMessage, listOf],rfl⟩
      · split at h
        · cases h
          exact ⟨by simp [NoLists, pushLeaseUpdate, forwardRequest, listOf],rfl⟩
        · cases h
          exact ⟨by simp [NoLists, forwardRequest, listOf],rfl⟩

end Views

section Sockets
variable {s : Server}

theorem listedFor_congr {before after : Registry} {k : String}
    (h : after.get? k = before.get? k) (u : UserId) :
    listedFor u after k = listedFor u before k := by
  rw [listedFor, h, listedFor]

/-- Connections of devices are on nobody's list. -/
theorem listedFor_device {connections : Registry} {k : String} {m : ConnectionMeta}
    (hm : connections.get? k = some m) (hr : m.role = .device) (u : UserId) :
    listedFor u connections k = none := by
  simp [listedFor, hm, hr]

theorem insert_told {m : ConnectionMeta} {after : Registry} {sends : List Send}
    (h : s.connections.insert? m = some after) (hs : NoLists sends) :
    ListTold {m.connectionId} s.connections after sends := by
  obtain ⟨hnew, rfl⟩ := Table.insert?_eq_some.mp h
  constructor
  · intro c q hq q' hq'
    rw [Table.get?_insert] at hq'
    split at hq'
    · rename_i hc
      rw [hc, hnew] at hq
      cases hq
    · rw [hq, Option.some.injEq] at hq'
      rw [← hq']
      exact ⟨rfl,rfl⟩
  · refine Or.inr ⟨hs,fun k hk u => listedFor_congr ?_ u⟩
    rw [Table.get?_insert]
    exact if_neg hk

/-- What a connection says of itself does not change hands. -/
theorem handleMessage_same {m : ConnectionMeta} {msg : ClientMessage} {now : Instant}
    {r : StepResult} (h : handleMessage m msg now s = some r) (c : String) (q : ConnectionMeta)
    (hq : s.connections.get? c = some q) (q' : ConnectionMeta)
    (hq' : r.server.connections.get? c = some q') : q'.role = q.role ∧ q'.userId = q.userId := by
  rcases handleMessage_connections h with hc | ⟨f, hf, hc, hkeep⟩
  · rw [hc, hq, Option.some.injEq] at hq'
    rw [← hq']
    exact ⟨rfl,rfl⟩
  · rw [hc, Table.get?_modify] at hq'
    split at hq'
    · rename_i hk
      rw [← hk, hq, Option.map_some, Option.some.injEq] at hq'
      rw [← hq']
      exact ⟨(hkeep q).1,(hkeep q).2.2⟩
    · rw [hq, Option.some.injEq] at hq'
      rw [← hq']
      exact ⟨rfl,rfl⟩

theorem listedFor_update {m : ConnectionMeta} (hm : s.connections.get? m.connectionId = some m)
    (hr : m.role = .device) (f : ConnectionMeta → ConnectionMeta)
    (hf : ∀ q, (f q).connectionId = q.connectionId) (hrole : (f m).role = m.role) (k : String)
    (u : UserId) :
    listedFor u (s.connections.modify m.connectionId f hf) k = listedFor u s.connections k := by
  by_cases hk : k = m.connectionId
  · subst hk
    have hnow : (s.connections.modify m.connectionId f hf).get? m.connectionId = some (f m) := by
      rw [Table.get?_modify_self, hm, Option.map_some]
    rw [listedFor_device hnow (hrole.trans hr), listedFor_device hm hr]
  · exact listedFor_congr (Table.get?_modify_ne _ _ _ hk) u

theorem handleMessage_told {m : ConnectionMeta} {msg : ClientMessage} {now : Instant}
    {r : StepResult} (hm : s.connections.get? m.connectionId = some m)
    (h : handleMessage m msg now s = some r) :
    ListTold ∅ s.connections r.server.connections r.sends := by
  refine ⟨handleMessage_same h,?_⟩
  have quiet : NoLists r.sends → r.server.connections = s.connections →
      NoLists r.sends ∧ ∀ k, k ∉ (∅ : Set String) → ∀ u,
        listedFor u r.server.connections k = listedFor u s.connections k :=
    fun hs hc => ⟨hs,fun k _ u => by rw [hc]⟩
  unfold handleMessage at h
  split at h
  · cases h
    exact Or.inr (quiet (by simp [NoLists, listOf]) rfl)
  · cases h
    unfold handleUpdateDeviceInfo
    dsimp only
    split
    · rename_i hr hd
      refine Or.inr ⟨noLists_nil,fun k _ u => ?_⟩
      dsimp only
      apply listedFor_update hm hr
      rfl
    · exact Or.inl rfl
  · cases h
    exact Or.inr (quiet (by simp [NoLists, pushPoolUpdate, listOf]) rfl)
  · cases h
    exact Or.inr (quiet noLists_nil rfl)
  · exact Or.inr (quiet (handleLeaseReady_noLists h).1 (handleLeaseReady_noLists h).2)
  · exact Or.inr (quiet (handleRequestRemoteControlLease_noLists h).1
      (handleRequestRemoteControlLease_noLists h).2)
  · cases h
    refine Or.inr (quiet (fun send hs => ?_) rfl)
    rw [relay_sends send hs]
    rfl
  · cases h
    refine Or.inr (quiet (fun send hs => ?_) rfl)
    rw [relay_sends send hs]
    rfl
  · cases h
    exact Or.inr (quiet noLists_nil rfl)

theorem filter_same {connections : Registry} {p : ConnectionMeta → Bool} (c : String)
    (q : ConnectionMeta) (hq : connections.get? c = some q) (q' : ConnectionMeta)
    (hq' : (connections.filter p).get? c = some q') :
    q'.role = q.role ∧ q'.userId = q.userId := by
  rw [Table.get?_filter, hq, Option.filter_eq_some_iff, Option.some.injEq] at hq'
  rw [hq'.1]
  exact ⟨rfl,rfl⟩

theorem disconnect_told (c : String) (now : Instant) (s : Server) :
    ListTold ∅ s.connections (disconnect c now s).server.connections
      (disconnect c now s).sends := by
  unfold disconnect
  split
  · exact told_same _ noLists_nil
  · rename_i m hm
    dsimp only
    split
    · rename_i d hr hd
      have hgone : ∀ k u, listedFor u (s.connections.filter (fun q => q.connectionId ≠ c)) k =
          listedFor u s.connections k := by
        intro k u
        by_cases hk : k = c
        · subst hk
          rw [listedFor_device hm hr, listedFor, Table.get?_filter, hm]
          have hid : m.connectionId = k := Table.get?_key hm
          simp [hid]
        · refine listedFor_congr ?_ u
          rw [Table.get?_filter]
          cases hq : s.connections.get? k with
          | none => rfl
          | some q =>
            have hid : q.connectionId = k := Table.get?_key hq
            simp [Option.filter, hid, hk]
      split
      · exact ⟨filter_same,Or.inr ⟨noLists_nil,fun k _ u => hgone k u⟩⟩
      · rename_i db sends h
        exact ⟨filter_same,Or.inr ⟨markOffline_noLists h,fun k _ u => hgone k u⟩⟩
    · exact ⟨filter_same,Or.inl rfl⟩

end Sockets

/-- The connections whose entries an event may change without new lists. -/
def silentConnections : Event → Set String
  | .connect _ c _ => {c}
  | _ => ∅

theorem connect_told (auth : WsAuth) (c : String) (now : Instant) (s : Server) :
    ListTold {c} s.connections (connect auth c now s).server.connections
      (connect auth c now s).sends := by
  unfold connect
  split
  · split
    · exact told_same _ noLists_nil
    · rename_i u _ connections hi
      exact insert_told hi (by simp [NoLists, listOf])
  · split
    · exact told_same _ noLists_nil
    · rename_i d _ connections hi
      split
      · exact told_same _ noLists_nil
      · exact insert_told hi (by simp [NoLists, listOf])

theorem handle_told (e : Event) (s : Server) :
    ListTold (silentConnections e) s.connections (handle e s).server.connections
      (handle e s).sends := by
  cases e with
  | rent user req now draw => exact told_same _ (rentLease_noLists now s.db user req draw)
  | release user req now => exact told_same _ (releaseLease_noLists now s.db user req)
  | leaseList user => exact told_same _ noLists_nil
  | billingInfo user => exact told_same _ noLists_nil
  | poolNodes user region tier status => exact told_same _ noLists_nil
  | deviceToken d now =>
    refine told_same _ ?_
    simp only [handle, ofView, deviceToken]
    split <;> exact noLists_nil
  | adminNodes user => exact told_same _ (admin_noLists _ noLists_nil)
  | adminSetNodeState user d state =>
    exact told_same _ (admin_noLists _ (adminSetNodeState_noLists s.db d state))
  | adminForceReleaseLease user id now =>
    exact told_same _ (admin_noLists _ (adminForceReleaseLease_noLists now s.db id))
  | adminForceReleaseNode user d now =>
    exact told_same _ (admin_noLists _ (adminForceReleaseNode_noLists now s.db d))
  | adminRebootNode user d => exact told_same _ (admin_noLists _ (adminRebootNode_noLists s.db d))
  | adminDeleteNode user d => exact told_same _ (admin_noLists _ (adminDeleteNode_noLists s.db d))
  | adminUpdateNode user d patch =>
    exact told_same _ (admin_noLists _ (adminUpdateNode_noLists s.db d patch))
  | savePricePlan plan => exact told_same _ noLists_nil
  | connect auth c now => exact connect_told auth c now s
  | disconnect c now => exact disconnect_told c now s
  | receive c msg now =>
    simp only [handle]
    split
    · exact told_same _ noLists_nil
    · rename_i m hm
      have hid : m.connectionId = c := Table.get?_key hm
      cases h : handleMessage m msg now s with
      | none => exact told_same _ noLists_nil
      | some r => exact handleMessage_told (hid.symm ▸ hm) h
  | checkHeartbeats timeout now => exact told_same _ (takeDown_noLists _ s.db)

def listsOf (sends : List Send) : List (List DeviceEntry) :=
  sends.filterMap (fun send => listOf send.message)

/-- The lists a step sends to a connection. -/
def listsTo (c : String) (e : Event) (s : Server) : List (List DeviceEntry) :=
  listsOf ((handle e s).sends.filter (fun send => c ∈ recipients (handle e s).server send.target))

/-- A connection that may not listen before or after the step hears of no change. -/
def silentTo (c : String) (e : Event) (s : Server) : Set String :=
  {k | (listener c s.connections).isSome → (listener c (handle e s).server.connections).isSome →
    k ∈ silentConnections e}

/-- The server as the connection `c` sees it. -/
def listSource (c : String) : Source Server Event (List DeviceEntry) String DeviceEntry where
  step := ControlPlaneServer.step
  view := fun s k => (listener c s.connections).bind (fun u => listedFor u s.connections k)
  read := entryListed
  published := listsTo c
  silent := silentTo c

section Broadcast
variable {c : String} {s : Server}

theorem user_group_iff (u : UserId) : c ∈ recipients s (.group (.user u)) ↔
    ∃ m, s.connections.get? c = some m ∧ m.role = .user ∧ m.userId = some u := by
  rw [recipients, List.mem_map]
  constructor
  · rintro ⟨m, hm, rfl⟩
    obtain ⟨hrow, hp⟩ := List.mem_filter.mp hm
    simp only [Bool.and_eq_true, decide_eq_true_eq] at hp
    exact ⟨m,(Table.mem_iff_get? _ m).mp hrow,hp⟩
  · rintro ⟨m, hm, hr, hu⟩
    obtain ⟨hrow, rfl⟩ := (Table.get?_eq_some _ _ _).mp hm
    exact ⟨m,List.mem_filter.mpr ⟨hrow,by simp [hr, hu]⟩,rfl⟩

theorem listener_eq_some {u : UserId} : listener c s.connections = some u ↔
    c ∈ recipients s (.group (.user u)) ∧ u ≠ 0 := by
  have hrow : listener c s.connections = some u ↔ ∃ m, s.connections.get? c = some m ∧
      m.role = .user ∧ m.userId = some u ∧ u ≠ 0 := by
    simp [listener, Option.bind_eq_some_iff, Option.filter_eq_some_iff, and_assoc]
  rw [user_group_iff, hrow]
  constructor
  · rintro ⟨m, hm, hr, hu, hne⟩
    exact ⟨⟨m,hm,hr,hu⟩,hne⟩
  · rintro ⟨⟨m, hm, hr, hu⟩, hne⟩
    exact ⟨m,hm,hr,hu,hne⟩

theorem mem_connectedUsers {u : UserId} (h : listener c s.connections = some u) :
    u ∈ connectedUsers s.connections := by
  obtain ⟨hrec, hne⟩ := listener_eq_some.mp h
  obtain ⟨m, hm, hr, hu⟩ := (user_group_iff u).mp hrec
  rw [connectedUsers, List.mem_dedup, List.mem_filter, List.mem_filterMap]
  exact ⟨⟨m,List.mem_filter.mpr ⟨Table.get?_mem hm,by simp [hr]⟩,hu⟩,by simpa using hne⟩

/-- Of the lists sent to everybody a connection gets the one of its user. -/
theorem mem_broadcast {devices : List DeviceEntry} :
    devices ∈ listsOf ((broadcastConnectedDevices s.connections).filter
        (fun send => c ∈ recipients s send.target)) ↔
      ∃ u, listener c s.connections = some u ∧
        devices = buildDeviceListForUser s.connections u := by
  simp only [listsOf, List.mem_filterMap, List.mem_filter, broadcastConnectedDevices,
    List.mem_map, decide_eq_true_eq]
  constructor
  · rintro ⟨send, ⟨⟨u, hu, rfl⟩, hc⟩, hd⟩
    have hne : u ≠ 0 := by
      rw [connectedUsers, List.mem_dedup, List.mem_filter] at hu
      simpa using hu.2
    exact ⟨u,listener_eq_some.mpr ⟨hc,hne⟩,(Option.some.inj hd).symm⟩
  · rintro ⟨u, hu, rfl⟩
    exact ⟨_,⟨⟨u,mem_connectedUsers hu,rfl⟩,(listener_eq_some.mp hu).1⟩,rfl⟩

end Broadcast

theorem listsTo_other {c : String} {e : Event} {s : Server} (h : NoLists (handle e s).sends) :
    listsTo c e s = [] :=
  List.filterMap_eq_nil_iff.mpr fun send hs => h send (List.mem_of_mem_filter hs)

theorem listener_row {c : String} {connections : Registry} {m : ConnectionMeta}
    (h : connections.get? c = some m) :
    listener c connections = if m.role = .user then m.userId.filter (· ≠ 0) else none := by
  by_cases hr : m.role = .user <;> simp [listener, h, hr, Option.filter]

theorem listener_same {c : String} {before after : Registry}
    (h : ∀ m, before.get? c = some m → ∀ m', after.get? c = some m' →
      m'.role = m.role ∧ m'.userId = m.userId)
    (hb : (listener c before).isSome) (ha : (listener c after).isSome) :
    listener c after = listener c before := by
  cases hm : before.get? c with
  | none => simp [listener, hm] at hb
  | some m =>
    cases hm' : after.get? c with
    | none => simp [listener, hm'] at ha
    | some m' =>
      obtain ⟨hr, hu⟩ := h m hm m' hm'
      rw [listener_row hm', listener_row hm, hr, hu]

theorem listSource_honest (c : String) : (listSource c).Honest where
  last := by
    intro e s devices hd
    change (listsTo c e s).getLast? = some devices at hd
    rcases (handle_told e s).told with hb | ⟨hno, -⟩
    · have hmem : devices ∈ listsTo c e s := List.mem_of_mem_getLast? hd
      rw [listsTo, hb, mem_broadcast] at hmem
      obtain ⟨u, hu, rfl⟩ := hmem
      funext k
      change entryListed _ k = (listener c (handle e s).server.connections).bind _
      rw [hu, Option.bind_some, entryListed_build]
      rfl
    · rw [listsTo_other hno] at hd
      cases hd
  silent := by
    intro e s hnone k hk
    change listsTo c e s = [] at hnone
    have hboth : (listener c s.connections).isSome ∧
        (listener c (handle e s).server.connections).isSome ∧ k ∉ silentConnections e := by
      by_contra h
      exact hk fun hb ha => by_contra fun hs => h ⟨hb,ha,hs⟩
    obtain ⟨hb, ha, hs⟩ := hboth
    change (listener c (handle e s).server.connections).bind _ = _
    rcases (handle_told e s).told with hbc | ⟨-, hsame⟩
    · obtain ⟨u, hu⟩ := Option.isSome_iff_exists.mp ha
      have hmem : buildDeviceListForUser (handle e s).server.connections u ∈ listsTo c e s := by
        rw [listsTo, hbc, mem_broadcast]
        exact ⟨u,hu,rfl⟩
      rw [hnone] at hmem
      cases hmem
    · rw [listener_same ((handle_told e s).same c) hb ha]
      change _ = (listener c s.connections).bind _
      exact congrArg (Option.bind _) (funext fun u => hsame k hs u)

/-- Since a list was sent a user is shown a connection as the registry has it,
unless the connection was opened after that. -/
theorem devices_listed {c k : String} {s : Server} {before after : List (Action Event)} {e : Event}
    (htold : listsTo c e (run (step (listSource c)) before (start s)).source ≠ [])
    (hsaid : Meets (step (listSource c)) (Said (listSource c) k) after
      (run (step (listSource c)) (before ++ [Action.act e]) (start s)))
    (hidle : (run (step (listSource c)) (before ++ Action.act e::after) (start s)).inbox = []) :
    ∃ devices,
      (run (step (listSource c)) (before ++ Action.act e::after) (start s)).shown = some devices ∧
      entryListed devices k =
        (listener c (run (step (listSource c)) (before ++ Action.act e::after)
          (start s)).source.connections).bind (fun u => listedFor u
            (run (step (listSource c)) (before ++ Action.act e::after)
              (start s)).source.connections k) :=
  shows_since (listSource_honest c) htold hsaid hidle

/-- Two users connect. -/
def visitors : List (Action Event) :=
  [.act (.connect (.user { id := 1, username := "ann" }) "w" 5),
    .act (.connect (.user { id := 2, username := "bob" }) "v" 6)]

/-- One of them offers his device. -/
def introduction : Event := .receive "v" (.updateDeviceInfo "tower" "Windows" true 1) 7

theorem introduced_listed :
    ∃ devices,
      (run (step (listSource "w")) (visitors ++ Action.act introduction::[Action.deliver])
        (start (initial 0))).shown = some devices ∧
      entryListed devices "v" =
        (listener "w" (run (step (listSource "w"))
          (visitors ++ Action.act introduction::[Action.deliver])
          (start (initial 0))).source.connections).bind (fun u => listedFor u
            (run (step (listSource "w")) (visitors ++ Action.act introduction::[Action.deliver])
              (start (initial 0))).source.connections "v") := by
  refine devices_listed ?_ ⟨trivial,trivial⟩ ?_
  · exact List.cons_ne_nil _ _
  · rfl

end CloudPlay.DeviceLists
