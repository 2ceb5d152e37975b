import CloudPlay.LeaseAnnouncements
import CloudPlay.NodeNotices
import CloudPlay.PublishedView

/-!
# The pool a user is shown

`push_pool_update` sends all nodes to every user, and the client replaces its
pool by what it is sent. Most requests that change a node push the pool they
leave behind. The connection of a device, the registration of a new one and
a release that stops at an unknown lease change nodes without a push. The
time at which a node was last seen goes on without pushes and is left out, and
so are edits of nodes on the admin site, which push nothing, and the pools that
`refreshPool` asks for.
-/

set_option autoImplicit false

namespace CloudPlay.PoolView
open KeyedTable ControlPlaneModels ControlPlaneSerializers ControlPlaneDatabase LeaseLifecycle
open ControlPlaneViews ControlPlaneConsumer ControlPlaneServer ControlPlaneEffects LeaseEnding
open LeaseAnnouncements NodeNotices TransitionRun PublishedView

def timeless (n : NodeData) : NodeData := { n with lastSeen := 0 }

/-- The row of a device, as the pool shows it. -/
def rowShown (db : Database) (d : String) : Option NodeData :=
  (db.nodes.get? d).map (fun n => timeless (serializeNode n))

/-- The entry of a device in a pool update. -/
def entryShown (nodes : List NodeData) (d : String) : Option NodeData :=
  (nodes.find? (fun n => n.deviceId = d)).map timeless

def poolOf : Message → Option (List NodeData)
  | .poolUpdate nodes => some nodes
  | _ => none

def pools (sends : List Send) : List (List NodeData) :=
  sends.filterMap (fun send => poolOf send.message)

/-- Pools go to all users, and the last one is that of `db'`. When none is sent,
the tables differ in silent nodes only. -/
structure PoolTold (silent : Set String) (db db' : Database) (sends : List Send) : Prop where
  users : ∀ send ∈ sends, poolOf send.message ≠ none → send.target = .group .users
  last : ∀ nodes, (pools sends).getLast? = some nodes → entryShown nodes = rowShown db'
  silent : pools sends = [] → ∀ d, d ∉ silent → rowShown db' d = rowShown db d

section Updates
variable {db db' : Database}

theorem orderByDeviceId_get? (db : Database) (d : String) :
    (orderByDeviceId db.nodes.rows).find? (fun n => n.deviceId = d) = db.nodes.get? d := by
  have hperm : (orderByDeviceId db.nodes.rows).Perm db.nodes.rows := List.perm_insertionSort _ _
  have hnodup : ((orderByDeviceId db.nodes.rows).map Node.deviceId).Nodup :=
    ((hperm.map Node.deviceId).nodup_iff).mpr db.nodes.nodup
  let sorted : Table Node.deviceId := ⟨orderByDeviceId db.nodes.rows,hnodup⟩
  change sorted.get? d = db.nodes.get? d
  apply Option.ext
  intro n
  rw [Table.get?_eq_some, Table.get?_eq_some, Table.mem_rows, Table.mem_rows]
  exact and_congr_left fun _ => hperm.mem_iff

/-- A pool update shows every row. -/
theorem entryShown_push (db : Database) :
    entryShown ((orderByDeviceId db.nodes.rows).map serializeNode) = rowShown db := by
  funext d
  rw [rowShown, ← orderByDeviceId_get?, entryShown, List.find?_map, Option.map_map]
  rfl

theorem rowShown_congr (h : db'.nodes = db.nodes) : rowShown db' = rowShown db := by
  unfold rowShown
  rw [h]

theorem rowShown_updateNode (db : Database) (d d' : String) (f : Node → Node)
    (hf : ∀ n, (f n).deviceId = n.deviceId)
    (h : d' = d → ∀ n ∈ db.nodes.get? d, timeless (serializeNode (f n)) =
      timeless (serializeNode n)) :
    rowShown (db.updateNode d f hf) d' = rowShown db d' := by
  rw [rowShown, Database.updateNode_nodes, Table.get?_modify]
  by_cases hd : d' = d
  · subst hd
    rw [if_pos rfl, rowShown]
    cases hn : db.nodes.get? d' with
    | none => rfl
    | some n => simp [h rfl n hn]
  · rw [if_neg hd, rowShown]

theorem rowShown_setReleasing {db : Database} {d d' : String} (h : d' ≠ d) :
    rowShown (setReleasing db d) d' = rowShown db d' := by
  rcases setReleasing_cases db d with hs | ⟨n, -, -, hs⟩ <;> rw [hs]
  exact rowShown_updateNode db d d' _ _ (fun hd => absurd hd h)

theorem rowShown_getOrCreateNode {db : Database} {d d' : String} {now : Instant} (h : d' ≠ d) :
    rowShown (db.getOrCreateNode d now) d' = rowShown db d' := by
  cases hn : db.nodes.get? d with
  | some n => rw [Database.getOrCreateNode_known db d now (by simp [hn])]
  | none =>
    rw [Database.getOrCreateNode_new db d now hn, rowShown, Table.get?_insert, if_neg h, rowShown]

end Updates

section Told
variable {silent : Set String} {db db' db'' : Database} {sends rest : List Send}

theorem pools_append (sends rest : List Send) :
    pools (sends ++ rest) = pools sends ++ pools rest := List.filterMap_append

theorem pools_other (h : ∀ send ∈ sends, poolOf send.message = none) : pools sends = [] :=
  List.filterMap_eq_nil_iff.mpr h

theorem pools_push (db : Database) : pools [pushPoolUpdate db] =
    [(orderByDeviceId db.nodes.rows).map serializeNode] := rfl

/-- Nothing is said and silent nodes alone differ. -/
theorem told_quiet (h : ∀ d, d ∉ silent → rowShown db' d = rowShown db d)
    (hs : ∀ send ∈ sends, poolOf send.message = none) : PoolTold silent db db' sends where
  users := fun send hm hne => absurd (hs send hm) hne
  last := by
    intro nodes hn
    rw [pools_other hs] at hn
    cases hn
  silent := fun _ => h

theorem told_same (h : db'.nodes = db.nodes)
    (hs : ∀ send ∈ sends, poolOf send.message = none) : PoolTold silent db db' sends :=
  told_quiet (fun d _ => congrFun (rowShown_congr h) d) hs

theorem told_nothing (silent : Set String) (db : Database) : PoolTold silent db db [] :=
  told_same rfl (by simp)

/-- The pool is pushed at the end. -/
theorem told_push (sends : List Send) (hs : ∀ send ∈ sends, poolOf send.message = none)
    (h : db''.nodes = db'.nodes) :
    PoolTold silent db db'' (sends ++ [pushPoolUpdate db']) where
  users := by
    intro send hm hne
    rcases List.mem_append.mp hm with hm | hm
    · exact absurd (hs send hm) hne
    · rw [List.mem_singleton.mp hm]
      rfl
  last := by
    intro nodes hn
    rw [pools_append, pools_push, List.getLast?_concat, Option.some.injEq] at hn
    rw [← hn, entryShown_push, rowShown_congr h]
  silent := by
    intro hnone
    rw [pools_append, pools_push] at hnone
    simp at hnone

theorem PoolTold.append (h : PoolTold silent db db' sends) (h' : PoolTold ∅ db' db'' rest) :
    PoolTold silent db db'' (sends ++ rest) := by
  have husers : ∀ send ∈ sends ++ rest, poolOf send.message ≠ none →
      send.target = .group .users := by
    intro send hm
    rcases List.mem_append.mp hm with hm | hm
    · exact h.users send hm
    · exact h'.users send hm
  cases hr : (pools rest).getLast? with
  | some nodes =>
    refine ⟨husers,fun last hl => ?_,fun hnone => ?_⟩
    · rw [pools_append, List.getLast?_append, hr, Option.some_or, Option.some.injEq] at hl
      exact hl ▸ h'.last nodes hr
    · rw [pools_append, List.append_eq_nil_iff] at hnone
      simp [hnone.2] at hr
  | none =>
    have hrest : pools rest = [] := List.getLast?_eq_none_iff.mp hr
    have hsame : rowShown db'' = rowShown db' :=
      funext fun d => h'.silent hrest d (Set.notMem_empty d)
    refine ⟨husers,fun last hl => ?_,fun hnone d hd => ?_⟩
    · rw [pools_append, hrest, List.append_nil] at hl
      rw [hsame, h.last last hl]
    · rw [pools_append, hrest, List.append_nil] at hnone
      rw [hsame, h.silent hnone d hd]

end Told

section Handlers
variable {db : Database}

theorem notices_other {ls : List Lease} {notice : Lease → Send}
    (h : ∀ l, poolOf (notice l).message = none) :
    ∀ send ∈ ls.flatMap (fun l => [notice l,pushLeaseUpdate l]), poolOf send.message = none := by
  intro send hs
  obtain ⟨l, -, hl⟩ := List.mem_flatMap.mp hs
  rcases List.mem_pair.mp hl with rfl | rfl
  · exact h l
  · rfl

theorem rentLease_told (user : User) (req : RentRequest) (now : Instant)
    (draw : ℕ → Uuid × String) :
    PoolTold ∅ db (rentLease user req now draw db).db
      (rentLease user req now draw db).sends := by
  unfold rentLease
  split
  · exact told_nothing _ _
  · split
    · exact told_nothing _ _
    · dsimp only
      split
      · exact told_nothing _ _
      · split
        · exact told_nothing _ _
        · rename_i db' ls h
          rw [remember_sends]
          exact told_push _ (notices_other fun _ => rfl) (remember_rows db' _ _ _ _ _).nodes

theorem markOffline_told {d reason : String} {now : Instant} {db' : Database}
    {sends : List Send} (h : markNodeOfflineAndEndLeases d reason now db = some (db',sends)) :
    PoolTold ∅ db db' sends := by
  unfold markNodeOfflineAndEndLeases at h
  split at h
  · simp only [Option.some.injEq, Prod.mk.injEq] at h
    obtain ⟨rfl, rfl⟩ := h
    exact told_nothing _ _
  · simp only [Option.bind_eq_bind, Option.bind_eq_some_iff, Option.pure_def, Option.some.injEq,
      Prod.mk.injEq, Prod.exists] at h
    obtain ⟨ended, db'', -, rfl, rfl⟩ := h
    refine told_push _ (fun send hs => ?_) rfl
    obtain ⟨l, -, rfl⟩ := List.mem_map.mp hs
    rfl

theorem takeDown_told (now : Instant) (nodes : List Node) (db : Database) :
    PoolTold ∅ db (takeDown now nodes db).1 (takeDown now nodes db).2 := by
  induction nodes generalizing db with
  | nil => exact told_nothing _ _
  | cons n nodes ih =>
    unfold takeDown
    split
    · exact told_nothing _ _
    · rename_i db' sends h
      exact (markOffline_told h).append (ih db')

theorem adminSetNodeState_told (d : String) (state : Option String) :
    PoolTold ∅ db (adminSetNodeState d state db).db (adminSetNodeState d state db).sends := by
  unfold adminSetNodeState
  split
  · exact told_nothing _ _
  · split
    · exact told_nothing _ _
    · exact told_push [] (by simp) rfl

theorem adminForceReleaseLease_told (id : Uuid) (now : Instant) :
    PoolTold ∅ db (adminForceReleaseLease id now db).db
      (adminForceReleaseLease id now db).sends := by
  unfold adminForceReleaseLease
  split
  · exact told_nothing _ _
  · split
    · exact told_nothing _ _
    · exact told_push [_,_] (by simp [leaseRelease, pushLeaseUpdate, poolOf]) rfl

theorem adminForceReleaseNode_told (d : String) (now : Instant) :
    PoolTold ∅ db (adminForceReleaseNode d now db).db
      (adminForceReleaseNode d now db).sends := by
  unfold adminForceReleaseNode
  split
  · exact told_nothing _ _
  · split
    · exact told_nothing _ _
    · exact told_push _ (notices_other fun _ => rfl) rfl

theorem adminDeleteNode_told (d : String) :
    PoolTold ∅ db (adminDeleteNode d db).db (adminDeleteNode d db).sends := by
  unfold adminDeleteNode
  split
  · exact told_nothing _ _
  · dsimp only
    split
    · exact told_nothing _ _
    · exact told_push [] (by simp) rfl

theorem adminUpdateNode_told (d : String) (patch : NodePatch) :
    PoolTold ∅ db (adminUpdateNode d patch db).db (adminUpdateNode d patch db).sends := by
  unfold adminUpdateNode
  split
  · exact told_nothing _ _
  · split
    · exact told_nothing _ _
    · exact told_push [] (by simp) rfl

theorem handleLeaseReady_told {m : ConnectionMeta} {ref : LeaseRef} {claimed : Option String}
    {now : Instant} {s : Server} {r : StepResult}
    (h : handleLeaseReady m ref claimed now s = some r) :
    PoolTold ∅ s.db r.server.db r.sends := by
  unfold handleLeaseReady at h
  split at h
  · cases h
    exact told_nothing _ _
  · cases h
    exact told_nothing _ _
  · cases h
  · rename_i id d hd
    rcases markLeaseReady_cases id d now s.db with hm | ⟨l, -, hm | hm⟩ <;> rw [hm] at h <;>
      cases h
    · exact told_nothing _ _
    · exact told_push [_] (by simp [pushLeaseUpdate, poolOf]) rfl
    · exact told_push [_] (by simp [pushLeaseUpdate, poolOf]) rfl

theorem handleRequestRemoteControlLease_told {m : ConnectionMeta} {ref : LeaseRef}
    {settings : Fields} {s : Server} {r : StepResult}
    (h : handleRequestRemoteControlLease m ref settings s = some r) :
    PoolTold ∅ s.db r.server.db r.sends := by
  unfold handleRequestRemoteControlLease at h
  split at h
  · cases h
    exact told_same rfl (by simp [errorMessage, poolOf])
  · cases h
  · split at h
    · cases h
      exact told_same rfl (by simp [errorMessage, poolOf])
    · split at h
      · cases h
        exact told_same rfl (by simp [errorMessage, poolOf])
      · split at h
        · cases h
          exact told_same rfl (by simp [pushLeaseUpdate, forwardRequest, poolOf])
        · cases h
          exact told_same rfl (by simp [forwardRequest, poolOf])

/-- The time of last sight is all that a sign of life changes. -/
theorem nodeTouchLastSeen_told (d : String) (now : Instant) (db : Database) :
    PoolTold ∅ db (nodeTouchLastSeen d now db) [] := by
  refine told_quiet (fun d' _ => ?_) (by simp)
  exact rowShown_updateNode db d d' (fun n => { n with lastSeen := now }) (fun _ => rfl)
    (fun _ _ _ => rfl)

theorem broadcast_told (connections : Table ConnectionMeta.connectionId) (db : Database) :
    PoolTold ∅ db db (broadcastConnectedDevices connections) := by
  refine told_same rfl fun send hs => ?_
  obtain ⟨uid, -, rfl⟩ := List.mem_map.mp hs
  rfl

theorem handleMessage_told {m : ConnectionMeta} {msg : ClientMessage} {now : Instant}
    {s : Server} {r : StepResult} (h : handleMessage m msg now s = some r) :
    PoolTold ∅ s.db r.server.db r.sends := by
  unfold handleMessage at h
  split at h
  · cases h
    exact told_same rfl (by simp [poolOf])
  · cases h
    unfold handleUpdateDeviceInfo
    dsimp only
    split
    · exact nodeTouchLastSeen_told _ now s.db
    · exact broadcast_told _ s.db
  · cases h
    exact told_push [] (by simp) rfl
  · cases h
    exact nodeTouchLastSeen_told _ now s.db
  · exact handleLeaseReady_told h
  · exact handleRequestRemoteControlLease_told h
  · cases h
    refine told_same rfl fun send hs => ?_
    rw [relay_sends send hs]
    rfl
  · cases h
    refine told_same rfl fun send hs => ?_
    rw [relay_sends send hs]
    rfl
  · cases h
    exact told_nothing _ _

theorem disconnect_told (c : String) (now : Instant) (s : Server) :
    PoolTold ∅ s.db (disconnect c now s).server.db (disconnect c now s).sends := by
  unfold disconnect
  split
  · exact told_nothing _ _
  · dsimp only
    split
    · split
      · exact told_nothing _ _
      · rename_i db sends h
        exact markOffline_told h
    · exact broadcast_told _ s.db

theorem admin_told {user : User} {view : ViewResult}
    (h : PoolTold ∅ db view.db view.sends) :
    PoolTold ∅ db (adminOnly user db view).db (adminOnly user db view).sends := by
  rcases adminOnly_cases user db view with ⟨-, hv⟩ | ⟨-, hdb, hsends⟩
  · rwa [hv]
  · rw [hdb, hsends]
    exact told_nothing _ _

end Handlers

/-- The nodes of the leases that a release names. -/
def namedNodes (db : Database) (user : UserId) (refs : List LeaseRef) : Set String :=
  {d | ∃ id, LeaseRef.uuid id ∈ refs ∧ ∃ l ∈ leaseOfUser db user id, l.deviceId = d}

section Quiet
variable {db : Database}

/-- A round of the release loop leaves the devices of named leases as they are. -/
theorem namedNodes_round {user : UserId} {t : Instant} {refs : List LeaseRef} {l l' : Lease}
    {db₁ : Database} (hl : l ∈ db.leases)
    (he : endLease EndReason.userRelease.value t l db = some (l',db₁)) :
    namedNodes (setReleasing db₁ l.deviceId) user refs ⊆ namedNodes db user refs := by
  rintro d ⟨id, hid, q', hq', hd⟩
  obtain ⟨hget, hqu⟩ := leaseOfUser_eq_some.mp hq'
  rw [setReleasing_leases, (endLease_ends hl he).1.get?, Option.map_eq_some_iff] at hget
  obtain ⟨q, hq, rfl⟩ := hget
  refine ⟨id,hid,q,leaseOfUser_eq_some.mpr ⟨hq,?_⟩,?_⟩
  · rw [← hqu, finishIn]
    split <;> simp
  · rw [← hd, finishIn]
    split <;> simp

theorem releaseLeases_others {user : UserId} {t : Instant} {refs : List LeaseRef}
    {out : ReleaseOutcome} (h : releaseLeases user t refs db = some out) {d : String}
    (hd : d ∉ namedNodes db user refs) : rowShown out.db d = rowShown db d := by
  induction refs generalizing db out with
  | nil =>
    simp only [releaseLeases, Option.some.injEq] at h
    rw [← h]
  | cons ref refs ih =>
    cases ref with
    | absent => simp [releaseLeases] at h
    | malformed => simp [releaseLeases] at h
    | uuid id =>
      simp only [releaseLeases] at h
      cases hl : leaseOfUser db user id with
      | none =>
        simp only [hl, Option.some.injEq] at h
        rw [← h]
      | some l =>
        simp only [hl, Option.bind_eq_bind, Option.bind_eq_some_iff, Option.pure_def,
          Option.some.injEq, Prod.exists] at h
        obtain ⟨l', db₁, he, out', hrest, rfl⟩ := h
        have hrow := Table.get?_mem (leaseOfUser_eq_some.mp hl).1
        have hother : d ≠ l.deviceId := by
          rintro rfl
          exact hd ⟨id,List.mem_cons_self,l,hl,rfl⟩
        have hrest' : d ∉ namedNodes (setReleasing db₁ l.deviceId) user refs := by
          intro hmem
          obtain ⟨i, hi, hq⟩ := namedNodes_round hrow he hmem
          exact hd ⟨i,List.mem_cons_of_mem _ hi,hq⟩
        calc rowShown out'.db d
            = rowShown (setReleasing db₁ l.deviceId) d := ih hrest hrest'
          _ = rowShown db₁ d := rowShown_setReleasing hother
          _ = rowShown db d := congrFun (rowShown_congr (endLease_ends hrow he).1.nodes) d

theorem releaseLease_told (user : User)
    (req : ReleaseRequest) (now : Instant) :
    PoolTold (namedNodes db user.id req.leaseIds) db (releaseLease user req now db).db
      (releaseLease user req now db).sends := by
  unfold releaseLease
  split
  · exact told_nothing _ _
  · split
    · exact told_nothing _ _
    · split
      · exact told_nothing _ _
      · rename_i out h
        split
        · exact told_quiet (fun d hd => releaseLeases_others h hd) (by simp [answer])
        · rw [remember_sends]
          exact told_push _ (notices_other fun _ => rfl) (remember_rows out.db _ _ _ _ _).nodes

theorem connect_told (d c : String) (now : Instant) (s : Server) :
    PoolTold {d} s.db (connect (.device d) c now s).server.db
      (connect (.device d) c now s).sends := by
  unfold connect
  dsimp only
  split
  · exact told_nothing _ _
  · split
    · exact told_nothing _ _
    · refine told_quiet (fun d' hd => ?_) (by simp [poolOf])
      rw [nodeConnected, rowShown_updateNode _ _ _ _ _ (fun h => absurd h hd)]
      exact rowShown_getOrCreateNode hd

theorem connect_user_told (u : User) (c : String) (now : Instant) (s : Server) :
    PoolTold ∅ s.db (connect (.user u) c now s).server.db
      (connect (.user u) c now s).sends := by
  unfold connect
  dsimp only
  split
  · exact told_nothing _ _
  · exact told_same rfl (by simp [poolOf])

theorem deviceToken_told (d : String) (now : Instant) :
    PoolTold {d} db (deviceToken d now db).db (deviceToken d now db).sends := by
  unfold deviceToken
  dsimp only
  split
  · exact told_nothing _ _
  · rename_i nodes hi
    obtain ⟨hnew, rfl⟩ := Table.insert?_eq_some.mp hi
    refine told_quiet (fun d' hd => ?_) (by simp [answer])
    have hne : d' ≠ (registeredNode d now).deviceId := hd
    rw [rowShown, answer, Table.get?_insert, if_neg hne, rowShown]

end Quiet

/-- The nodes that an event may change without a push. -/
def silentNodes : Event → Server → Set String
  | .connect (.device d) _ _, _ => {d}
  | .deviceToken d _, _ => {d}
  | .release user req _, s => namedNodes s.db user.id req.leaseIds
  | _, _ => ∅

theorem handle_told  (e : Event)
    (s : Server) :
    PoolTold (silentNodes e s) s.db (handle e s).server.db (handle e s).sends := by
  cases e with
  | rent user req now draw => exact rentLease_told user req now draw
  | release user req now => exact releaseLease_told user req now
  | leaseList user => exact told_nothing _ _
  | billingInfo user =>
    exact told_same (billingInfo_rows user s.db).nodes
      (by simp [handle, ofView, billingInfo, answer])
  | poolNodes user region tier status => exact told_nothing _ _
  | deviceToken d now => exact deviceToken_told d now
  | adminNodes user => exact admin_told (told_nothing _ _)
  | adminSetNodeState user d state => exact admin_told (adminSetNodeState_told d state)
  | adminForceReleaseLease user id now => exact admin_told (adminForceReleaseLease_told id now)
  | adminForceReleaseNode user d now => exact admin_told (adminForceReleaseNode_told d now)
  | adminRebootNode user d =>
    refine admin_told (told_same ?_ ?_)
    · rw [adminRebootNode_db]
    · unfold adminRebootNode
      split <;> simp [answer, poolOf]
  | adminDeleteNode user d => exact admin_told (adminDeleteNode_told d)
  | adminUpdateNode user d patch => exact admin_told (adminUpdateNode_told d patch)
  | savePricePlan plan => exact told_same (savePricePlan_rows plan s.db).nodes (by simp [handle])
  | connect auth c now =>
    cases auth with
    | user u => exact connect_user_told u c now s
    | device d => exact connect_told d c now s
  | disconnect c now => exact disconnect_told c now s
  | receive c msg now =>
    simp only [handle]
    split
    · exact told_nothing _ _
    · cases h : handleMessage _ msg now s with
      | none => exact told_nothing _ _
      | some r => exact handleMessage_told h
  | checkHeartbeats timeout now => exact takeDown_told now _ s.db

/-- A registered connection of a user. -/
def Listens (c : String) (s : Server) : Prop := ∃ m ∈ s.connections.get? c, m.role = .user

instance (c : String) (s : Server) : Decidable (Listens c s) :=
  inferInstanceAs (Decidable (∃ m ∈ s.connections.get? c, m.role = .user))

theorem listens_iff {c : String} {s : Server} : c ∈ recipients s (.group .users) ↔ Listens c s := by
  rw [recipients, List.mem_map]
  constructor
  · rintro ⟨m, hm, rfl⟩
    obtain ⟨hrow, hr⟩ := List.mem_filter.mp hm
    exact ⟨m,(Table.mem_iff_get? _ m).mp hrow,by simpa using hr⟩
  · rintro ⟨m, hm, hr⟩
    obtain ⟨hrow, rfl⟩ := (Table.get?_eq_some _ _ _).mp hm
    exact ⟨m,List.mem_filter.mpr ⟨hrow,by simp [hr]⟩,rfl⟩

/-- The pools a step sends to a connection. -/
def poolsTo (c : String) (e : Event) (s : Server) : List (List NodeData) :=
  pools ((handle e s).sends.filter (fun send => c ∈ recipients (handle e s).server send.target))

theorem poolsTo_eq (c : String) (e : Event) (s : Server) :
    poolsTo c e s = if Listens c (handle e s).server then pools (handle e s).sends else [] := by
  have husers := (handle_told e s).users
  unfold poolsTo
  split
  · rename_i h
    rw [pools, pools, List.filterMap_filter]
    refine List.filterMap_congr fun send hs => ?_
    by_cases hp : poolOf send.message = none
    · rw [hp, ite_self]
    · rw [husers send hs hp, if_pos (decide_eq_true (listens_iff.mpr h))]
  · rename_i h
    refine pools_other fun send hs => ?_
    obtain ⟨hs, hc⟩ := List.mem_filter.mp hs
    by_contra hp
    rw [husers send hs hp, decide_eq_true_eq] at hc
    exact h (listens_iff.mp hc)

/-- A connection that does not listen hears of no change. -/
def silentTo (c : String) (e : Event) (s : Server) : Set String :=
  {d | Listens c (handle e s).server → d ∈ silentNodes e s}

/-- The server as the connection `c` sees it. -/
def poolSource (c : String) : Source Server Event (List NodeData) String NodeData where
  step := ControlPlaneServer.step
  view := fun s => rowShown s.db
  read := entryShown
  published := poolsTo c
  silent := silentTo c

theorem poolSource_honest (c : String) : (poolSource c).Honest where
  last := by
    intro e s nodes hn
    change (poolsTo c e s).getLast? = some nodes at hn
    rw [poolsTo_eq] at hn
    split at hn
    · exact (handle_told e s).last nodes hn
    · cases hn
  silent := by
    intro e s hnone d hd
    change poolsTo c e s = [] at hnone
    have hlistens : Listens c (handle e s).server := by
      by_contra h
      exact hd fun hl => absurd hl h
    rw [poolsTo_eq, if_pos hlistens] at hnone
    exact (handle_told e s).silent hnone d fun h => hd fun _ => h

/-- Since a pool update the pool shows the node of a device as it is, times of
last sight apart, unless a step changed the node without a push. -/
theorem pool_shown {c d : String} {s : Server} {before after : List (Action Event)} {e : Event}
    (htold : poolsTo c e (run (step (poolSource c)) before (start s)).source ≠ [])
    (hsaid : Meets (step (poolSource c)) (Said (poolSource c) d) after
      (run (step (poolSource c)) (before ++ [Action.act e]) (start s)))
    (hidle : (run (step (poolSource c)) (before ++ Action.act e::after) (start s)).inbox = []) :
    ∃ nodes,
      (run (step (poolSource c)) (before ++ Action.act e::after) (start s)).shown = some nodes ∧
      entryShown nodes d =
        rowShown (run (step (poolSource c)) (before ++ Action.act e::after)
          (start s)).source.db d :=
  shows_since (poolSource_honest c) htold hsaid hidle

/-- A device and a user connect. -/
def arrivals : List (Action Event) :=
  [.act (.connect (.device "node") "s1" 5),
    .act (.connect (.user { id := 1, username := "ann" }) "w" 6)]

def firstHello : Event := .receive "s1" (.nodeHello "eu" "gold" "1" none) 7

/-- What follows the hello: a heartbeat, and the arrival of the pool. -/
def beaten : List (Action Event) := [.act (.receive "s1" .nodeHeartbeat 9),.deliver]

theorem hello_shown :
    ∃ nodes, (run (step (poolSource "w")) (arrivals ++ Action.act firstHello::beaten)
        (start (initial 0))).shown = some nodes ∧
      entryShown nodes "node" = rowShown (run (step (poolSource "w"))
        (arrivals ++ Action.act firstHello::beaten) (start (initial 0))).source.db "node" := by
  refine pool_shown ?_ ⟨?_,trivial,trivial⟩ ?_
  · exact List.cons_ne_nil _ _
  · intro _ h
    have hlistens : Listens "w" (handle (.receive "s1" .nodeHeartbeat 9)
        (run (step (poolSource "w")) (arrivals ++ [Action.act firstHello])
          (start (initial 0))).source).server := by
      decide
    exact h hlistens
  · rfl

end CloudPlay.PoolView
