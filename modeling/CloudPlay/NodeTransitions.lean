import CloudPlay.StepEffects

/-!
# The life of a node row

Every status, connection id and time of last sight that a node ever gets is
written by one of the changes below. Taking silent nodes offline one after the
other reaches those before the first one whose leases cannot all be billed,
and what it does to one node has no effect on the charges of the next.
-/

set_option autoImplicit false

namespace CloudPlay.NodeTransitions
open KeyedTable ControlPlaneModels ControlPlaneSerializers ControlPlaneDatabase LeaseLifecycle
open ControlPlaneViews ControlPlaneConsumer ControlPlaneServer ControlPlaneEffects LeaseEnding
open StepEffects

/-- The row of a device after `get_or_create`. -/
def knownNode (db : Database) (d : String) (now : Instant) : Node :=
  (db.nodes.get? d).getD { deviceId := d, lastSeen := now }

/-- The loop over silent nodes gets to the device and takes its node down: no
node up to there has a lease that cannot be billed. -/
def TakenDown (d : String) (now : Instant) (db : Database) : List Node → Prop
  | [] => False
  | n::rest => Covered n.deviceId now db ∧ (n.deviceId = d ∨ TakenDown d now db rest)

/-- What a step can do to the row of device `d`. -/
inductive NodeChange (s : Server) (d : String) : Event → Option Node → Option Node → Prop
  | same {e : Event} {row : Option Node} : NodeChange s d e row row
  | assigned {user : User} {req : RentRequest} {now : Instant} {draw : ℕ → Uuid × String}
      {n : Node} : n.status = .free →
      NodeChange s d (.rent user req now draw) (some n) (some { n with status := .assigned })
  | releasing {user : User} {req : ReleaseRequest} {now : Instant} {n : Node} :
      n.blocked = false →
      NodeChange s d (.release user req now) (some n) (some { n with status := .releasing })
  | leaseForced {user : User} {id : Uuid} {now : Instant} {n : Node} : user.isStaff →
      n.blocked = false →
      NodeChange s d (.adminForceReleaseLease user id now) (some n)
        (some { n with status := .releasing })
  | registered {now : Instant} :
      NodeChange s d (.deviceToken d now) none (some (registeredNode d now))
  | stateSet {user : User} {state : Option String} {wanted : NodeStatus} {n : Node} :
      user.isStaff → requestedState state = some wanted →
      NodeChange s d (.adminSetNodeState user d state) (some n)
        (some { n with status := adminState n wanted })
  | nodeForced {user : User} {now : Instant} {n : Node} : user.isStaff →
      (∀ l ∈ s.db.leases, l.deviceId = d → l.unfinished = true → Billable now s.db.timeZone l) →
      NodeChange s d (.adminForceReleaseNode user d now) (some n)
        (some { n with status := forcedStatus n })
  | deleted {user : User} {row : Option Node} : user.isStaff →
      s.db.leasesOf d Lease.unfinished = [] → NodeChange s d (.adminDeleteNode user d) row none
  | patched {user : User} {patch : NodePatch} {n : Node} : user.isStaff →
      NodeChange s d (.adminUpdateNode user d patch) (some n) (some (patch.apply n))
  | connected {c : String} {now : Instant} {row : Option Node} : s.connections.get? c = none →
      d ≠ "" → c ≠ "" →
      NodeChange s d (.connect (.device d) c now) row
        (some (connectedNode c now (hasEngagedLease s.db d) (knownNode s.db d now)))
  | disconnected {c : String} {now : Instant} {m : ConnectionMeta} {n : Node} :
      s.connections.get? c = some m → m.role = .device → m.deviceId = some d →
      Covered d now s.db → NodeChange s d (.disconnect c now) (some n) (some (offlineNode now n))
  | seen {c : String} {msg : ClientMessage} {now : Instant} {m : ConnectionMeta} {n : Node} :
      s.connections.get? c = some m → m.role = .device → m.deviceId = some d → IsSignOfLife msg →
      NodeChange s d (.receive c msg now) (some n) (some { n with lastSeen := now })
  | hello {c : String} {now : Instant} {m : ConnectionMeta} {hello : NodeHello}
      {row : Option Node} : s.connections.get? c = some m → m.role = .device →
      m.deviceId = some d →
      NodeChange s d (.receive c (.nodeHello hello.region hello.gpuTier hello.agentVersion
          hello.capabilities) now) row
        (some (helloNode hello now (hasEngagedLease s.db d) (knownNode s.db d now)))
  | inUse {c : String} {id : Uuid} {claimed : Option String} {now : Instant}
      {m : ConnectionMeta} {l : Lease} {n : Node} :
      s.connections.get? c = some m → m.role = .device → claimedDevice m claimed = some d →
      l ∈ s.db.leases → l.leaseId = id → l.deviceId = d → Startable l →
      NodeChange s d (.receive c (.leaseReady (.uuid id) claimed) now) (some n)
        (some (inUseNode now n))
  | takenDown {timeout : ℤ} {now : Instant} {n : Node} : n ∈ staleNodes s.db timeout now →
      TakenDown d now s.db (staleNodes s.db timeout now) →
      NodeChange s d (.checkHeartbeats timeout now) (some n) (some (offlineNode now n))

section Rows
variable {db db' : Database}

theorem rentNodes_node {user : UserId} {unit : BillingUnit} {price : Money} {now : Instant}
    {draw : ℕ → Uuid × String} {i : ℕ} {nodes : List Node} {ls : List Lease}
    (h : rentNodes user unit price now draw i nodes db = some (db',ls)) (d : String) :
    db'.nodes.get? d = if d ∈ nodes.map Node.deviceId then
      (db.nodes.get? d).map (fun n => { n with status := .assigned }) else db.nodes.get? d := by
  induction nodes generalizing i db ls with
  | nil =>
    simp only [rentNodes, Option.some.injEq, Prod.mk.injEq] at h
    simp [h.1]
  | cons n nodes ih =>
    simp only [rentNodes, Option.bind_eq_bind, Option.bind_eq_some_iff, Option.pure_def,
      Option.some.injEq, Prod.mk.injEq, Prod.exists] at h
    obtain ⟨db₁, h₁, db₂, ls₂, h₂, rfl, rfl⟩ := h
    have hnodes : db₁.nodes = db.nodes := by
      simp only [Database.createLease, Option.map_eq_some_iff] at h₁
      obtain ⟨_, -, rfl⟩ := h₁
      rfl
    rw [ih h₂, Database.get?_setNodeStatus, hnodes]
    by_cases hd : d = n.deviceId
    · subst hd
      by_cases hin : n.deviceId ∈ nodes.map Node.deviceId <;>
        simp [hin, Option.map_map, Function.comp_def]
    · by_cases hin : d ∈ nodes.map Node.deviceId <;> simp [hd, hin]

theorem setReleasing_node (db : Database) (d d' : String) :
    (setReleasing db d).nodes.get? d' = db.nodes.get? d' ∨
    ∃ n, db.nodes.get? d' = some n ∧ n.blocked = false ∧
      (setReleasing db d).nodes.get? d' = some { n with status := .releasing } := by
  rcases setReleasing_cases db d with h | ⟨n, hn, hb, h⟩ <;> rw [h]
  · exact Or.inl rfl
  · rw [Database.get?_setNodeStatus]
    split
    · rename_i hd
      exact Or.inr ⟨n,hd ▸ hn,hb,by rw [hn]; rfl⟩
    · exact Or.inl rfl

theorem releaseLeases_node {user : UserId} {t : Instant} {refs : List LeaseRef}
    {out : ReleaseOutcome} (h : releaseLeases user t refs db = some out) (d : String) :
    out.db.nodes.get? d = db.nodes.get? d ∨
    ∃ n, db.nodes.get? d = some n ∧ n.blocked = false ∧
      out.db.nodes.get? d = some { n with status := .releasing } := by
  refine @releaseLeases_closure (fun a b => b.nodes.get? d = a.nodes.get? d ∨
    ∃ n, a.nodes.get? d = some n ∧ n.blocked = false ∧
      b.nodes.get? d = some { n with status := .releasing }) (fun _ => Or.inl rfl) ?_ user t ?_
    refs db out h
  · rintro a b c (hab | ⟨n, hn, hb, hab⟩) hbc
    · rwa [hab] at hbc
    · rcases hbc with hbc | ⟨q, hq, -, hbc⟩
      · exact Or.inr ⟨n,hn,hb,hbc.trans hab⟩
      · obtain rfl := Option.some.inj (hab.symm.trans hq)
        exact Or.inr ⟨n,hn,hb,hbc⟩
  · intro id l l' a b hl he
    have hnodes := (endLease_ends (Table.get?_mem (leaseOfUser_eq_some.mp hl).1) he).1.nodes
    have hround := setReleasing_node b l.deviceId d
    rwa [hnodes] at hround

theorem getOrCreateNode_node (db : Database) (d : String) (now : Instant) (d' : String) :
    (db.getOrCreateNode d now).nodes.get? d' =
      if d' = d then some (knownNode db d now) else db.nodes.get? d' := by
  by_cases h : db.nodes.get? d = none
  · rw [Database.getOrCreateNode_new db d now h]
    simp only [Table.get?_insert, knownNode, h, Option.getD_none]
  · rw [Database.getOrCreateNode_known db d now h]
    split
    · rename_i hd
      obtain ⟨n, hn⟩ := Option.ne_none_iff_exists'.mp h
      simp [hd, knownNode, hn]
    · rfl

theorem nodeConnected_node (db : Database) (d c : String) (now : Instant) (d' : String) :
    (nodeConnected d c now db).nodes.get? d' =
      if d' = d then some (connectedNode c now (hasEngagedLease db d) (knownNode db d now))
      else db.nodes.get? d' := by
  rw [nodeConnected, Database.updateNode_nodes, Table.get?_modify, getOrCreateNode_node,
    getOrCreateNode_node]
  split <;> simp_all

theorem updateNodeHello_node (db : Database) (d : String) (hello : NodeHello) (now : Instant)
    (d' : String) : (updateNodeHello d hello now db).nodes.get? d' =
      if d' = d then some (helloNode hello now (hasEngagedLease db d) (knownNode db d now))
      else db.nodes.get? d' := by
  rw [updateNodeHello, Database.updateNode_nodes, Table.get?_modify, getOrCreateNode_node,
    getOrCreateNode_node]
  split <;> simp_all

/-- A takedown that does not raise. -/
theorem markOffline_node {d reason : String} {now : Instant} {sends : List Send}
    (h : markNodeOfflineAndEndLeases d reason now db = some (db',sends)) (d' : String) :
    db'.nodes.get? d' =
      if d' = d then (db.nodes.get? d).map (offlineNode now) else db.nodes.get? d' := by
  rcases markOffline_cases h with ⟨hn, rfl, -⟩ | ⟨n, hn, he, -⟩
  · split
    · rename_i hd
      simp [hd, hn]
    · rfl
  · rw [he.nodes, takeOffline, Database.updateNode_nodes, Table.get?_modify]

theorem markOffline_covered {d reason : String} {now : Instant} {sends : List Send}
    (h : markNodeOfflineAndEndLeases d reason now db = some (db',sends))
    (hn : db.nodes.get? d ≠ none) : Covered d now db := by
  by_contra hc
  rw [(markOffline_eq_none_iff d reason now db).mpr ⟨hn,hc⟩] at h
  cases h

/-- The closing of a session of the device, unless it raises. -/
theorem disconnect_node {s : Server} {c d : String} {now : Instant} {m : ConnectionMeta}
    (hm : s.connections.get? c = some m) (hr : m.role = .device) (hd : m.deviceId = some d)
    (hc : Covered d now s.db) : (step (.disconnect c now) s).db.nodes.get? d =
      (s.db.nodes.get? d).map (offlineNode now) := by
  have hsome : markNodeOfflineAndEndLeases d EndReason.nodeOffline.value now s.db ≠ none :=
    fun hnone => ((markOffline_eq_none_iff _ _ _ _).mp hnone).2 hc
  obtain ⟨⟨db', sends⟩, hmark⟩ := Option.ne_none_iff_exists'.mp hsome
  have hstep : (step (.disconnect c now) s).db = db' := by
    simp [step, handle, disconnect, hm, hr, hd, hmark]
  rw [hstep, markOffline_node hmark, if_pos rfl]

/-- Taking one node down has no effect on what the other ones are charged. -/
theorem markOffline_others {d reason : String} {now : Instant} {sends : List Send}
    (h : markNodeOfflineAndEndLeases d reason now db = some (db',sends)) {d' : String}
    (hne : d' ≠ d) : Covered d' now db' ↔ Covered d' now db := by
  rcases markOffline_cases h with ⟨-, rfl, -⟩ | ⟨n, -, he, -⟩
  · rfl
  · have hkeep : ∀ l ∈ db.leases, l.deviceId = d' →
        finishIn reason now ((db.leasesOf d Lease.engaged).map Lease.leaseId) db.timeZone l = l := by
      intro l hl hd
      rw [finishIn, if_neg]
      intro hid
      exact hne (hd.symm.trans ((mem_leasesOf_ids d _ hl).mp hid).1)
    have htz : db'.timeZone = db.timeZone := he.timeZone
    simp only [Covered, htz]
    constructor
    · intro hc l hl hd hen
      exact hc l ((he.mem l).mpr ⟨l,hl,hkeep l hl hd⟩) hd hen
    · intro hc l' hl' hd hen
      obtain ⟨l, hl, rfl⟩ := (he.mem l').mp hl'
      have hdev : l.deviceId = d' := by
        rw [← hd, finishIn]
        split <;> simp
      have hsame := hkeep l hl hdev
      rw [show (takeOffline db d now).timeZone = db.timeZone from rfl, hsame] at hd hen ⊢
      exact hc l hl hd hen

theorem TakenDown.mem {d : String} {now : Instant} {nodes : List Node}
    (h : TakenDown d now db nodes) : d ∈ nodes.map Node.deviceId := by
  induction nodes with
  | nil => exact absurd h (fun h => h)
  | cons n nodes ih =>
    rcases h.2 with rfl | h
    · exact List.mem_cons_self
    · exact List.mem_cons_of_mem _ (ih h)

theorem takenDown_congr {d : String} {now : Instant} {nodes : List Node}
    (h : ∀ n ∈ nodes, (Covered n.deviceId now db' ↔ Covered n.deviceId now db)) :
    TakenDown d now db' nodes ↔ TakenDown d now db nodes := by
  induction nodes with
  | nil => rfl
  | cons n nodes ih =>
    simp only [TakenDown]
    rw [h n List.mem_cons_self, ih (fun q hq => h q (List.mem_cons_of_mem _ hq))]

/-- The row of a device after the loop. -/
theorem takeDown_node (d : String) (now : Instant) (nodes : List Node)
    (hrows : ∀ n ∈ nodes, db.nodes.get? n.deviceId ≠ none)
    (hnd : (nodes.map Node.deviceId).Nodup) :
    (TakenDown d now db nodes →
      (takeDown now nodes db).1.nodes.get? d = (db.nodes.get? d).map (offlineNode now)) ∧
    (¬TakenDown d now db nodes →
      (takeDown now nodes db).1.nodes.get? d = db.nodes.get? d) := by
  induction nodes generalizing db with
  | nil => exact ⟨fun h => absurd h (fun h => h),fun _ => rfl⟩
  | cons n nodes ih =>
    rw [List.map_cons, List.nodup_cons] at hnd
    have hn := hrows n List.mem_cons_self
    cases hm : markNodeOfflineAndEndLeases n.deviceId heartbeatTimeout now db with
    | none =>
      have hc := ((markOffline_eq_none_iff _ _ _ _).mp hm).2
      exact ⟨fun h => absurd h.1 hc,fun _ => by simp [takeDown, hm]⟩
    | some p =>
      obtain ⟨db₁, sends⟩ := p
      have hc := markOffline_covered hm hn
      have hget := markOffline_node hm
      have hothers : ∀ q ∈ nodes, q.deviceId ≠ n.deviceId := by
        intro q hq hid
        exact hnd.1 (hid ▸ List.mem_map_of_mem hq)
      have hrest := @ih db₁ (fun q hq => by
        rw [hget, if_neg (hothers q hq)]
        exact hrows q (List.mem_cons_of_mem _ hq)) hnd.2
      rw [takenDown_congr (fun q hq => markOffline_others hm (hothers q hq)), hget d] at hrest
      have hstep : (takeDown now (n::nodes) db).1 = (takeDown now nodes db₁).1 := by
        simp [takeDown, hm]
      rw [hstep]
      simp only [TakenDown, hc, true_and]
      by_cases hd : d = n.deviceId
      · have hout : ¬TakenDown d now db nodes := fun h => hnd.1 (hd ▸ h.mem)
        rw [if_pos hd] at hrest
        refine ⟨fun _ => ?_,fun h => absurd (Or.inl hd.symm) h⟩
        rw [hrest.2 hout, hd]
      · rw [if_neg hd] at hrest
        exact ⟨fun h => hrest.1 (h.resolve_left (Ne.symm hd)),
          fun h => hrest.2 (fun h' => h (Or.inr h'))⟩

theorem messageEffect_node {s : Server} {c : String} {m : ConnectionMeta} {msg : ClientMessage}
    {now : Instant} (hm : s.connections.get? c = some m) (h : MessageEffect m msg now s.db db')
    (d : String) : NodeChange s d (.receive c msg now) (s.db.nodes.get? d) (db'.nodes.get? d) := by
  cases h with
  | none => exact .same
  | seen d' hr hd hlife =>
    rw [nodeTouchLastSeen, Database.updateNode_nodes, Table.get?_modify]
    split
    · rename_i hdd
      subst hdd
      cases hn : s.db.nodes.get? d with
      | none => exact .same
      | some n => exact .seen hm hr hd hlife
    · exact .same
  | hello d' hello hr hd hmsg =>
    subst hmsg
    rw [updateNodeHello_node]
    split
    · rename_i hdd
      subst hdd
      exact .hello hm hr hd
    · exact .same
  | ready id claimed d' hr hmsg hd =>
    subst hmsg
    unfold markLeaseReady
    split
    · exact .same
    · rename_i l hl
      split
      · exact .same
      · rename_i hown
        split
        · exact .same
        · rename_i hstart
          rw [Database.updateNode_nodes, Database.updateLease_nodes, Table.get?_modify]
          split
          · rename_i hdd
            subst hdd
            cases hn : s.db.nodes.get? d with
            | none => exact .same
            | some n =>
              exact .inUse hm hr hd (Table.get?_mem hl) (Table.get?_key hl) (not_not.mp hown)
                (not_not.mp hstart)
          · exact .same
  | active id l => exact .same

theorem staleNodes_rows (db : Database) (timeout : ℤ) (now : Instant) {n : Node}
    (h : n ∈ staleNodes db timeout now) : db.nodes.get? n.deviceId = some n :=
  (db.nodes.mem_iff_get? n).mp (List.mem_filter.mp h).1

theorem staleNodes_nodup (db : Database) (timeout : ℤ) (now : Instant) :
    ((staleNodes db timeout now).map Node.deviceId).Nodup :=
  (List.filter_sublist.map Node.deviceId).nodup db.nodes.nodup

/-- Each row of the node table goes through a step by one of the changes. -/
theorem node_change (e : Event) (s : Server) (d : String) :
    NodeChange s d e (s.db.nodes.get? d) ((step e s).db.nodes.get? d) := by
  have heffect := step_effect e s
  generalize (step e s).db = db' at heffect ⊢
  cases heffect with
  | quiet h =>
    rw [h.nodes]
    exact .same
  | @rented user req now draw db₁ _ ls h hrows =>
    rw [hrows.nodes, rentNodes_node h]
    split
    · rename_i hin
      obtain ⟨n, hn, rfl⟩ := List.mem_map.mp hin
      have hrow := List.mem_of_mem_take hn
      rw [List.mem_insertionSort, List.mem_filter] at hrow
      have hfree := hrow.2
      simp only [rentable, Bool.and_eq_true, decide_eq_true_eq] at hfree
      rw [(s.db.nodes.mem_iff_get? n).mp hrow.1]
      exact .assigned hfree.1.1
    · exact .same
  | released h hrows =>
    rw [hrows.nodes]
    rcases releaseLeases_node h d with h | ⟨n, hn, hb, h⟩ <;> rw [h]
    · exact .same
    · rw [hn]
      exact .releasing hb
  | @registered d' now hk =>
    have hget := Table.get?_insert s.db.nodes (registeredNode d' now) hk d
    dsimp only at hget ⊢
    rw [hget]
    split
    · rename_i hd
      have hdd : d = d' := hd
      subst hdd
      rw [hk]
      exact .registered
    · exact .same
  | @stateSet user d' state wanted n hu hw hn =>
    rw [Database.get?_setNodeStatus]
    split
    · rename_i hd
      subst hd
      rw [hn]
      exact .stateSet hu hw
    · exact .same
  | @leaseForced user id now l l' db₁ hu hl he =>
    rcases setReleasing_node db₁ l.deviceId d with h | ⟨n, hn, hb, h⟩ <;> rw [h] <;>
      rw [(endLease_ends (Table.get?_mem hl) he).1.nodes] at *
    · exact .same
    · rw [hn]
      exact .leaseForced hu hb
  | @nodeForced user d' now n db₁ hu hn hb he =>
    rw [Database.get?_setNodeStatus, he.nodes]
    split
    · rename_i hd
      subst hd
      rw [hn]
      exact .nodeForced hu hb
    · exact .same
  | @deleted user d' hu hnone =>
    have hnodes : (deleteNode (deleteLeasesOf s.db d') d').nodes.get? d =
        (s.db.nodes.get? d).filter (fun n => n.deviceId ≠ d') :=
      Table.get?_filter s.db.nodes (fun n => n.deviceId ≠ d') d
    rw [hnodes]
    cases hn : s.db.nodes.get? d with
    | none => exact .same
    | some n =>
      have hid := Table.get?_key hn
      by_cases hd : d = d'
      · subst hd
        simp only [Option.filter_some, hid, ne_eq, not_true, decide_false, Bool.false_eq_true,
          if_false]
        exact .deleted hu hnone
      · simp only [Option.filter_some, hid, hd, ne_eq, not_false_iff, decide_true, if_true]
        exact .same
  | @patched user d' patch hu =>
    have hget : (s.db.updateNode d' patch.apply).nodes.get? d =
        if d = d' then (s.db.nodes.get? d').map patch.apply else s.db.nodes.get? d :=
      Table.get?_modify s.db.nodes d' d patch.apply (fun _ => rfl)
    rw [hget]
    split
    · rename_i hd
      subst hd
      cases hn : s.db.nodes.get? d with
      | none => exact .same
      | some n => exact .patched hu
    · exact .same
  | @connected d' c now hc hd hne =>
    rw [nodeConnected_node]
    split
    · rename_i hdd
      subst hdd
      exact .connected hc hd hne
    · exact .same
  | @disconnected c d' now m _ sends hm hr hd h =>
    rw [markOffline_node h]
    split
    · rename_i hdd
      subst hdd
      cases hn : s.db.nodes.get? d with
      | none => exact .same
      | some n => exact .disconnected hm hr hd (markOffline_covered h (by simp [hn]))
    · exact .same
  | received hm h => exact messageEffect_node hm h d
  | @checked timeout now =>
    have htake := @takeDown_node s.db d now (staleNodes s.db timeout now)
      (fun n hn => by simp [staleNodes_rows s.db timeout now hn])
      (staleNodes_nodup s.db timeout now)
    by_cases h : TakenDown d now s.db (staleNodes s.db timeout now)
    · rw [htake.1 h]
      obtain ⟨n, hn, rfl⟩ := List.mem_map.mp h.mem
      rw [staleNodes_rows s.db timeout now hn]
      exact .takenDown hn h
    · rw [htake.2 h]
      exact .same

end Rows

end CloudPlay.NodeTransitions
