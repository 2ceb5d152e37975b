import CloudPlay.NodeTransitions
import CloudPlay.StaleDisconnect

/-!
# FREE nodes and open sessions

A node is offered for rent when it is FREE, and reached by the connection id
in its row. Connecting writes both. A hello writes the status alone, so it can
free a node whose connection id was taken away while the session stayed open;
an administrator's FREE only looks whether there is an id; and a disconnect
whose takedown raises leaves the id behind.
-/

set_option autoImplicit false

namespace CloudPlay.AdvertisedCapacity
open KeyedTable ControlPlaneModels ControlPlaneSerializers ControlPlaneDatabase LeaseLifecycle
open ControlPlaneViews ControlPlaneConsumer ControlPlaneServer LeaseEnding StepEffects
open NodeTransitions StaleDisconnect TransitionRun

/-- The connection id of the row is that of an open session of its device. -/
def Anchored (s : Server) (n : Node) : Prop :=
  ∃ c, n.connectionId = some c ∧ Session n.deviceId s c

def Advertised (s : Server) : Prop := ∀ n ∈ s.db.nodes, n.status = .free → Anchored s n

/-- What a step must find when it makes a node FREE, or closes the session of
a FREE node. -/
def FindsSession : Event → Server → Prop
  | .receive c (.nodeHello _ _ _ _) now, s => ∀ m ∈ s.connections.get? c, m.role = .device →
    ∀ d ∈ m.deviceId, hasEngagedLease s.db d = false →
      (knownNode s.db d now).status = .offline ∨ (knownNode s.db d now).status = .releasing →
        Anchored s (knownNode s.db d now)
  | .adminSetNodeState user d state, s => user.isStaff → requestedState state = some .free →
    ∀ n ∈ s.db.nodes.get? d, n.hasConnection = true → Anchored s n
  | .adminForceReleaseNode user d now, s => user.isStaff →
    (∀ l ∈ s.db.leases, l.deviceId = d → l.unfinished = true → Billable now s.db.timeZone l) →
      ∀ n ∈ s.db.nodes.get? d, n.blocked = false → n.hasConnection = true → Anchored s n
  | .disconnect c now, s => ∀ m ∈ s.connections.get? c, m.role = .device → ∀ d ∈ m.deviceId,
    ∀ n ∈ s.db.nodes.get? d, n.status = .free → n.connectionId = some c → Covered d now s.db
  | _, _ => True

theorem knownNode_deviceId (db : Database) (d : String) (now : Instant) :
    (knownNode db d now).deviceId = d := by
  unfold knownNode
  cases h : db.nodes.get? d with
  | none => rfl
  | some n => exact Table.get?_key h

/-- Sessions outlive every step but their own closing. -/
theorem session_kept {e : Event} {s : Server} {d c : String} (h : Session d s c)
    (hc : ∀ now, e ≠ .disconnect c now) : Session d (step e s) c := by
  cases e with
  | connect auth c' now => exact (session_connect auth c' now s c).mpr (Or.inl h)
  | disconnect c' now =>
    refine (session_disconnect c' now s c).mpr ⟨h,?_⟩
    rintro rfl
    exact hc now rfl
  | receive c' msg now => exact (session_receive c' msg now s c).mpr h
  | _ => exact h

section Steps
variable {e : Event} {s : Server} {d : String} {n n' : Node}

theorem anchored_step (h : Anchored s n) (hid : n'.deviceId = n.deviceId)
    (hconn : n'.connectionId = n.connectionId)
    (hc : ∀ c now, n.connectionId = some c → e ≠ .disconnect c now) :
    Anchored (step e s) n' := by
  obtain ⟨c, hn, hs⟩ := h
  exact ⟨c,hconn.trans hn,hid ▸ session_kept hs (fun now => hc c now hn)⟩

/-- A row that was not touched stays anchored if its session is not closed. -/
theorem same_anchored (hrow : s.db.nodes.get? d = some n)
    (hsame : (step e s).db.nodes.get? d = some n) (hs : Advertised s) (hg : FindsSession e s)
    (hfree : n.status = .free) : Anchored (step e s) n := by
  obtain ⟨c, hc, m, hm, hr, hd⟩ := hs n (Table.get?_mem hrow) hfree
  have hid := Table.get?_key hrow
  rw [hid] at hd
  refine anchored_step ⟨c,hc,m,hm,hr,hid.symm ▸ hd⟩ rfl rfl ?_
  rintro c' now hc' rfl
  obtain rfl : c = c' := Option.some.inj (hc.symm.trans hc')
  -- a takedown that does not raise would have changed the row
  rw [disconnect_node hm hr hd (hg m hm hr d hd n hrow hfree hc), hrow, Option.map_some] at hsame
  rw [← Option.some.inj hsame] at hfree
  simp [offlineNode] at hfree

theorem change_anchored {row : Option Node} (h : NodeChange s d e row (some n'))
    (hrow : s.db.nodes.get? d = row) (hafter : (step e s).db.nodes.get? d = some n')
    (hs : Advertised s) (hg : FindsSession e s) (hfree : n'.status = .free) :
    Anchored (step e s) n' := by
  have hrow_of {n : Node} (hn : row = some n) (hst : n.status = .free) : Anchored s n :=
    hs n (Table.get?_mem (hrow.trans hn)) hst
  cases h with
  | same => exact same_anchored hrow hafter hs hg hfree
  | assigned => cases hfree
  | releasing => cases hfree
  | leaseForced => cases hfree
  | registered => cases hfree
  | @stateSet user state wanted n hu hw =>
    cases wanted with
    | free =>
      cases hc : n.hasConnection with
      | true => exact anchored_step (hg hu hw n hrow hc) rfl rfl (by simp)
      | false => simp [adminState, hc] at hfree
    | _ => simp [adminState] at hfree
  | @nodeForced user now n hu hb =>
    simp only [forcedStatus] at hfree
    cases hbl : n.blocked with
    | true =>
      have hst : n.status = .disabled ∨ n.status = .maintenance := by
        simpa [Node.blocked] using hbl
      rw [hbl, if_pos rfl] at hfree
      simp [hfree] at hst
    | false =>
      cases hc : n.hasConnection with
      | true => exact anchored_step (hg hu hb n hrow hbl hc) rfl rfl (by simp)
      | false => simp [hbl, hc] at hfree
  | patched => exact anchored_step (hrow_of rfl hfree) rfl rfl (by simp)
  | @connected c now _ hc hd hne =>
    have hopen : opens d (.connect (.device d) c now) s = some c := by simp [opens, hc, hd, hne]
    refine ⟨c,rfl,?_⟩
    rw [connectedNode_deviceId, knownNode_deviceId]
    exact (session_connect _ c now s c).mpr (Or.inr hopen)
  | disconnected => cases hfree
  | seen => exact anchored_step (hrow_of rfl hfree) rfl rfl (by simp)
  | @hello c now m hello _ hm hr hd =>
    have hknown : Anchored s (knownNode s.db d now) := by
      by_cases hst : (knownNode s.db d now).status = .free
      · cases hn : s.db.nodes.get? d with
        | none => simp [knownNode, hn] at hst
        | some n =>
          have hkn : knownNode s.db d now = n := by simp [knownNode, hn]
          rw [hkn] at hst ⊢
          exact hs n (Table.get?_mem hn) hst
      · simp only [helloNode] at hfree
        split at hfree
        · rename_i hfreed
          exact hg m hm hr d hd hfreed.2 hfreed.1
        · exact absurd hfree hst
    exact anchored_step hknown rfl rfl (by simp)
  | @inUse c id claimed now m l n =>
    cases hb : n.blocked with
    | true =>
      have hsame : inUseNode now n = n := by simp [inUseNode, hb]
      rw [hsame] at hfree ⊢
      exact anchored_step (hrow_of rfl hfree) rfl rfl (by simp)
    | false => simp [inUseNode, hb] at hfree
  | takenDown => cases hfree

theorem advertised_step (hs : Advertised s) (hg : FindsSession e s) : Advertised (step e s) := by
  intro n' hn' hfree
  have hafter := ((step e s).db.nodes.mem_iff_get? n').mp hn'
  have hchange := node_change e s n'.deviceId
  rw [hafter] at hchange
  exact change_anchored hchange rfl hafter hs hg hfree

/-- What a step must find, it would otherwise miss afterwards. -/
theorem finds_of_advertised (h : Advertised (step e s)) : FindsSession e s := by
  have hback {n n' : Node} {d : String} (hafter : (step e s).db.nodes.get? d = some n')
      (hst : n'.status = .free) (hid : n'.deviceId = n.deviceId)
      (hconn : n'.connectionId = n.connectionId)
      (hse : ∀ x, Session n.deviceId (step e s) x ↔ Session n.deviceId s x) : Anchored s n := by
    obtain ⟨c, hc, hsess⟩ := h n' (Table.get?_mem hafter) hst
    exact ⟨c,hconn.symm.trans hc,(hse c).mp (hid ▸ hsess)⟩
  cases e with
  | receive c msg now =>
    cases msg with
    | nodeHello region tier version capabilities =>
      intro m hm hr d hd hidle hst
      rw [Option.mem_def] at hm hd
      have hafter : (step (.receive c (.nodeHello region tier version capabilities) now) s).db =
          updateNodeHello d ⟨region,tier,version,capabilities⟩ now s.db := by
        simp [step, handle, hm, handleMessage, hr, hd]
      have hrow := updateNodeHello_node s.db d ⟨region,tier,version,capabilities⟩ now d
      rw [if_pos rfl, ← hafter] at hrow
      exact hback hrow (by simp [helloNode, hst, hidle]) rfl rfl (session_step _ s trivial)
    | _ => trivial
  | adminSetNodeState user d state =>
    intro hu hw n hn hc
    rw [Option.mem_def] at hn
    have hafter : (step (.adminSetNodeState user d state) s).db = s.db.setNodeStatus d .free := by
      simp [step, handle, ofView, adminOnly, hu, adminSetNodeState, hw, hn, adminState, hc]
    have hrow := Database.get?_setNodeStatus s.db d d .free
    rw [if_pos rfl, hn, Option.map_some, ← hafter] at hrow
    exact hback hrow rfl rfl rfl (session_step _ s trivial)
  | adminForceReleaseNode user d now =>
    intro hu hb n hn hbl hc
    rw [Option.mem_def] at hn
    have hsome : endLeases EndReason.adminForceRelease.value now
        (s.db.leasesOf d Lease.unfinished) s.db ≠ none := by
      rw [Ne, endLeases_eq_none_iff (leasesOf_rows d _) (leasesOf_nodup s.db d _)]
      rintro ⟨l, hl, hno⟩
      obtain ⟨hl, hd, hun⟩ := (Database.mem_leasesOf s.db d _ l).mp hl
      exact hno (hb l hl hd hun)
    obtain ⟨⟨ls, db'⟩, he⟩ := Option.ne_none_iff_exists'.mp hsome
    have hafter : (step (.adminForceReleaseNode user d now) s).db = db'.setNodeStatus d .free := by
      simp [step, handle, ofView, adminOnly, hu, adminForceReleaseNode, hn, he, forcedStatus,
        hbl, hc]
    have hrow := Database.get?_setNodeStatus db' d d .free
    rw [if_pos rfl, (endLeasesOf_ends he).1.nodes, hn, Option.map_some, ← hafter] at hrow
    exact hback hrow rfl rfl rfl (session_step _ s trivial)
  | disconnect c now =>
    intro m hm hr d hd n hn hfree hc
    rw [Option.mem_def] at hm hd hn
    by_contra hcov
    have hnone := (markOffline_eq_none_iff d EndReason.nodeOffline.value now s.db).mpr
      ⟨by simp [hn],hcov⟩
    have hafter : (step (.disconnect c now) s).db = s.db := by
      simp [step, handle, disconnect, hm, hr, hd, hnone]
    obtain ⟨c', hc', hsess⟩ := h n (hafter ▸ Table.get?_mem hn) hfree
    obtain rfl := Option.some.inj (hc.symm.trans hc')
    exact ((session_disconnect c now s c).mp hsess).2 rfl
  | _ => trivial

end Steps

theorem advertised_initial (timeZone : Instant) : Advertised (initial timeZone) :=
  fun n hn => absurd hn (Table.not_mem_empty n)

/-- The session of a FREE node receives what is sent to its group. -/
theorem advertised_recipients {s : Server} (hs : Advertised s) {n : Node} (hn : n ∈ s.db.nodes)
    (hfree : n.status = .free) : recipients s (.group (.node n.deviceId)) ≠ [] := by
  obtain ⟨c, -, m, hm, hr, hd⟩ := hs n hn hfree
  have hmem : m.connectionId ∈ recipients s (.group (.node n.deviceId)) := by
    refine List.mem_map_of_mem (List.mem_filter.mpr ⟨Table.get?_mem hm,?_⟩)
    simp [hr, hd]
  exact List.ne_nil_of_mem hmem

/-- All states of a run offer reachable nodes only, exactly when every step
that frees a node, or closes the session of a FREE one, finds what it needs. -/
theorem advertised_iff (timeZone : Instant) (es : List Event) :
    (∀ before after, es = before ++ after → Advertised (run step before (initial timeZone))) ↔
      Meets step FindsSession es (initial timeZone) :=
  always_iff_meets step (fun _ _ hs => ⟨finds_of_advertised,advertised_step hs⟩) es _
    (advertised_initial timeZone)

/-- The heartbeat check takes down a node whose session is open; then the
session says hello. -/
def helloAfterCheckRun : List Event :=
  [.connect (.device "node-1") "c1" 1,.checkHeartbeats 60 100000000,
    .receive "c1" (.nodeHello "cn" "a" "1.0" none) 100000001]

theorem free_without_connection : ¬Advertised (run step helloAfterCheckRun (initial 0)) := by
  have hfree : ∃ n ∈ (run step helloAfterCheckRun (initial 0)).db.nodes.rows,
      n.status = .free ∧ n.connectionId = none := by decide
  obtain ⟨n, hn, hst, hnone⟩ := hfree
  intro h
  obtain ⟨c, hc, -⟩ := h n hn hst
  rw [hnone] at hc
  cases hc

end CloudPlay.AdvertisedCapacity
