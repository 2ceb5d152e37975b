import CloudPlay.ExclusiveAssignment
import CloudPlay.NodeTransitions

/-!
# Blocked nodes

A node that an administrator has disabled or put into maintenance keeps its
status through renting, releasing, connecting and every message of a device:
each of these looks at the status first. Taking a node offline does not, and
a node that is OFFLINE becomes FREE when its device connects. Blocks hold in
a run exactly when no takedown reaches a blocked node.
-/

set_option autoImplicit false

namespace CloudPlay.StickyBlocks
open KeyedTable ControlPlaneModels ControlPlaneDatabase LeaseLifecycle
open ControlPlaneViews ControlPlaneConsumer ControlPlaneServer LeaseEnding StepEffects
open NodeTransitions TransitionRun
open ExclusiveAssignment (admin)

/-- The requests by which an administrator moves a node to another status. -/
def byAdministrator : Event → Bool
  | .adminSetNodeState _ _ _ => true
  | .adminForceReleaseLease _ _ _ => true
  | .adminForceReleaseNode _ _ _ => true
  | .adminDeleteNode _ _ => true
  | _ => false

def KeepsBlocks (s s' : Server) : Prop :=
  ∀ d n, s.db.nodes.get? d = some n → n.blocked = true →
    ∃ n', s'.db.nodes.get? d = some n' ∧ n'.status = n.status

/-- Between two requests of administrators no blocked node gets another status. -/
def BlocksHold (es : List Event) (s : Server) : Prop :=
  ∀ before between after, es = before ++ between ++ after →
    (∀ e ∈ between, byAdministrator e = false) →
    KeepsBlocks (run step before s) (run step (before ++ between) s)

/-- No blocked node is taken offline: it is not the node of a device that
disconnects or has been silent, or an exception stops the takedown first. -/
def SparesBlocked : Event → Server → Prop
  | .disconnect c now, s => ∀ m ∈ s.connections.get? c, m.role = .device → ∀ d ∈ m.deviceId,
    ∀ n ∈ s.db.nodes.get? d, n.blocked = true → ¬Covered d now s.db
  | .checkHeartbeats timeout now, s => ∀ n ∈ staleNodes s.db timeout now, n.blocked = true →
    ¬TakenDown n.deviceId now s.db (staleNodes s.db timeout now)
  | _, _ => True

theorem KeepsBlocks.trans {s s' s'' : Server} (h : KeepsBlocks s s') (h' : KeepsBlocks s' s'') :
    KeepsBlocks s s'' := by
  intro d n hn hb
  obtain ⟨n', hn', hst⟩ := h d n hn hb
  have hb' : n'.blocked = true := by
    rw [← hb]
    simp [Node.blocked, hst]
  obtain ⟨n'', hn'', hst'⟩ := h' d n' hn' hb'
  exact ⟨n'',hn'',hst'.trans hst⟩

theorem blocked_status {n : Node} (h : n.blocked = true) :
    n.status = .disabled ∨ n.status = .maintenance := by
  simpa [Node.blocked] using h

/-- A change of one row either leaves a blocked status alone or is a takedown
or an administrator's. -/
theorem change_keeps {s : Server} {d : String} {e : Event} {row : Option Node} {n : Node}
    (h : NodeChange s d e (some n) row) (he : byAdministrator e = false)
    (hs : SparesBlocked e s) (hrow : s.db.nodes.get? d = some n) (hb : n.blocked = true) :
    ∃ n', row = some n' ∧ n'.status = n.status := by
  have hst := blocked_status hb
  cases h with
  | same => exact ⟨n,rfl,rfl⟩
  | assigned hfree => simp [hfree] at hst
  | releasing hno => simp [hb] at hno
  | leaseForced => cases he
  | stateSet => cases he
  | nodeForced => cases he
  | deleted => cases he
  | patched => exact ⟨_,rfl,rfl⟩
  | connected =>
    refine ⟨_,rfl,?_⟩
    simp [connectedNode, knownNode, hrow, hb]
  | disconnected hm hr hd hc => exact absurd hc (hs _ hm hr d hd n hrow hb)
  | seen => exact ⟨_,rfl,rfl⟩
  | hello =>
    refine ⟨_,rfl,?_⟩
    rcases hst with hst | hst <;> simp [helloNode, knownNode, hrow, hst]
  | inUse => exact ⟨_,rfl,by simp [inUseNode, hb]⟩
  | takenDown hn ht =>
    have hid := Table.get?_key hrow
    exact absurd (hid.symm ▸ ht) (hs n hn hb)

theorem step_keeps_iff (e : Event) (s : Server) (he : byAdministrator e = false) :
    KeepsBlocks s (step e s) ↔ SparesBlocked e s := by
  constructor
  · intro h
    -- a takedown would have left the node OFFLINE
    have hoffline (d : String) (n : Node) (now : Instant) (hn : s.db.nodes.get? d = some n)
        (hb : n.blocked = true)
        (hoff : (step e s).db.nodes.get? d = (s.db.nodes.get? d).map (offlineNode now)) :
        False := by
      obtain ⟨n', hn', hst⟩ := h d n hn hb
      rw [hoff, hn] at hn'
      rw [← Option.some.inj hn'] at hst
      rcases blocked_status hb with hd | hd <;> simp [offlineNode, hd] at hst
    cases e with
    | disconnect c now =>
      intro m hm hr d hd n hn hb hc
      exact hoffline d n now hn hb (disconnect_node hm hr hd hc)
    | checkHeartbeats timeout now =>
      intro n hn hb ht
      have htake := @takeDown_node s.db n.deviceId now (staleNodes s.db timeout now)
        (fun n hn => by simp [staleNodes_rows s.db timeout now hn])
        (staleNodes_nodup s.db timeout now)
      exact hoffline n.deviceId n now (staleNodes_rows s.db timeout now hn) hb (htake.1 ht)
    | _ => trivial
  · intro hs d n hn hb
    have hchange := node_change e s d
    rw [hn] at hchange
    exact change_keeps hchange he hs hn hb

/-- Blocks hold in a run exactly when each of its steps spares blocked nodes. -/
theorem blocks_hold_iff (timeZone : Instant) (es : List Event) :
    BlocksHold es (initial timeZone) ↔ Meets step SparesBlocked es (initial timeZone) := by
  constructor
  · intro h
    refine (meets_iff step _ es _).mpr fun before e after hes => ?_
    cases he : byAdministrator e with
    | true => cases e <;> trivial
    | false =>
      rw [← step_keeps_iff e _ he]
      have hone := h before [e] after (by simp [hes]) (by simp [he])
      rwa [run_append] at hone
  · rintro h before between after rfl hother
    have hmid := ((meets_append step _ before between _).mp
      ((meets_append step _ (before ++ between) after _).mp h).1).2
    rw [run_append]
    clear h
    generalize run step before (initial timeZone) = s at hmid ⊢
    induction between generalizing s with
    | nil => exact fun d n hn _ => ⟨n,hn,rfl⟩
    | cons e between ih =>
      have hfirst := (step_keeps_iff e s (hother e List.mem_cons_self)).mpr hmid.1
      exact hfirst.trans (ih (fun e he => hother e (List.mem_cons_of_mem _ he)) _ hmid.2)

/-- A node is disabled while it is connected. -/
def disabledRun : List Event :=
  [.connect (.device "node-1") "c1" 1,.receive "c1" (.nodeHello "cn" "a" "1.0" none) 2,
    .adminSetNodeState admin "node-1" (some "DISABLED")]

/-- It reconnects and is FREE again. -/
theorem reconnect_frees_disabled :
    ¬BlocksHold (disabledRun ++
      [.disconnect "c1" 4,.connect (.device "node-1") "c2" 5]) (initial 0) := by
  have hblocked : ∃ n ∈ (run step disabledRun (initial 0)).db.nodes.get? "node-1",
      n.blocked = true ∧ n.status = .disabled := by decide
  have hfree : ∃ n ∈ (run step (disabledRun ++
      [.disconnect "c1" 4,.connect (.device "node-1") "c2" 5]) (initial 0)).db.nodes.get? "node-1",
      n.status = .free := by decide
  intro h
  obtain ⟨n, hn, hb, hst⟩ := hblocked
  obtain ⟨n', hn', hst'⟩ := hfree
  obtain ⟨q, hq, hqst⟩ := h disabledRun [.disconnect "c1" 4,.connect (.device "node-1") "c2" 5] []
    (by simp) (by simp [byAdministrator]) "node-1" n hn hb
  obtain rfl := Option.some.inj (hn'.symm.trans hq)
  rw [hst, hst'] at hqst
  cases hqst

end CloudPlay.StickyBlocks
