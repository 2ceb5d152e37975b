import CloudPlay.ExclusiveAssignment
import CloudPlay.NodeTransitions
import CloudPlay.StaleDisconnect

/-!
# The heartbeat checker among other requests

`check_node_heartbeats` queries the silent nodes once and takes them down one
by one, each in a transaction of its own that does not look at `last_seen`
again. Everything else the server does can happen in between. The time of
last sight changes only by a sign of life, so the checker hits silent nodes
as long as no node that is still on its list shows one.
-/

set_option autoImplicit false

namespace CloudPlay.HeartbeatChecker
open KeyedTable ControlPlaneModels ControlPlaneSerializers ControlPlaneDatabase LeaseLifecycle
open ControlPlaneViews ControlPlaneConsumer ControlPlaneServer ControlPlaneEffects LeaseEnding
open StepEffects NodeTransitions StaleDisconnect TransitionRun
open ExclusiveAssignment (rentedRun)

/-- The server with the state of one checker: its threshold and the part of
the query's result it has not processed yet. -/
structure Checking where
  server : Server
  threshold : Instant := 0
  remaining : List Node := []

inductive Action where
  | server (e : Event)
  | query (timeoutSeconds : ℤ) (now : Instant)
  | mark (now : Instant)

/-- The next query comes after the loop over the last one. -/
def checkStep : Action → Checking → Checking
  | .server e, c => { c with server := step e c.server }
  | .query timeoutSeconds now, c =>
    match c.remaining with
    | [] =>
      { c with
        threshold := now-timeoutSeconds*BillingRules.microseconds
        remaining := staleNodes c.server.db timeoutSeconds now }
    | _ => c
  | .mark now, c =>
    match c.remaining with
    | [] => c
    | n::rest =>
      match markNodeOfflineAndEndLeases n.deviceId heartbeatTimeout now c.server.db with
      | none => { c with remaining := [] }
      | some (db,_) => { c with server := { c.server with db := db }, remaining := rest }

/-- A node that is taken down has been silent since before the threshold. -/
def MarksSilent : Action → Checking → Prop
  | .mark now, c => ∀ n rest, c.remaining = n::rest → ∀ row ∈ c.server.db.nodes.get? n.deviceId,
    markNodeOfflineAndEndLeases n.deviceId heartbeatTimeout now c.server.db ≠ none →
      row.lastSeen < c.threshold
  | _, _ => True

/-- The event writes the time of last sight of `d`. -/
inductive SignOfLife (s : Server) (d : String) : Event → Instant → Prop
  | connected {c : String} {now : Instant} : s.connections.get? c = none → d ≠ "" → c ≠ "" →
      SignOfLife s d (.connect (.device d) c now) now
  | seen {c : String} {msg : ClientMessage} {now : Instant} : Session d s c → IsSignOfLife msg →
      SignOfLife s d (.receive c msg now) now
  | hello {c region gpuTier version : String} {capabilities : Option Json} {now : Instant} :
      Session d s c → SignOfLife s d (.receive c (.nodeHello region gpuTier version capabilities)
        now) now
  | ready {c : String} {id : Uuid} {claimed : Option String} {now : Instant}
      {m : ConnectionMeta} {l : Lease} : s.connections.get? c = some m → m.role = .device →
      claimedDevice m claimed = some d → l ∈ s.db.leases → l.leaseId = id → l.deviceId = d →
      Startable l → SignOfLife s d (.receive c (.leaseReady (.uuid id) claimed) now) now
  | disconnected {c : String} {now : Instant} : Session d s c → Covered d now s.db →
      SignOfLife s d (.disconnect c now) now
  | checked {timeout : ℤ} {now : Instant} :
      TakenDown d now s.db (staleNodes s.db timeout now) →
      SignOfLife s d (.checkHeartbeats timeout now) now
  | registered {now : Instant} : s.db.nodes.get? d = none →
      SignOfLife s d (.deviceToken d now) now

/-- No node on the list shows a sign of life from the threshold on. -/
def ListStaysSilent : Action → Checking → Prop
  | .server e, c => ∀ n ∈ c.remaining, ∀ t, SignOfLife c.server n.deviceId e t → t < c.threshold
  | _, _ => True

theorem change_lastSeen {s : Server} {d : String} {e : Event} {row : Option Node} {n' : Node}
    (h : NodeChange s d e row (some n')) (hrow : s.db.nodes.get? d = row) :
    (∃ n, row = some n ∧ n'.lastSeen = n.lastSeen) ∨ SignOfLife s d e n'.lastSeen := by
  cases h with
  | same => exact Or.inl ⟨n',rfl,rfl⟩
  | assigned => exact Or.inl ⟨_,rfl,rfl⟩
  | releasing => exact Or.inl ⟨_,rfl,rfl⟩
  | leaseForced => exact Or.inl ⟨_,rfl,rfl⟩
  | registered => exact Or.inr (.registered hrow)
  | stateSet => exact Or.inl ⟨_,rfl,rfl⟩
  | nodeForced => exact Or.inl ⟨_,rfl,rfl⟩
  | patched => exact Or.inl ⟨_,rfl,rfl⟩
  | connected hc hd hne => exact Or.inr (.connected hc hd hne)
  | disconnected hm hr hd hc => exact Or.inr (.disconnected ⟨_,hm,hr,hd⟩ hc)
  | seen hm hr hd hlife => exact Or.inr (.seen ⟨_,hm,hr,hd⟩ hlife)
  | hello hm hr hd => exact Or.inr (.hello ⟨_,hm,hr,hd⟩)
  | @inUse c id claimed now m l n hm hr hd hl hid hown hst =>
    cases hb : n.blocked with
    | true => exact Or.inl ⟨n,rfl,by simp [inUseNode, hb]⟩
    | false =>
      have hseen : (inUseNode now n).lastSeen = now := by simp [inUseNode, hb]
      rw [hseen]
      exact Or.inr (.ready hm hr hd hl hid hown hst)
  | takenDown hn ht => exact Or.inr (.checked ht)

/-- What the checker relies on: its list names silent nodes, each once. -/
structure Silent (c : Checking) : Prop where
  rows : ∀ n ∈ c.remaining, ∀ row, c.server.db.nodes.get? n.deviceId = some row →
    row.lastSeen < c.threshold
  nodup : (c.remaining.map Node.deviceId).Nodup

theorem silent_step (a : Action) (c : Checking) (hg : ListStaysSilent a c) (h : Silent c) :
    Silent (checkStep a c) := by
  cases a with
  | server e =>
    refine ⟨fun n hn row hrow => ?_,h.nodup⟩
    have hchange := node_change e c.server n.deviceId
    rw [show (step e c.server).db.nodes.get? n.deviceId = some row from hrow] at hchange
    rcases change_lastSeen hchange rfl with ⟨q, hq, hseen⟩ | hlife
    · rw [hseen]
      exact h.rows n hn q hq
    · exact hg n hn _ hlife
  | query timeout now =>
    simp only [checkStep]
    split
    · refine ⟨fun n hn row hrow => ?_,staleNodes_nodup c.server.db timeout now⟩
      obtain rfl := Option.some.inj ((staleNodes_rows c.server.db timeout now hn).symm.trans hrow)
      have hstale := (List.mem_filter.mp hn).2
      simp only [Bool.and_eq_true, decide_eq_true_eq] at hstale
      exact hstale.1
    · exact h
  | mark now =>
    simp only [checkStep]
    split
    · exact h
    · rename_i n rest hrem
      have hnd := h.nodup
      rw [hrem, List.map_cons, List.nodup_cons] at hnd
      split
      · exact ⟨by simp,List.nodup_nil⟩
      · rename_i db sends hmark
        refine ⟨fun q hq row hrow => ?_,hnd.2⟩
        have hne : q.deviceId ≠ n.deviceId := fun hid => hnd.1 (hid ▸ List.mem_map_of_mem hq)
        dsimp only at hrow
        rw [markOffline_node hmark, if_neg hne] at hrow
        exact h.rows q (hrem ▸ List.mem_cons_of_mem _ hq) row hrow

/-- In a run in which the nodes on the list stay silent until their turn, the
checker takes down silent nodes only. -/
theorem marks_silent_run (timeZone : Instant) (as : List Action)
    (h : Meets checkStep ListStaysSilent as { server := initial timeZone }) :
    Meets checkStep MarksSilent as { server := initial timeZone } := by
  refine meets_of_invariant checkStep silent_step ?_ as _ h ⟨by simp,by simp⟩
  intro a c hg hs
  cases a with
  | mark now =>
    intro n rest hrem row hrow _
    exact hs.rows n (hrem ▸ List.mem_cons_self) row hrow
  | _ => trivial

/-- A rented node misses its heartbeats. -/
def lateRun : List Action := rentedRun.map .server ++ [.query 60 100000000]

theorem silent_node_marked :
    Meets checkStep MarksSilent (lateRun ++ [.mark 100000001]) { server := initial 0 } ∧
    ∃ n ∈ (run checkStep (lateRun ++ [.mark 100000001])
      { server := initial 0 }).server.db.nodes.rows, n.status = .offline := by
  refine ⟨marks_silent_run 0 _ ?_,by decide⟩
  have hquiet (c : Checking) (e : Event) (hc : c.remaining = []) :
      ListStaysSilent (.server e) c := by
    intro n hn
    simp [hc] at hn
  exact ⟨hquiet _ _ rfl,hquiet _ _ rfl,hquiet _ _ rfl,trivial,trivial,trivial⟩

/-- The heartbeat comes between the query and the takedown. -/
def heardRun : List Action := lateRun ++ [.server (.receive "c1" .nodeHeartbeat 100000001)]

theorem live_node_marked :
    ¬Meets checkStep MarksSilent (heardRun ++ [.mark 100000002]) { server := initial 0 } ∧
    ∃ l ∈ (run checkStep (heardRun ++ [.mark 100000002])
      { server := initial 0 }).server.db.leases.rows, l.endReason = some heartbeatTimeout := by
  refine ⟨fun h => ?_,by decide⟩
  have hmark := ((meets_append checkStep _ heardRun [.mark 100000002] _).mp h).2.1
  have hheard : ∃ n ∈ (run checkStep heardRun { server := initial 0 }).remaining.head?,
      ∃ row ∈ (run checkStep heardRun { server := initial 0 }).server.db.nodes.get? n.deviceId,
      (markNodeOfflineAndEndLeases n.deviceId heartbeatTimeout 100000002
        (run checkStep heardRun { server := initial 0 }).server.db).isSome ∧
      ¬row.lastSeen < (run checkStep heardRun { server := initial 0 }).threshold := by
    decide
  obtain ⟨n, hn, row, hrow, hsome, hlate⟩ := hheard
  refine hlate (hmark n _ (List.eq_cons_of_mem_head? hn) row hrow ?_)
  exact Option.isSome_iff_ne_none.mp hsome

end CloudPlay.HeartbeatChecker
