import CloudPlay.LeaseTransitions
import CloudPlay.WireDecoding

/-!
# Server and client agree on every row

Along a run the client decodes every node and every lease and reads what the
row says, as long as no node announces capabilities that are not an object
and no heartbeat check ends a lease: the check writes an end reason which is
no choice of the column and which the client does not know.
-/

set_option autoImplicit false

namespace CloudPlay.WireAgreement
open KeyedTable ControlPlaneModels ControlPlaneSerializers ControlPlaneDatabase LeaseLifecycle
open ControlPlaneViews ControlPlaneConsumer ControlPlaneServer ControlPlaneEffects LeaseEnding
open NodeTransitions LeaseTransitions ControlPlaneJson WireDecoding TransitionRun

structure Agreement (r : Rendering) (db : Database) : Prop where
  nodes : ∀ n ∈ db.nodes, NodeAgrees r n
  leases : ∀ l ∈ db.leases, LeaseAgrees r l
  apart : ∀ l ∈ db.leases, ∀ l' ∈ db.leases, ∀ d d',
    ControlPlaneClientModels.Lease.fromJson (leaseJson r (serializeLease l)) = some d →
    ControlPlaneClientModels.Lease.fromJson (leaseJson r (serializeLease l')) = some d' →
    d.endReason = d'.endReason → l.endReason = l'.endReason

def LeasesKnown (db : Database) : Prop := ∀ l ∈ db.leases, KnownReason l.endReason

def NodesMapping (db : Database) : Prop := ∀ n ∈ db.nodes, Mapping n.capabilities

theorem agreement_iff (r : Rendering) (db : Database) :
    Agreement r db ↔ LeasesKnown db ∧ NodesMapping db := by
  constructor
  · intro h
    exact ⟨fun l hl => (lease_agrees_iff r l).mp (h.leases l hl),
      fun n hn => (node_agrees_iff r n).mp (h.nodes n hn)⟩
  · rintro ⟨hl, hn⟩
    have hleases : ∀ l ∈ db.leases, LeaseAgrees r l :=
      fun l hm => (lease_agrees_iff r l).mpr (hl l hm)
    refine ⟨fun n hm => (node_agrees_iff r n).mpr (hn n hm),hleases,?_⟩
    intro l hm l' hm' d d' hd hd' hsame
    obtain ⟨_, hjson, ha⟩ := hleases l hm
    obtain ⟨_, hjson', ha'⟩ := hleases l' hm'
    obtain rfl := Option.some.inj (hjson.symm.trans hd)
    obtain rfl := Option.some.inj (hjson'.symm.trans hd')
    exact reasons_apart r ha ha' hsame

/-- What keeps a step from writing a value the client cannot read: a node's
capabilities are null or an object, and a heartbeat check ends no lease. -/
def KeepsAgreement : Event → Server → Prop
  | .receive c (.nodeHello _ _ _ capabilities) _, s =>
    ∀ m ∈ s.connections.get? c, m.role = .device → m.deviceId ≠ none → Mapping capabilities
  | .checkHeartbeats timeout now, s => ∀ l ∈ s.db.leases, l.engaged = true → l.endedAt = none →
    ¬TakenDown l.deviceId now s.db (staleNodes s.db timeout now)
  | _, _ => True

section Leases
variable {db : Database}

theorem known_value (e : EndReason) : KnownReason (some e.value) := by
  intro s hs
  exact ⟨e,(Option.some.inj hs).symm⟩

theorem heartbeatTimeout_unknown : ¬KnownReason (some heartbeatTimeout) := by
  intro h
  obtain ⟨e, he⟩ := h heartbeatTimeout rfl
  cases e <;> exact absurd he (by decide)

theorem finish_known {reason : String} {t tz : Instant} {l : Lease}
    (h : KnownReason (some reason)) (hl : KnownReason l.endReason) :
    KnownReason (finish reason t tz l).endReason := by
  unfold finish
  split
  · exact hl
  · exact h

/-- A lease that the heartbeat check ends is one the client cannot read. -/
theorem checked_known (timeout : ℤ) (now : Instant)
    (h : LeasesKnown (takeDown now (staleNodes db timeout now) db).1) :
    ∀ l ∈ db.leases, l.engaged = true → l.endedAt = none →
      ¬TakenDown l.deviceId now db (staleNodes db timeout now) := by
  intro l hl hen hlive hdown
  have hrows := takeDown_leases now (staleNodes db timeout now)
    (fun n hn => by rw [staleNodes_rows db timeout now hn]; exact Option.some_ne_none n)
    (staleNodes_nodup db timeout now)
  have hmem : finish heartbeatTimeout now db.timeZone l ∈
      (takeDown now (staleNodes db timeout now) db).1.leases := by
    rw [Table.mem_rows, hrows, List.mem_map]
    exact ⟨l,hl,if_pos ⟨hdown,hen⟩⟩
  apply heartbeatTimeout_unknown
  have hreason := h _ hmem
  rwa [finish_live _ _ hlive] at hreason

theorem known_step (e : Event) (s : Server) (hk : LeasesKnown s.db) (hg : KeepsAgreement e s) :
    LeasesKnown (step e s).db := by
  intro l' hl'
  cases lease_origin e s l' hl' with
  | kept hl => exact hk l' hl
  | rented hi =>
    intro reason hr
    cases hr
  | finished hl => exact finish_known (known_value _) (hk _ hl)
  | timedOut hl hen hdown =>
    have hended := fun hlive => hg _ hl hen hlive hdown
    rw [finish_ended _ _ (Option.isSome_iff_ne_none.mpr hended)]
    exact hk _ hl
  | @ready c msg now l hl => exact hk l hl
  | @active c msg now l hl => exact hk l hl

end Leases

section Nodes

theorem known_mapping {db : Database} (hk : NodesMapping db) (d : String) (now : Instant) :
    Mapping (knownNode db d now).capabilities := by
  unfold knownNode
  cases hn : db.nodes.get? d with
  | none => trivial
  | some n => exact hk n (Table.get?_mem hn)

theorem change_mapping {e : Event} {s : Server} {d : String} {row row' : Option Node}
    (h : NodeChange s d e row row') (hk : NodesMapping s.db) (hg : KeepsAgreement e s)
    (hrow : ∀ n ∈ row, Mapping n.capabilities) : ∀ n ∈ row', Mapping n.capabilities := by
  intro n' hn'
  cases h with
  | same => exact hrow n' hn'
  | registered =>
    obtain rfl := Option.some.inj hn'
    trivial
  | deleted => cases hn'
  | connected =>
    obtain rfl := Option.some.inj hn'
    exact known_mapping hk d _
  | @hello c now m hello row hm hr hd =>
    obtain rfl := Option.some.inj hn'
    have hmapping := hg m hm hr (by rw [hd]; exact Option.some_ne_none d)
    cases hc : hello.capabilities with
    | none =>
      simp only [helloNode, hc, Option.orElse_none]
      exact known_mapping hk d now
    | some v =>
      rw [hc] at hmapping
      simp only [helloNode, hc, Option.orElse_some]
      exact hmapping
  | inUse =>
    obtain rfl := Option.some.inj hn'
    have hmapping := hrow _ (Option.mem_some_self _)
    unfold inUseNode
    split <;> exact hmapping
  | _ =>
    obtain rfl := Option.some.inj hn'
    have hmapping := hrow _ (Option.mem_some_self _)
    exact hmapping

theorem mapping_step (e : Event) (s : Server) (hk : NodesMapping s.db) (hg : KeepsAgreement e s) :
    NodesMapping (step e s).db := by
  intro n' hn'
  exact change_mapping (node_change e s n'.deviceId) hk hg (fun n hn => hk n (Table.get?_mem hn))
    n' ((Table.mem_iff_get? _ _).mp hn')

/-- Capabilities that are announced are stored as they are. -/
theorem hello_mapping {c region tier version : String} {capabilities : Option Json} {now : Instant}
    {s : Server} (h : NodesMapping
      (step (.receive c (.nodeHello region tier version capabilities) now) s).db)
    {m : ConnectionMeta} (hm : s.connections.get? c = some m) (hr : m.role = .device) {d : String}
    (hd : m.deviceId = some d) : Mapping capabilities := by
  have hafter : (step (.receive c (.nodeHello region tier version capabilities) now) s).db =
      updateNodeHello d ⟨region,tier,version,capabilities⟩ now s.db := by
    simp [step, handle, hm, handleMessage, hr, hd]
  have hrow := updateNodeHello_node s.db d ⟨region,tier,version,capabilities⟩ now d
  rw [if_pos rfl, ← hafter] at hrow
  have hmapping := h _ (Table.get?_mem hrow)
  cases capabilities with
  | none => trivial
  | some v => exact hmapping

end Nodes

/-- A step keeps the agreement of all rows exactly under the condition. -/
theorem agreement_step (r : Rendering) (e : Event) (s : Server) (h : Agreement r s.db) :
    Agreement r (step e s).db ↔ KeepsAgreement e s := by
  obtain ⟨hl, hn⟩ := (agreement_iff r s.db).mp h
  rw [agreement_iff]
  constructor
  · rintro ⟨hl', hn'⟩
    cases e with
    | receive c msg now =>
      cases msg with
      | nodeHello region tier version capabilities =>
        intro m hm hr hd
        obtain ⟨d, hd⟩ := Option.ne_none_iff_exists'.mp hd
        exact hello_mapping hn' hm hr hd
      | _ => trivial
    | checkHeartbeats timeout now => exact checked_known timeout now hl'
    | _ => trivial
  · intro hg
    exact ⟨known_step e s hl hg,mapping_step e s hn hg⟩

/-- In all states that a run reaches, the client decodes every row and reads
what the row says, exactly when each step of the run meets the condition. -/
theorem wire_agreement_run (r : Rendering) (timeZone : Instant) (es : List Event) :
    (∀ before after, es = before ++ after →
      Agreement r (run step before (initial timeZone)).db) ↔
      Meets step KeepsAgreement es (initial timeZone) := by
  have hinitial : Agreement r (initial timeZone).db := by
    rw [agreement_iff]
    exact ⟨fun l hl => absurd hl (Table.not_mem_empty l),
      fun n hn => absurd hn (Table.not_mem_empty n)⟩
  exact @always_iff_meets _ _ step KeepsAgreement (fun s => Agreement r s.db)
    (fun e s hs => agreement_step r e s hs) es _ hinitial

/-- A rented node falls silent and the heartbeat check ends its lease. -/
def silentRun : List Event :=
  [.connect (.device "node-1") "c1" 1,.receive "c1" (.nodeHello "cn" "a" "1.0" none) 2,
    .rent { id := 7, username := "ann" } ⟨"cn","a",.hour,1,none⟩ 3 (fun _ => (1,"token")),
    .checkHeartbeats 60 100000000]

/-- A node announces its capabilities as a list. -/
def listedRun : List Event :=
  [.connect (.device "node-1") "c1" 1,
    .receive "c1" (.nodeHello "cn" "a" "1.0" (some (.arr [.str "av1"]))) 2]

theorem unreadable_rows :
    (¬∃ r, Agreement r (run step silentRun (initial 0)).db) ∧
    ¬∃ r, Agreement r (run step listedRun (initial 0)).db := by
  constructor
  · rintro ⟨r, h⟩
    have hreasons : (run step silentRun (initial 0)).db.leases.rows.map Lease.endReason =
        [some heartbeatTimeout] := by decide
    have hknown := ((agreement_iff r _).mp h).1
    generalize (run step silentRun (initial 0)).db = db at hreasons hknown
    obtain ⟨l, hl, hreason⟩ := List.mem_map.mp (hreasons ▸ List.mem_singleton_self _)
    exact heartbeatTimeout_unknown (hreason ▸ hknown l hl)
  · rintro ⟨r, h⟩
    have hlists : (run step listedRun (initial 0)).db.nodes.rows.map Node.capabilities =
        [some (.arr [.str "av1"])] := rfl
    have hmapping := ((agreement_iff r _).mp h).2
    generalize (run step listedRun (initial 0)).db = db at hlists hmapping
    obtain ⟨n, hn, hlist⟩ := List.mem_map.mp (hlists ▸ List.mem_singleton_self _)
    have hfails := hmapping n hn
    rw [hlist] at hfails
    exact hfails

end CloudPlay.WireAgreement
