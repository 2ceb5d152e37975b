import CloudPlay.ExclusiveAssignment
import CloudPlay.WrittenRows

/-!
# Who can mark a lease ready

`lease_ready` starts the billing of a lease. The handler looks the lease up
under the device id of the payload when there is one, and under the
authenticated device otherwise. A payload without another device's id can
only touch a live lease of the sender and the sender's own node.
-/

set_option autoImplicit false

namespace CloudPlay.LeaseReadyOwnership
open KeyedTable ControlPlaneModels ControlPlaneSerializers ControlPlaneDatabase LeaseLifecycle
open ControlPlaneConsumer ControlPlaneServer ControlPlanePrograms ExclusiveAssignment
open TransitionRun WrittenRows

/-- The rows that the handler saves. -/
def readyWrites (m : ConnectionMeta) (ref : LeaseRef) (device : Option String) (now : Instant)
    (db : Database) : List Row :=
  match ref, claimedDevice m device with
  | .uuid id, some d => (leaseReadyProgram id d).written ⟨db,now⟩
  | _, _ => []

/-- What the message of device `D` may do: write a live lease of `D`, and the
row of node `D` when the lease it names is one. A row that is saved is changed. -/
structure OwnRowsOnly (D : String) (ref : LeaseRef) (db db' : Database) (written : List Row) :
    Prop where
  leases : ∀ l ∈ db.leases, l ∉ db'.leases ∨ .lease l.leaseId ∈ written →
    l.endedAt = none ∧ l.deviceId = D
  nodes : ∀ n ∈ db.nodes, n ∉ db'.nodes ∨ .node n.deviceId ∈ written → n.deviceId = D ∧
    ∃ l ∈ db.leases, ref = .uuid l.leaseId ∧ l.endedAt = none ∧ l.deviceId = D
  records : db'.billingRecords = db.billingRecords

/-- The payload names another device and a lease of it that still runs. -/
def Misdirected (D : String) (ref : LeaseRef) (device : Option String) (db : Database) : Prop :=
  ∃ l ∈ db.leases, ref = .uuid l.leaseId ∧ device = some l.deviceId ∧ l.deviceId ≠ "" ∧
    l.deviceId ≠ D ∧ Startable l

section Message
variable {D : String} {now : Instant} {db : Database}

theorem ownRowsOnly_refl (ref : LeaseRef) (db : Database) : OwnRowsOnly D ref db db [] := by
  refine ⟨fun l hl h => ?_,fun n hn h => ?_,rfl⟩
  · exact absurd hl (h.resolve_right List.not_mem_nil)
  · exact absurd hn (h.resolve_right List.not_mem_nil)

/-- The message that writes: the lease is found under the device id used. -/
theorem markLeaseReady_writes {l : Lease} (hl : l ∈ db.leases) (hs : Startable l) :
    (markLeaseReady l.leaseId l.deviceId now db).1 =
      (db.updateLease l.leaseId (readyLease now) (readyLease_leaseId now)).updateNode l.deviceId
        (inUseNode now) (inUseNode_deviceId now) := by
  simp [markLeaseReady, (db.leases.mem_iff_get? l).mp hl, hs]

theorem markLeaseReady_lease {l q : Lease} (hl : l ∈ db.leases) (hs : Startable l)
    (hq : q ∈ db.leases) (hno : q ∉ (markLeaseReady l.leaseId l.deviceId now db).1.leases) :
    q.leaseId = l.leaseId := by
  by_contra hid
  refine hno ?_
  rw [markLeaseReady_writes hl hs]
  exact (Database.kept_updateLease db _ _ (readyLease_leaseId now) hq).mpr (absurd · hid)

theorem markLeaseReady_node {l : Lease} {n : Node} (hl : l ∈ db.leases) (hs : Startable l)
    (hn : n ∈ db.nodes) (hno : n ∉ (markLeaseReady l.leaseId l.deviceId now db).1.nodes) :
    n.deviceId = l.deviceId := by
  by_contra hd
  refine hno ?_
  rw [markLeaseReady_writes hl hs]
  exact (Database.kept_updateNode _ _ _ (inUseNode_deviceId now) hn).mpr (absurd · hd)

theorem mem_readyWrites {l : Lease} (hl : l ∈ db.leases) (hs : Startable l) (row : Row) :
    row ∈ (leaseReadyProgram l.leaseId l.deviceId).written ⟨db,now⟩ ↔ row = .lease l.leaseId ∨
      row = .node l.deviceId ∧ ∃ n ∈ db.nodes, n.deviceId = l.deviceId ∧ n.blocked = false := by
  simp [written_leaseReady, (db.leases.mem_iff_get? l).mp hl, hs, mem_markedRows]

theorem markLeaseReady_records (id : Uuid) (d : String) :
    (markLeaseReady id d now db).1.billingRecords = db.billingRecords := by
  unfold markLeaseReady
  split
  · rfl
  · split
    · rfl
    · split <;> rfl

theorem markLeaseReady_idle {id : Uuid} {d : String}
    (h : ∀ l ∈ db.leases, l.leaseId = id → l.deviceId = d → ¬Startable l) :
    (markLeaseReady id d now db).1 = db := by
  unfold markLeaseReady
  split
  · rfl
  · rename_i l hl
    have hmem := Table.get?_mem hl
    split
    · rfl
    · rename_i hd
      rw [not_not] at hd
      rw [if_pos (h l hmem (Table.get?_key hl) hd)]

theorem readyWrites_idle {id : Uuid} {d : String}
    (h : ∀ l ∈ db.leases, l.leaseId = id → l.deviceId = d → ¬Startable l) :
    (leaseReadyProgram id d).written ⟨db,now⟩ = [] := by
  rw [written_leaseReady]
  cases hl : db.leases.get? id with
  | none => rfl
  | some l =>
    refine if_pos ?_
    by_cases hd : l.deviceId = d
    · exact Or.inr (h l (Table.get?_mem hl) (Table.get?_key hl) hd)
    · exact Or.inl hd

theorem ready_ownRows {l : Lease} (hl : l ∈ db.leases) (hs : Startable l)
    (hset : Settled l) (hd : l.deviceId = D) :
    OwnRowsOnly D (.uuid l.leaseId) db (markLeaseReady l.leaseId l.deviceId now db).1
      ((leaseReadyProgram l.leaseId l.deviceId).written ⟨db,now⟩) := by
  have hlive : l.endedAt = none := by
    have hne : l.status ≠ .ended := by
      rcases hs with h | h | h <;> simp [h]
    cases he : l.endedAt with
    | none => rfl
    | some t => exact absurd (hset.2.mp (by simp [he])) hne
  refine ⟨fun q hq h => ?_,fun n hn h => ?_,markLeaseReady_records _ _⟩
  · have hid : q.leaseId = l.leaseId := by
      rcases h with hgone | hsaved
      · exact markLeaseReady_lease hl hs hq hgone
      · rcases (mem_readyWrites hl hs _).mp hsaved with hrow | ⟨hrow, -⟩
        · exact Row.lease.inj hrow
        · cases hrow
    rw [db.leases.key_injective hq hl hid]
    exact ⟨hlive,hd⟩
  · have hid : n.deviceId = l.deviceId := by
      rcases h with hgone | hsaved
      · exact markLeaseReady_node hl hs hn hgone
      · rcases (mem_readyWrites hl hs _).mp hsaved with hrow | ⟨hrow, -⟩
        · cases hrow
        · exact Row.node.inj hrow
    exact ⟨hid.trans hd,l,hl,rfl,hlive,hd⟩

/-- A lease that is found is saved, whatever it looks like. -/
theorem ready_foreign {l : Lease} (hl : l ∈ db.leases) (hs : Startable l)
    (hd : l.deviceId ≠ D) :
    ¬OwnRowsOnly D (.uuid l.leaseId) db (markLeaseReady l.leaseId l.deviceId now db).1
      ((leaseReadyProgram l.leaseId l.deviceId).written ⟨db,now⟩) :=
  fun h => hd (h.leases l hl (Or.inr ((mem_readyWrites hl hs _).mpr (Or.inl rfl)))).2

end Message

/-- The device id under which the handler looks the lease up. -/
theorem claimedDevice_eq {m : ConnectionMeta} {D : String} (hm : m.deviceId = some D)
    (device : Option String) :
    (device = none ∨ device = some "") ∧ claimedDevice m device = some D ∨
    ∃ d, d ≠ "" ∧ device = some d ∧ claimedDevice m device = some d := by
  cases device with
  | none => exact Or.inl ⟨Or.inl rfl,hm⟩
  | some d =>
    by_cases hd : d = ""
    · exact Or.inl ⟨Or.inr (congrArg some hd),by simp [claimedDevice, hd, hm]⟩
    · exact Or.inr ⟨d,hd,rfl,by simp [claimedDevice, hd]⟩

theorem receive_leaseReady_db {s : Server} {c : String} {m : ConnectionMeta}
    (hc : s.connections.get? c = some m) (hr : m.role = .device) (id : Uuid)
    (device : Option String) (now : Instant) {d : String}
    (hd : claimedDevice m device = some d) :
    (step (.receive c (.leaseReady (.uuid id) device) now) s).db =
      (markLeaseReady id d now s.db).1 := by
  simp only [step, handle, hc, handleMessage, hr, handleLeaseReady, hd]
  split <;> rfl

theorem receive_no_lease_db {s : Server} {c : String} {m : ConnectionMeta}
    (hc : s.connections.get? c = some m) (hr : m.role = .device) {ref : LeaseRef}
    (href : ∀ id, ref ≠ .uuid id) (device : Option String) (now : Instant) :
    (step (.receive c (.leaseReady ref device) now) s).db = s.db := by
  simp only [step, handle, hc, handleMessage, hr, handleLeaseReady]
  cases ref with
  | absent => rfl
  | malformed => cases claimedDevice m device <;> rfl
  | uuid id => exact absurd rfl (href id)

/-- A message of device `D` keeps to the rows of `D` exactly when it is not
misdirected to a running lease of another device. -/
theorem leaseReady_own_iff {s : Server} (hs : ServerReachable s) {c D : String}
    {m : ConnectionMeta} (hc : s.connections.get? c = some m) (hr : m.role = .device)
    (hm : m.deviceId = some D) (ref : LeaseRef) (device : Option String) (now : Instant) :
    OwnRowsOnly D ref s.db (step (.receive c (.leaseReady ref device) now) s).db
        (readyWrites m ref device now s.db) ↔ ¬Misdirected D ref device s.db := by
  by_cases href : ∃ id, ref = .uuid id
  · obtain ⟨id, rfl⟩ := href
    obtain ⟨d, hd⟩ : ∃ d, claimedDevice m device = some d := by
      rcases claimedDevice_eq hm device with ⟨-, h⟩ | ⟨d, -, -, h⟩
      · exact ⟨D,h⟩
      · exact ⟨d,h⟩
    have hwrites : readyWrites m (.uuid id) device now s.db =
        (leaseReadyProgram id d).written ⟨s.db,now⟩ := by
      simp only [readyWrites, hd]
    rw [receive_leaseReady_db hc hr id device now hd, hwrites]
    by_cases hw : ∃ l ∈ s.db.leases, l.leaseId = id ∧ l.deviceId = d ∧ Startable l
    · obtain ⟨l, hl, rfl, rfl, hstart⟩ := hw
      by_cases hown : l.deviceId = D
      · refine iff_of_true (ready_ownRows hl hstart (consistent_reachable hs l hl) hown) ?_
        rintro ⟨q, hq, hid, -, -, hne, -⟩
        rw [s.db.leases.key_injective hl hq (LeaseRef.uuid.inj hid)] at hown
        exact hne hown
      · refine iff_of_false (ready_foreign hl hstart hown) (not_not.mpr ?_)
        rcases claimedDevice_eq hm device with ⟨-, h⟩ | ⟨d, hne, hdev, h⟩
        · exact absurd (Option.some.inj (hd.symm.trans h)) hown
        · rw [← Option.some.inj (hd.symm.trans h)] at hne hdev
          exact ⟨l,hl,rfl,hdev,hne,hown,hstart⟩
    · have hidle : ∀ l ∈ s.db.leases, l.leaseId = id → l.deviceId = d → ¬Startable l :=
        fun l hl hid hld hst => hw ⟨l,hl,hid,hld,hst⟩
      rw [markLeaseReady_idle hidle, readyWrites_idle hidle]
      refine iff_of_true (ownRowsOnly_refl _ _) ?_
      rintro ⟨l, hl, hid, hdev, hne, -, hst⟩
      refine hw ⟨l,hl,(LeaseRef.uuid.inj hid).symm,?_,hst⟩
      rw [hdev] at hd
      simpa [claimedDevice, hne] using hd
  · have hno : ∀ id, ref ≠ .uuid id := fun id h => href ⟨id,h⟩
    have hwrites : readyWrites m ref device now s.db = [] := by
      cases ref with
      | uuid id => exact absurd rfl (hno id)
      | absent => rfl
      | malformed => rfl
    rw [receive_no_lease_db hc hr hno, hwrites]
    refine iff_of_true (ownRowsOnly_refl _ _) ?_
    rintro ⟨l, -, h, -⟩
    exact hno _ h

/-- A second node comes up beside the rented one. -/
def twoNodesRun : List Event := rentedRun ++ [.connect (.device "node-2") "c2" 4]

theorem own_ready_message :
    OwnRowsOnly "node-2" (.uuid 1) (run step twoNodesRun (initial 0)).db
      (step (.receive "c2" (.leaseReady (.uuid 1) none) 5) (run step twoNodesRun (initial 0))).db
      (readyWrites (deviceMeta "node-2" "c2") (.uuid 1) none 5
        (run step twoNodesRun (initial 0)).db) :=
  (leaseReady_own_iff (c := "c2") (m := deviceMeta "node-2" "c2") ⟨0,twoNodesRun,rfl⟩
    (by decide) rfl rfl (.uuid 1) none 5).mpr (by rintro ⟨_, _, _, h, _⟩; cases h)

/-- The second node starts the lease of the first: the row of the lease itself is another. -/
theorem foreign_ready_message :
    ServerReachable (run step twoNodesRun (initial 0)) ∧
    (run step twoNodesRun (initial 0)).connections.get? "c2" =
      some (deviceMeta "node-2" "c2") ∧
    ¬OwnRowsOnly "node-2" (.uuid 1) (run step twoNodesRun (initial 0)).db
      (step (.receive "c2" (.leaseReady (.uuid 1) (some "node-1")) 5)
        (run step twoNodesRun (initial 0))).db
      (readyWrites (deviceMeta "node-2" "c2") (.uuid 1) (some "node-1") 5
        (run step twoNodesRun (initial 0)).db) := by
  refine ⟨⟨0,twoNodesRun,rfl⟩,by decide,fun h => ?_⟩
  have hstarted : ∃ l ∈ (run step twoNodesRun (initial 0)).db.leases.rows,
      l ∉ (step (.receive "c2" (.leaseReady (.uuid 1) (some "node-1")) 5)
        (run step twoNodesRun (initial 0))).db.leases.rows ∧ l.deviceId ≠ "node-2" := by
    decide
  obtain ⟨l, hl, hno, hd⟩ := hstarted
  exact hd (h.leases l hl (Or.inl hno)).2

end CloudPlay.LeaseReadyOwnership
