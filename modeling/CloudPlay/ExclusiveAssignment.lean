import CloudPlay.StepEffects

/-!
# One live lease on a node

A step other than renting only lets live leases end and marks a node FREE
only when no lease of it is live. Renting puts a lease on FREE nodes alone.
The exception is the administrator's FREE, which consults no lease; a run
keeps assignment exclusive when that request is made for idle nodes only.
-/

set_option autoImplicit false

namespace CloudPlay.ExclusiveAssignment
open KeyedTable ControlPlaneModels ControlPlaneSerializers ControlPlaneDatabase LeaseLifecycle
open ControlPlaneViews ControlPlaneConsumer ControlPlaneServer ControlPlaneEffects LeaseEnding
open StepEffects TransitionRun

/-- No lease of the device is live. -/
def Idle (db : Database) (deviceId : String) : Prop :=
  ∀ l ∈ db.leases, l.deviceId = deviceId → l.endedAt.isSome

instance (db : Database) (deviceId : String) : Decidable (Idle db deviceId) :=
  inferInstanceAs (Decidable (∀ l ∈ db.leases, l.deviceId = deviceId → l.endedAt.isSome))

structure Exclusive (db : Database) : Prop where
  single : ∀ l ∈ db.leases, ∀ l' ∈ db.leases, l.endedAt = none → l'.endedAt = none →
    l.deviceId = l'.deviceId → l = l'
  free : ∀ n ∈ db.nodes, n.status = .free → Idle db n.deviceId

/-- A lease is ENDED exactly when it has an end, and never PENDING. -/
def Settled (l : Lease) : Prop :=
  l.status ≠ .pending ∧ (l.endedAt.isSome ↔ l.status = .ended)

def Consistent (db : Database) : Prop := ∀ l ∈ db.leases, Settled l

structure LeaseMove (l l' : Lease) : Prop where
  leaseId : l'.leaseId = l.leaseId
  deviceId : l'.deviceId = l.deviceId
  ended : l.endedAt.isSome → l'.endedAt.isSome
  settled : Settled l → Settled l'

structure Shrinks (db db' : Database) : Prop where
  lease : ∀ l' ∈ db'.leases, ∃ l ∈ db.leases, LeaseMove l l'
  free : ∀ n' ∈ db'.nodes, n'.status = .free →
    (∃ n ∈ db.nodes, n.deviceId = n'.deviceId ∧ n.status = .free) ∨ Idle db' n'.deviceId

theorem LeaseMove.refl (l : Lease) : LeaseMove l l := ⟨rfl,rfl,id,id⟩

theorem LeaseMove.trans {l l' l'' : Lease} (h : LeaseMove l l') (h' : LeaseMove l' l'') :
    LeaseMove l l'' :=
  ⟨h'.leaseId.trans h.leaseId,h'.deviceId.trans h.deviceId,fun he => h'.ended (h.ended he),
    fun hs => h'.settled (h.settled hs)⟩

section Shrinking
variable {db db' db'' : Database}

theorem Shrinks.idle (h : Shrinks db db') {d : String} (hd : Idle db d) : Idle db' d := by
  intro l' hl' hld
  obtain ⟨l, hl, hm⟩ := h.lease l' hl'
  exact hm.ended (hd l hl (hm.deviceId.symm.trans hld))

theorem Shrinks.trans (h : Shrinks db db') (h' : Shrinks db' db'') : Shrinks db db'' where
  lease l'' hl'' := by
    obtain ⟨l', hl', hm'⟩ := h'.lease l'' hl''
    obtain ⟨l, hl, hm⟩ := h.lease l' hl'
    exact ⟨l,hl,hm.trans hm'⟩
  free n'' hn'' hfree := by
    rcases h'.free n'' hn'' hfree with ⟨n', hn', hd, hf⟩ | hidle
    · rcases h.free n' hn' hf with ⟨n, hn, hd', hf'⟩ | hidle
      · exact Or.inl ⟨n,hn,hd'.trans hd,hf'⟩
      · exact Or.inr (hd ▸ h'.idle hidle)
    · exact Or.inr hidle

theorem SameRows.shrinks (h : SameRows db db') : Shrinks db db' where
  lease l' hl' := ⟨l',h.leases ▸ hl',LeaseMove.refl l'⟩
  free n' hn' hfree := Or.inl ⟨n',h.nodes ▸ hn',rfl,hfree⟩

theorem shrinks_refl (db : Database) : Shrinks db db := SameRows.shrinks (SameRows.refl db)

theorem Shrinks.consistent (h : Shrinks db db') (hc : Consistent db) : Consistent db' := by
  intro l' hl'
  obtain ⟨l, hl, hm⟩ := h.lease l' hl'
  exact hm.settled (hc l hl)

theorem LeaseMove.live {l l' : Lease} (h : LeaseMove l l') (hl : l'.endedAt = none) :
    l.endedAt = none := by
  cases he : l.endedAt with
  | none => rfl
  | some t =>
    have hs := h.ended (by simp [he])
    simp [hl] at hs

theorem Shrinks.exclusive (h : Shrinks db db') (he : Exclusive db) : Exclusive db' where
  single l hl l' hl' hlive hlive' hd := by
    obtain ⟨q, hq, hm⟩ := h.lease l hl
    obtain ⟨q', hq', hm'⟩ := h.lease l' hl'
    have hsame : q = q' := he.single q hq q' hq' (hm.live hlive) (hm'.live hlive')
      (hm.deviceId.symm.trans (hd.trans hm'.deviceId))
    exact db'.leases.key_injective hl hl'
      (hm.leaseId.trans ((congrArg Lease.leaseId hsame).trans hm'.leaseId.symm))
  free n' hn' hfree := by
    rcases h.free n' hn' hfree with ⟨n, hn, hd, hf⟩ | hidle
    · exact h.idle (hd ▸ he.free n hn hf)
    · exact hidle

/-- A node update shrinks when it grants FREE only to idle nodes. -/
theorem updateNode_shrinks (db : Database) (d : String) (f : Node → Node)
    (hf : ∀ n, (f n).deviceId = n.deviceId)
    (hfree : ∀ n, db.nodes.get? d = some n → (f n).status = .free →
      n.status = .free ∨ Idle db d) : Shrinks db (db.updateNode d f hf) where
  lease l' hl' := ⟨l',hl',LeaseMove.refl l'⟩
  free n' hn' hs := by
    rw [Database.updateNode_nodes, Table.mem_modify] at hn'
    obtain ⟨n, hn, rfl⟩ := hn'
    by_cases hd : n.deviceId = d
    · rw [if_pos hd] at hs ⊢
      rcases hfree n (hd ▸ (db.nodes.mem_iff_get? n).mp hn) hs with h | h
      · exact Or.inl ⟨n,hn,(hf n).symm,h⟩
      · exact Or.inr ((hf n).symm ▸ hd.symm ▸ h)
    · rw [if_neg hd] at hs ⊢
      exact Or.inl ⟨n,hn,rfl,hs⟩

theorem updateLease_shrinks (db : Database) (i : Uuid) (f : Lease → Lease)
    (hf : ∀ l, (f l).leaseId = l.leaseId)
    (hmove : ∀ l, db.leases.get? i = some l → LeaseMove l (f l)) :
    Shrinks db (db.updateLease i f hf) where
  lease l' hl' := by
    rw [Database.updateLease_leases, Table.mem_modify] at hl'
    obtain ⟨l, hl, rfl⟩ := hl'
    by_cases hi : l.leaseId = i
    · rw [if_pos hi]
      exact ⟨l,hl,hmove l (hi ▸ (db.leases.mem_iff_get? l).mp hl)⟩
    · rw [if_neg hi]
      exact ⟨l,hl,LeaseMove.refl l⟩
  free n' hn' hs := Or.inl ⟨n',hn',rfl,hs⟩

theorem finishIn_move (reason : String) (t tz : Instant) (ids : List Uuid) (l : Lease) :
    LeaseMove l (finishIn reason t ids tz l) := by
  by_cases hi : l.leaseId ∈ ids
  · cases he : l.endedAt with
    | none =>
      have h : finishIn reason t ids tz l = settle reason t tz l := by
        simp [finishIn, hi, finish_live reason t he]
      rw [h]
      exact ⟨rfl,rfl,fun _ => rfl,fun _ => ⟨by simp [settle],by simp [settle]⟩⟩
    | some u =>
      have h : finishIn reason t ids tz l = l := by
        simp [finishIn, finish_ended reason t (l := l) (by simp [he])]
      rw [h]
      exact LeaseMove.refl l
  · simp only [finishIn, if_neg hi]
    exact LeaseMove.refl l

theorem ends_shrinks {reason : String} {t : Instant} {ids : List Uuid}
    (h : Ends reason t ids db db') : Shrinks db db' where
  lease l' hl' := by
    obtain ⟨l, hl, rfl⟩ := (h.mem l').mp hl'
    exact ⟨l,hl,finishIn_move reason t db.timeZone ids l⟩
  free n' hn' hs := Or.inl ⟨n',h.nodes ▸ hn',rfl,hs⟩

theorem setStatus_shrinks (db : Database) (d : String) (st : NodeStatus)
    (h : st = .free → Idle db d) : Shrinks db (db.setNodeStatus d st) :=
  updateNode_shrinks db d _ _ (fun _ _ hs => Or.inr (h hs))

theorem setReleasing_shrinks (db : Database) (d : String) : Shrinks db (setReleasing db d) := by
  rcases setReleasing_cases db d with h | ⟨_, -, -, h⟩ <;> rw [h]
  · exact shrinks_refl db
  · exact setStatus_shrinks db d .releasing (by simp)

/-- A node that is inserted as OFFLINE has no say. -/
theorem insertNode_shrinks (db : Database) (n : Node) (h : db.nodes.get? n.deviceId = none)
    (hs : n.status = .offline) : Shrinks db { db with nodes := db.nodes.insert n h } where
  lease l' hl' := ⟨l',hl',LeaseMove.refl l'⟩
  free n' hn' hfree := by
    rcases (Table.mem_insert db.nodes n n' h).mp hn' with hn' | rfl
    · exact Or.inl ⟨n',hn',rfl,hfree⟩
    · simp [hs] at hfree

theorem getOrCreateNode_shrinks (db : Database) (d : String) (now : Instant) :
    Shrinks db (db.getOrCreateNode d now) := by
  unfold Database.getOrCreateNode
  split
  · exact insertNode_shrinks db _ _ rfl
  · exact shrinks_refl db

/-- The `.exists()` test sees every live lease of the device. -/
theorem idle_of_not_engaged (hc : Consistent db) {d : String}
    (h : hasEngagedLease db d = false) : Idle db d := by
  intro l hl hd
  have hne : l.engaged = false := by
    simp only [hasEngagedLease, List.any_eq_false, Bool.and_eq_true, decide_eq_true_eq,
      not_and, Bool.not_eq_true] at h
    exact h l hl hd
  have hs := hc l hl
  by_contra hlive
  have he := (engaged_iff l).mpr ⟨hs.1,fun h => hlive (hs.2.mpr h)⟩
  simp [hne] at he

theorem nodeConnected_shrinks (hc : Consistent db) (d c : String) (now : Instant) :
    Shrinks db (nodeConnected d c now db) := by
  refine (getOrCreateNode_shrinks db d now).trans (updateNode_shrinks _ d _ _ ?_)
  intro n _ hs
  simp only [connectedNode] at hs
  split at hs
  · exact Or.inl hs
  · rename_i hna
    rw [Bool.or_eq_true, not_or, Bool.not_eq_true, Bool.not_eq_true] at hna
    exact Or.inr ((getOrCreateNode_shrinks db d now).idle (idle_of_not_engaged hc hna.2))

theorem updateNodeHello_shrinks (hc : Consistent db) (d : String) (hello : NodeHello)
    (now : Instant) : Shrinks db (updateNodeHello d hello now db) := by
  refine (getOrCreateNode_shrinks db d now).trans (updateNode_shrinks _ d _ _ ?_)
  intro n _ hs
  simp only [helloNode] at hs
  split at hs
  · rename_i h
    exact Or.inr ((getOrCreateNode_shrinks db d now).idle (idle_of_not_engaged hc h.2))
  · exact Or.inl hs

theorem markLeaseReady_shrinks (id : Uuid) (d : String) (now : Instant) (db : Database) :
    Shrinks db (markLeaseReady id d now db).1 := by
  unfold markLeaseReady
  split
  · exact shrinks_refl db
  · rename_i l hl
    split
    · exact shrinks_refl db
    · split
      · exact shrinks_refl db
      · rename_i hst
        rw [not_not] at hst
        refine (updateLease_shrinks db id (readyLease now) (readyLease_leaseId now) ?_).trans
          (updateNode_shrinks _ d _ _ ?_)
        · intro q hq
          obtain rfl : l = q := Option.some.inj (hl.symm.trans hq)
          refine ⟨rfl,rfl,fun he => he,fun hs => ⟨by simp [readyLease],?_⟩⟩
          have hne : l.status ≠ .ended := by
            rcases hst with h | h | h <;> simp [h]
          simp [readyLease, hs.2, hne]
        · intro n _ hs
          unfold inUseNode at hs
          split at hs
          · exact Or.inl hs
          · simp at hs

theorem setLeaseActive_shrinks {id : Uuid} {user : Option UserId} {l : Lease}
    (h : authorizeLeaseStream id user db = some l) : Shrinks db (setLeaseActive id db) := by
  refine updateLease_shrinks db id activeLease activeLease_leaseId ?_
  simp only [authorizeLeaseStream, Option.filter_eq_some_iff, Bool.and_eq_true,
    decide_eq_true_eq] at h
  intro q hq
  obtain rfl : l = q := Option.some.inj (h.1.symm.trans hq)
  refine ⟨rfl,rfl,fun he => he,fun hs => ⟨by simp [activeLease],?_⟩⟩
  have hne : l.status ≠ .ended := by
    rcases h.2.2 with h | h <;> simp [h]
  simp [activeLease, hs.2, hne]

theorem messageEffect_shrinks {m : ConnectionMeta} {msg : ClientMessage} {now : Instant}
    (hc : Consistent db) (h : MessageEffect m msg now db db') : Shrinks db db' := by
  cases h with
  | none => exact shrinks_refl db
  | seen d => exact updateNode_shrinks db d _ _ (fun _ _ hs => Or.inl hs)
  | hello d hello => exact updateNodeHello_shrinks hc d hello now
  | ready id claimed d => exact markLeaseReady_shrinks id d now db
  | active id l _ hl => exact setLeaseActive_shrinks hl

theorem markOffline_shrinks {d reason : String} {now : Instant} {sends : List Send}
    (h : markNodeOfflineAndEndLeases d reason now db = some (db',sends)) : Shrinks db db' := by
  rcases markOffline_cases h with ⟨-, rfl, -⟩ | ⟨n, -, he, -⟩
  · exact shrinks_refl _
  · exact (updateNode_shrinks db d _ _ (fun _ _ hs => by simp [offlineNode] at hs)).trans
      (ends_shrinks he)

theorem releaseLeases_shrinks {user : UserId} {t : Instant} {refs : List LeaseRef}
    {out : ReleaseOutcome} (h : releaseLeases user t refs db = some out) : Shrinks db out.db := by
  refine releaseLeases_closure shrinks_refl (fun _ _ _ => Shrinks.trans) user t ?_ refs db out h
  intro id l l' a b hl he
  have hmem := Table.get?_mem (leaseOfUser_eq_some.mp hl).1
  exact (ends_shrinks (endLease_ends hmem he).1).trans (setReleasing_shrinks b l.deviceId)

/-- After every unfinished lease of a device has ended, the device is idle. -/
theorem idle_of_ends (hc : Consistent db) {d reason : String} {t : Instant}
    (h : Ends reason t ((db.leasesOf d Lease.unfinished).map Lease.leaseId) db db') :
    Idle db' d := by
  intro l' hl' hd
  obtain ⟨l, hl, rfl⟩ := (h.mem l').mp hl'
  have hld : l.deviceId = d := (finishIn_move reason t db.timeZone _ l).deviceId.symm.trans hd
  by_cases hu : l.unfinished = true
  · have hin := (mem_leasesOf_ids d Lease.unfinished hl).mpr ⟨hld,hu⟩
    simp only [finishIn, if_pos hin]
    exact finish_endedAt reason t db.timeZone l
  · rw [unfinished_iff, not_not] at hu
    exact (finishIn_move reason t db.timeZone _ l).ended ((hc l hl).2.mpr hu)

theorem deleteNode_shrinks (db : Database) (d : String) :
    Shrinks db (deleteNode (deleteLeasesOf db d) d) where
  lease l' hl' := ⟨l',((Table.mem_filter _ _ _).mp hl').1,LeaseMove.refl l'⟩
  free n' hn' hs := Or.inl ⟨n',((Table.mem_filter _ _ _).mp hn').1,rfl,hs⟩

end Shrinking

section Renting
variable {user : UserId} {unit : BillingUnit} {price : Money} {now : Instant}
variable {draw : ℕ → Uuid × String}

/-- The part of the loop's precondition that a node not yet reached keeps. -/
def Vacant (nodes : List Node) (db : Database) : Prop := ∀ n ∈ nodes, Idle db n.deviceId

theorem newLease_settled (n : Node) (i : ℕ) : Settled (newLease user unit price now (draw i) n) :=
  ⟨by simp [newLease],by simp [newLease]⟩

theorem createLease_mem {db db' : Database} {l : Lease} (h : db.createLease l = some db') :
    db'.nodes = db.nodes ∧ ∀ q, q ∈ db'.leases ↔ q ∈ db.leases ∨ q = l := by
  simp only [Database.createLease, Option.map_eq_some_iff] at h
  obtain ⟨leases, hl, rfl⟩ := h
  obtain ⟨hk, rfl⟩ := Table.insert?_eq_some.mp hl
  exact ⟨rfl,fun q => Table.mem_insert db.leases l q hk⟩

/-- One round of the rent loop. -/
theorem rentNode_exclusive {db db' : Database} {n : Node} {l : Lease}
    (hex : Exclusive db) (hidle : Idle db n.deviceId) (hd : l.deviceId = n.deviceId)
    (h : db.createLease l = some db') :
    Exclusive (db'.setNodeStatus n.deviceId .assigned) := by
  obtain ⟨hnodes, hmem⟩ := createLease_mem h
  have hnone : ∀ q ∈ db.leases, q.endedAt = none → q.deviceId ≠ n.deviceId := by
    intro q hq hlive hqd
    have hs := hidle q hq hqd
    simp [hlive] at hs
  constructor
  · intro a ha b hb hla hlb hab
    rw [Database.setNodeStatus_leases, hmem] at ha hb
    rcases ha with ha | rfl <;> rcases hb with hb | rfl
    · exact hex.single a ha b hb hla hlb hab
    · exact absurd (hab.trans hd) (hnone a ha hla)
    · exact absurd (hab.symm.trans hd) (hnone b hb hlb)
    · rfl
  · intro m hm hs
    obtain ⟨q, hq, rfl⟩ := (Database.mem_setNodeStatus _ _ _ m).mp hm
    by_cases hqd : q.deviceId = n.deviceId
    · simp [hqd] at hs
    · rw [if_neg hqd] at hs ⊢
      intro a ha had
      rw [Database.setNodeStatus_leases, hmem] at ha
      rcases ha with ha | rfl
      · exact hex.free q (hnodes ▸ hq) hs a ha had
      · exact absurd (had.symm.trans hd) hqd

theorem rentNodes_consistent {i : ℕ} {nodes : List Node} {db db' : Database} {ls : List Lease}
    (hc : Consistent db) (h : rentNodes user unit price now draw i nodes db = some (db',ls)) :
    Consistent db' := by
  induction nodes generalizing i db ls with
  | nil =>
    simp only [rentNodes, Option.some.injEq, Prod.mk.injEq] at h
    exact h.1 ▸ hc
  | cons n nodes ih =>
    simp only [rentNodes, Option.bind_eq_bind, Option.bind_eq_some_iff, Option.pure_def,
      Option.some.injEq, Prod.mk.injEq, Prod.exists] at h
    obtain ⟨db₁, h₁, db₂, ls₂, h₂, rfl, rfl⟩ := h
    refine ih (fun q hq => ?_) h₂
    rw [Database.setNodeStatus_leases, (createLease_mem h₁).2] at hq
    rcases hq with hq | rfl
    · exact hc q hq
    · exact newLease_settled n i

theorem rentNodes_exclusive {i : ℕ} {nodes : List Node} {db db' : Database} {ls : List Lease}
    (hex : Exclusive db) (hvac : Vacant nodes db) (hnd : (nodes.map Node.deviceId).Nodup)
    (h : rentNodes user unit price now draw i nodes db = some (db',ls)) :
    Exclusive db' ∧ ∀ l ∈ db'.leases, l ∈ db.leases ∨ ∃ n ∈ nodes, l.deviceId = n.deviceId := by
  induction nodes generalizing i db ls with
  | nil =>
    simp only [rentNodes, Option.some.injEq, Prod.mk.injEq] at h
    obtain ⟨rfl, rfl⟩ := h
    exact ⟨hex,fun l hl => Or.inl hl⟩
  | cons n nodes ih =>
    simp only [rentNodes, Option.bind_eq_bind, Option.bind_eq_some_iff, Option.pure_def,
      Option.some.injEq, Prod.mk.injEq, Prod.exists] at h
    obtain ⟨db₁, h₁, db₂, ls₂, h₂, rfl, rfl⟩ := h
    have hmem := (createLease_mem h₁).2
    rw [List.map_cons, List.nodup_cons] at hnd
    have hex₁ := rentNode_exclusive hex (hvac n (List.mem_cons_self)) rfl h₁
    have hvac₁ : Vacant nodes (db₁.setNodeStatus n.deviceId .assigned) := by
      intro m hm q hq hqd
      rw [Database.setNodeStatus_leases, hmem] at hq
      rcases hq with hq | rfl
      · exact hvac m (List.mem_cons_of_mem _ hm) q hq hqd
      · have hin : n.deviceId ∈ nodes.map Node.deviceId :=
          List.mem_map.mpr ⟨m,hm,hqd.symm⟩
        exact absurd hin hnd.1
    obtain ⟨hex₂, hnew⟩ := ih hex₁ hvac₁ hnd.2 h₂
    refine ⟨hex₂,fun q hq => ?_⟩
    rcases hnew q hq with hq | ⟨m, hm, hqd⟩
    · rw [Database.setNodeStatus_leases, hmem] at hq
      rcases hq with hq | rfl
      · exact Or.inl hq
      · exact Or.inr ⟨n,List.mem_cons_self,rfl⟩
    · exact Or.inr ⟨m,List.mem_cons_of_mem _ hm,hqd⟩

theorem mem_freeNodes {db : Database} {region tier : String} {count : ℕ} {n : Node}
    (h : n ∈ freeNodes db region tier count) : n ∈ db.nodes ∧ n.status = .free := by
  have hn := List.mem_of_mem_take h
  rw [List.mem_insertionSort, List.mem_filter] at hn
  simp only [rentable, Bool.and_eq_true, decide_eq_true_eq] at hn
  exact ⟨hn.1,hn.2.1.1⟩

theorem freeNodes_nodup (db : Database) (region tier : String) (count : ℕ) :
    ((freeNodes db region tier count).map Node.deviceId).Nodup := by
  have htake := (List.take_sublist count ((db.nodes.rows.filter
    (rentable region tier)).insertionSort (fun a b => a.lastSeen ≤ b.lastSeen))).map Node.deviceId
  have hfilter := (List.filter_sublist (p := rentable region tier)
    (l := db.nodes.rows)).map Node.deviceId
  exact htake.nodup ((((List.perm_insertionSort _ _).map Node.deviceId).nodup_iff).mpr
    (hfilter.nodup db.nodes.nodup))

/-- A rented node was FREE, so no live lease of before is on it. -/
theorem rentLease_exclusive {db : Database} (hex : Exclusive db) (hc : Consistent db)
    (u : User) (req : RentRequest) :
    Exclusive (rentLease u req now draw db).db ∧ Consistent (rentLease u req now draw db).db ∧
      ∀ l ∈ (rentLease u req now draw db).db.leases, l ∉ db.leases → Idle db l.deviceId := by
  rcases rentLease_cases u req now draw db with h | ⟨db', ls, h, hrows⟩
  · rw [h]
    exact ⟨hex,hc,fun l hl hnew => absurd hl hnew⟩
  · have hvac : Vacant (freeNodes db req.region req.gpuTier req.count) db := fun n hn =>
      hex.free n (mem_freeNodes hn).1 (mem_freeNodes hn).2
    obtain ⟨hex', hnew⟩ := rentNodes_exclusive hex hvac (freeNodes_nodup db _ _ _) h
    have hc' := rentNodes_consistent hc h
    have hs := SameRows.shrinks hrows
    refine ⟨hs.exclusive hex',hs.consistent hc',fun l hl hno => ?_⟩
    rw [hrows.leases] at hl
    rcases hnew l hl with hl | ⟨n, hn, hd⟩
    · exact absurd hl hno
    · exact hd ▸ hvac n hn

end Renting

/-- What the administrator's FREE does not check: the node is idle, or not
connected, in which case it becomes OFFLINE. -/
def FreesIdleNodes : Event → Server → Prop
  | .adminSetNodeState user d state, s =>
    user.isStaff → requestedState state = some .free →
      ∀ n, s.db.nodes.get? d = some n → n.hasConnection → Idle s.db d
  | _, _ => True

def IsRent : Event → Prop
  | .rent _ _ _ _ => True
  | _ => False

/-- FREE is granted to idle nodes, or the node becomes OFFLINE. -/
theorem stateSet_shrinks {user : User} {d : String} {state : Option String} {wanted : NodeStatus}
    {n : Node} {s : Server} (hg : FreesIdleNodes (.adminSetNodeState user d state) s)
    (hu : user.isStaff) (hw : requestedState state = some wanted)
    (hn : s.db.nodes.get? d = some n) :
    Shrinks s.db (s.db.setNodeStatus d (adminState n wanted)) := by
  apply setStatus_shrinks
  intro hfree
  cases wanted with
  | free =>
    by_cases hconn : n.hasConnection
    · exact hg hu hw n hn hconn
    · simp [adminState, hconn] at hfree
  | _ => simp [adminState] at hfree

theorem effect_shrinks {e : Event} {s : Server} {db' : Database} (he : ¬IsRent e)
    (hg : FreesIdleNodes e s) (hc : Consistent s.db) (h : StepEffect s e db') :
    Shrinks s.db db' := by
  cases h with
  | quiet hrows => exact SameRows.shrinks hrows
  | rented => exact absurd trivial he
  | released hrel hrows => exact (releaseLeases_shrinks hrel).trans (SameRows.shrinks hrows)
  | registered hk => exact insertNode_shrinks s.db _ hk rfl
  | stateSet hu hw hn => exact stateSet_shrinks hg hu hw hn
  | leaseForced _ hl hend =>
    have hends := (endLease_ends (Table.get?_mem hl) hend).1
    exact (ends_shrinks hends).trans (setReleasing_shrinks _ _)
  | nodeForced _ _ _ hends =>
    exact (ends_shrinks hends).trans (setStatus_shrinks _ _ _ fun _ => idle_of_ends hc hends)
  | deleted => exact deleteNode_shrinks s.db _
  | patched => exact updateNode_shrinks s.db _ _ _ fun _ _ hs => Or.inl hs
  | connected => exact nodeConnected_shrinks hc _ _ _
  | disconnected _ _ _ hoff => exact markOffline_shrinks hoff
  | received _ hmsg => exact messageEffect_shrinks hc hmsg
  | checked =>
    exact takeDown_closure shrinks_refl (fun _ _ _ => Shrinks.trans) _
      (fun _ _ _ _ => markOffline_shrinks) _ s.db

/-- Every step but renting lets live leases end and no more. -/
theorem step_shrinks (e : Event) (s : Server) (he : ¬IsRent e) (hg : FreesIdleNodes e s)
    (hc : Consistent s.db) : Shrinks s.db (step e s).db :=
  effect_shrinks he hg hc (step_effect e s)

def Assigned (s : Server) : Prop := Exclusive s.db ∧ Consistent s.db

theorem assigned_initial (timeZone : Instant) : Assigned (initial timeZone) :=
  ⟨⟨fun l hl => absurd hl (Table.not_mem_empty l),fun n hn => absurd hn (Table.not_mem_empty n)⟩,
    fun l hl => absurd hl (Table.not_mem_empty l)⟩

theorem assigned_step (e : Event) (s : Server) (hg : FreesIdleNodes e s) (h : Assigned s) :
    Assigned (step e s) := by
  by_cases he : IsRent e
  · cases e with
    | rent user req now draw =>
      obtain ⟨hex, hc, -⟩ := @rentLease_exclusive now draw _ h.1 h.2 user req
      exact ⟨hex,hc⟩
    | _ => exact absurd he (by simp [IsRent])
  · have hs := step_shrinks e s he hg h.2
    exact ⟨hs.exclusive h.1,hs.consistent h.2⟩

/-- The status column and the end agree whatever the administrator does. -/
theorem consistent_step (e : Event) (s : Server) (hc : Consistent s.db) :
    Consistent (step e s).db := by
  cases e with
  | rent user req now draw =>
    rcases rentLease_cases user req now draw s.db with h | ⟨db', ls, h, hrows⟩
    · exact (congrArg Consistent h).mpr hc
    · exact (SameRows.shrinks hrows).consistent (rentNodes_consistent hc h)
  | adminSetNodeState user d state =>
    have hl : (step (.adminSetNodeState user d state) s).db.leases = s.db.leases := by
      change (adminOnly user s.db (adminSetNodeState d state s.db)).db.leases = _
      rcases adminOnly_cases user s.db (adminSetNodeState d state s.db) with ⟨-, h⟩ | ⟨-, h, -⟩
      · rw [h]
        rcases adminSetNodeState_cases d state s.db with h | ⟨_, _, -, -, h⟩ <;> rw [h]
        rfl
      · rw [h]
    exact fun l h => hc l (hl ▸ h)
  | _ =>
    refine Shrinks.consistent (step_shrinks _ s ?_ ?_ hc) hc
    · simp [IsRent]
    · simp [FreesIdleNodes]

theorem consistent_reachable {s : Server} (hs : ServerReachable s) : Consistent s.db := by
  obtain ⟨timeZone, h⟩ := hs
  exact reachable_invariant step consistent_step (assigned_initial timeZone).2 h

/-- In a run whose FREE requests name idle nodes, a node has at most one live
lease and a FREE node has none, so renting never picks a held node. -/
theorem exclusive_run (timeZone : Instant) (es : List Event)
    (h : Meets step FreesIdleNodes es (initial timeZone)) :
    Exclusive (run step es (initial timeZone)).db ∧
    ∀ user req now draw,
      ∀ l ∈ (step (.rent user req now draw) (run step es (initial timeZone))).db.leases,
        l ∉ (run step es (initial timeZone)).db.leases →
        Idle (run step es (initial timeZone)).db l.deviceId := by
  have hinv := run_invariant step assigned_step es _ h (assigned_initial timeZone)
  refine ⟨hinv.1,fun user req now draw => ?_⟩
  exact (rentLease_exclusive hinv.1 hinv.2 user req).2.2

def ann : User := { id := 1, username := "ann" }

def bob : User := { id := 2, username := "bob" }

def admin : User := { id := 9, username := "admin", isStaff := true }

def rentOne (user : User) (now : Instant) (id : Uuid) (token : String) : Event :=
  .rent user { region := "cn", gpuTier := "a", billingUnit := .hour, count := 1 } now
    (fun _ => (id,token))

/-- One node comes up and is rented. -/
def rentedRun : List Event :=
  [.connect (.device "node-1") "c1" 1,
    .receive "c1" (.nodeHello "cn" "a" "1.0" none) 2,
    rentOne ann 3 1 "t1"]

/-- The administrator frees the node in use. -/
def freedInUseRun : List Event :=
  rentedRun ++ [.adminSetNodeState admin "node-1" (some "FREE")]

/-- The next customer gets it. -/
def rerentedRun : List Event :=
  freedInUseRun ++ [rentOne bob 5 2 "t2"]

theorem rerented_held_node : ¬Exclusive (run step rerentedRun (initial 0)).db ∧
    ∃ l ∈ (run step rerentedRun (initial 0)).db.leases,
      l ∉ (run step freedInUseRun (initial 0)).db.leases.rows ∧
      ¬Idle (run step freedInUseRun (initial 0)).db l.deviceId := by
  have htwo : ∃ l ∈ (run step rerentedRun (initial 0)).db.leases.rows,
      ∃ l' ∈ (run step rerentedRun (initial 0)).db.leases.rows,
        l.endedAt = none ∧ l'.endedAt = none ∧ l.deviceId = l'.deviceId ∧ l ≠ l' := by
    decide
  have hheld : ∃ l ∈ (run step rerentedRun (initial 0)).db.leases.rows,
      l ∉ (run step freedInUseRun (initial 0)).db.leases.rows ∧
      ¬Idle (run step freedInUseRun (initial 0)).db l.deviceId := by
    decide
  obtain ⟨l, hl, l', hl', hlive, hlive', hd, hne⟩ := htwo
  exact ⟨fun h => hne (h.single l hl l' hl' hlive hlive' hd),hheld⟩

/-- The same request after a forced release of the node. -/
def freedRun : List Event :=
  rentedRun ++ [.adminForceReleaseNode admin "node-1" 4,
    .adminSetNodeState admin "node-1" (some "FREE"),
    rentOne bob 5 2 "t2"]

theorem freed_exclusive : Exclusive (run step freedRun (initial 0)).db ∧
    (run step freedRun (initial 0)).db.leases.rows.map (fun l => (l.leaseId,l.endedAt)) =
      [(1,some 4),(2,none)] := by
  have hidle : Idle (run step (rentedRun ++ [Event.adminForceReleaseNode admin "node-1" 4])
      (initial 0)).db "node-1" := by decide
  exact ⟨(exclusive_run 0 freedRun
    ⟨trivial,trivial,trivial,trivial,fun _ _ _ _ _ => hidle,trivial,trivial⟩).1,by decide⟩

end CloudPlay.ExclusiveAssignment
