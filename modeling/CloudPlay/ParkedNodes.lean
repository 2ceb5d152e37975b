import CloudPlay.RentalPricing
import CloudPlay.NodeTransitions
import CloudPlay.ReleaseAtomicity
import CloudPlay.StaleDisconnect

/-!
# Nodes that wait to be freed

A node whose leases have all ended is offered again once it is FREE. Between
the two it waits, as OFFLINE or RELEASING. The steps that send a node waiting
are listed here, in terms of the state they find; every other step leaves a
waiting node as it is, or makes it FREE, or takes it out of the pool.
-/

set_option autoImplicit false

namespace CloudPlay.ParkedNodes
open KeyedTable ControlPlaneModels ControlPlaneSerializers ControlPlaneDatabase LeaseLifecycle
open ControlPlaneViews ControlPlaneConsumer ControlPlaneServer ControlPlaneEffects LeaseEnding
open StepEffects NodeTransitions BatchRelease ReleaseAtomicity StaleDisconnect
open ExclusiveAssignment RentalPricing

def statusOf (db : Database) (d : String) : Option NodeStatus :=
  (db.nodes.get? d).map Node.status

/-- A node in the pool has no live lease and is not FREE. -/
structure Waiting (db : Database) (d : String) (st : NodeStatus) : Prop where
  idle : Idle db d
  status : statusOf db d = some st
  notFree : st ≠ .free
  inPool : st ≠ .disabled ∧ st ≠ .maintenance

def Unblocked (db : Database) (d : String) : Prop :=
  ∃ n, db.nodes.get? d = some n ∧ n.blocked = false

/-- No lease of the device is live but those with the given ids. -/
def LastLeases (db : Database) (d : String) (ids : List Uuid) : Prop :=
  ∀ l ∈ db.leases, l.deviceId = d → l.endedAt = none → l.leaseId ∈ ids

/-- The rows the release loop ends, whether or not it gets to the end. -/
def Released (user : UserId) (now : Instant) (db : Database) (rs : List LeaseRef)
    (ls : List Lease) : Prop :=
  (rs = refs ls ∧ Rows user now db ls) ∨ ∃ id, StopsAfter user now db rs ls id

/-- The step leaves the node of `d` waiting, or would have found it so. -/
def Parks (s : Server) (d : String) : Event → Prop
  | .release user req now => Attempted user req s.db ∧ Unblocked s.db d ∧
    ∃ ls, Released user.id now s.db req.leaseIds ls ∧ d ∈ ls.map Lease.deviceId ∧
      LastLeases s.db d (ls.map Lease.leaseId)
  | .adminForceReleaseLease user id now => user.isStaff ∧ Unblocked s.db d ∧
    ∃ l, s.db.leases.get? id = some l ∧ l.deviceId = d ∧ Billable now s.db.timeZone l ∧
      LastLeases s.db d [id]
  | .adminForceReleaseNode user d' now => d' = d ∧ user.isStaff ∧
    (∃ n, s.db.nodes.get? d = some n ∧ n.blocked = false ∧ n.hasConnection = false) ∧
      ∀ l ∈ s.db.leases, l.deviceId = d → l.unfinished = true → Billable now s.db.timeZone l
  | .adminSetNodeState user d' state => d' = d ∧ user.isStaff ∧
    requestedState state = some .free ∧
      (∃ n, s.db.nodes.get? d = some n ∧ n.hasConnection = false) ∧ Idle s.db d
  | .disconnect c now => Session d s c ∧ s.db.nodes.get? d ≠ none ∧ Covered d now s.db
  | .checkHeartbeats timeout now => TakenDown d now s.db (staleNodes s.db timeout now)
  | .deviceToken d' _ => d' = d ∧ s.db.nodes.get? d = none ∧ Idle s.db d
  | _ => False

section Leases
variable {db db' : Database} {d : String}

theorem idle_of_kept (hl : ∀ l ∈ db.leases, l.deviceId = d → l ∈ db'.leases)
    (h : Idle db' d) : Idle db d :=
  fun l hmem hd => h l (hl l hmem hd) hd

theorem lastLeases_of_ends {reason : String} {t : Instant} {ids : List Uuid}
    (h : Ends reason t ids db db') (hidle : Idle db' d) : LastLeases db d ids := by
  intro l hl hd hlive
  by_contra hout
  have hkept : l ∈ db'.leases := (h.mem l).mpr ⟨l,hl,by simp [finishIn, hout]⟩
  have hended := hidle l hkept hd
  simp [hlive] at hended

theorem LastLeases.idle {ids : List Uuid} (h : LastLeases db d ids)
    (hout : ∀ l ∈ db.leases, l.leaseId ∈ ids → l.deviceId ≠ d) : Idle db d := by
  intro l hl hd
  by_contra hlive
  exact hout l hl (h l hl hd (by simpa using hlive)) hd

theorem updateLease_idle {i : Uuid} {f : Lease → Lease} (hf : ∀ l, (f l).leaseId = l.leaseId)
    (hd : ∀ l, (f l).deviceId = l.deviceId) (he : ∀ l, (f l).endedAt = l.endedAt)
    (h : Idle (db.updateLease i f hf) d) : Idle db d := by
  intro l hl hld
  have hnew := (Table.mem_modify db.leases i f hf _).mpr ⟨l,hl,rfl⟩
  have hended := h _ hnew
  split at hended
  · rw [hd, he] at hended
    exact hended hld
  · exact hended hld

/-- A lease that can be started keeps its device busy. -/
theorem not_idle_of_startable (hc : Consistent db) {l : Lease} (hl : l ∈ db.leases)
    (hs : Startable l) : ¬Idle db l.deviceId := by
  intro hidle
  have hended := (hc l hl).2.mp (hidle l hl rfl)
  simp [Startable, hended] at hs

theorem not_engaged_of_idle (hc : Consistent db) (h : Idle db d) :
    hasEngagedLease db d = false := by
  by_contra hon
  simp only [Bool.not_eq_false, hasEngagedLease, List.any_eq_true, Bool.and_eq_true,
    decide_eq_true_eq] at hon
  obtain ⟨l, hl, hld, hen⟩ := hon
  exact ((engaged_iff l).mp hen).2 ((hc l hl).2.mp (h l hl hld))

theorem covered_of_idle {now : Instant} (h : Idle db d) : Covered d now db :=
  fun l hl hd _ => Or.inl (h l hl hd)

/-- The leases of a device the loop does not get to are as they were. -/
theorem takeDown_idle (now : Instant) (nodes : List Node)
    (hrows : ∀ n ∈ nodes, db.nodes.get? n.deviceId ≠ none)
    (hnd : (nodes.map Node.deviceId).Nodup) (hout : ¬TakenDown d now db nodes)
    (h : Idle (takeDown now nodes db).1 d) : Idle db d := by
  induction nodes generalizing db with
  | nil => exact h
  | cons n nodes ih =>
    rw [List.map_cons, List.nodup_cons] at hnd
    cases hm : markNodeOfflineAndEndLeases n.deviceId heartbeatTimeout now db with
    | none => simpa [takeDown, hm] using h
    | some p =>
      obtain ⟨db₁, sends⟩ := p
      have hcov := markOffline_covered hm (hrows n List.mem_cons_self)
      simp only [TakenDown, hcov, true_and, not_or] at hout
      have hothers : ∀ q ∈ nodes, q.deviceId ≠ n.deviceId := by
        intro q hq hid
        exact hnd.1 (hid ▸ List.mem_map_of_mem hq)
      have hrest : ¬TakenDown d now db₁ nodes := by
        rw [takenDown_congr (fun q hq => markOffline_others hm (hothers q hq))]
        exact hout.2
      have hidle : Idle db₁ d := by
        refine ih (fun q hq => ?_) hnd.2 hrest (by simpa [takeDown, hm] using h)
        rw [markOffline_node hm, if_neg (hothers q hq)]
        exact hrows q (List.mem_cons_of_mem _ hq)
      rcases markOffline_cases hm with ⟨-, rfl, -⟩ | ⟨_, -, he, -⟩
      · exact hidle
      · refine (lastLeases_of_ends he hidle).idle fun l hl hid hd => ?_
        exact hout.1 (((mem_leasesOf_ids n.deviceId _ hl).mp hid).1.symm.trans hd)

theorem releases_status {reason : String} {t : Instant} {ls : List Lease}
    (h : Releases reason t ls db db') (d : String) : statusOf db' d =
      ((db.nodes.get? d).map (releasingIn (ls.map Lease.deviceId))).map Node.status := by
  rw [statusOf, Table.get?_of_map (releasingIn_deviceId _) h.nodes]

end Leases

section Steps
variable {s : Server} {e : Event} {db' : Database} {d : String} {st : NodeStatus}

theorem Waiting.of_same {db : Database} (h : Waiting db' d st)
    (hst : statusOf db' d = statusOf db d) (hidle : Idle db' d → Idle db d) : Waiting db d st :=
  ⟨hidle h.idle,hst.symm.trans h.status,h.notFree,h.inPool⟩

theorem waiting_row (h : Waiting db' d st) {row : Option Node} (hrow : db'.nodes.get? d = row) :
    ∃ n, row = some n ∧ n.status = st := by
  obtain ⟨n, hn, hst⟩ := Option.map_eq_some_iff.mp h.status
  exact ⟨n,hrow.symm.trans hn,hst⟩

theorem not_waiting_of_blocked (h : Waiting db' d st) {n : Node} (hn : n.blocked = true)
    (hst : n.status = st) : False := by
  have hblocked : n.status = .disabled ∨ n.status = .maintenance := by simpa [Node.blocked] using hn
  rw [hst] at hblocked
  exact hblocked.elim h.inPool.1 h.inPool.2

/-- Releasing leases makes their nodes wait when no other lease of them is live. -/
theorem waiting_releases {reason : String} {t : Instant} {ls : List Lease}
    (h : Releases reason t ls s.db db') (hrows : ∀ l ∈ ls, l ∈ s.db.leases)
    (hw : Waiting db' d st) :
    (d ∈ ls.map Lease.deviceId ∧ Unblocked s.db d ∧ LastLeases s.db d (ls.map Lease.leaseId) ∧
      st = .releasing) ∨ Waiting s.db d st := by
  have hlast : LastLeases s.db d (ls.map Lease.leaseId) := lastLeases_of_ends h.ends hw.idle
  have hstatus := releases_status h d
  by_cases hd : d ∈ ls.map Lease.deviceId
  · cases hn : s.db.nodes.get? d with
    | none => simp [hn, hw.status] at hstatus
    | some n =>
      have hid := Table.get?_key hn
      cases hb : n.blocked with
      | true =>
        have hst : st = n.status := by simpa [hn, hw.status, releasingIn, hb] using hstatus
        exact (not_waiting_of_blocked hw hb hst.symm).elim
      | false =>
        have hst : st = .releasing := by
          simpa [hn, hw.status, releasingIn, hb, hid, hd] using hstatus
        exact Or.inl ⟨hd,⟨n,hn,hb⟩,hlast,hst⟩
  · right
    refine hw.of_same ?_ fun _ => hlast.idle fun l hl hid hld => hd ?_
    · rw [hstatus, statusOf]
      cases hn : s.db.nodes.get? d with
      | none => rfl
      | some n => simp [releasingIn, Table.get?_key hn, hd]
    · obtain ⟨q, hq, hqid⟩ := List.mem_map.mp hid
      rw [← hld, ← s.db.leases.key_injective (hrows q hq) hl hqid]
      exact List.mem_map_of_mem hq

theorem waiting_release {user : User} {req : ReleaseRequest} {now : Instant}
    (hw : Waiting (step (.release user req now) s).db d st) :
    (Parks s d (.release user req now) ∧ st = .releasing) ∨ Waiting s.db d st := by
  have hdb : (step (.release user req now) s).db = (releaseLease user req now s.db).db := rfl
  rw [hdb] at hw
  by_cases ha : Attempted user req s.db
  · have hpark {ls : List Lease} {out : ReleaseOutcome}
        (hr : Releases EndReason.userRelease.value now ls s.db out.db)
        (hreleased : Released user.id now s.db req.leaseIds ls)
        (hrows : ∀ l ∈ ls, l ∈ s.db.leases)
        (hout : releaseLeases user.id now req.leaseIds s.db = some out) :
        (Parks s d (.release user req now) ∧ st = .releasing) ∨ Waiting s.db d st := by
      have hsame : SameRows out.db (releaseLease user req now s.db).db := by
        rcases releaseLease_cases user req now s.db with h | ⟨out', h', hsame⟩
        · unfold releaseLease at h ⊢
          simp only [ha.nonempty, ha.present, or_self, if_false, ha.fresh, hout] at h ⊢
          split
          · exact SameRows.refl _
          · exact remember_rows _ _ _ _ _ _
        · rw [hout] at h'
          exact Option.some.inj h' ▸ hsame
      have hw' : Waiting out.db d st := by
        refine hw.of_same ?_ ?_
        · rw [statusOf, statusOf, hsame.nodes]
        · exact idle_of_kept fun l hl _ => hsame.leases ▸ hl
      rcases waiting_releases hr hrows hw' with ⟨hd, hu, hlast, hst⟩ | h
      · exact Or.inl ⟨⟨ha,hu,ls,hreleased,hd,hlast⟩,hst⟩
      · exact Or.inr h
    rcases releaseLeases_outcomes user.id now s.db req.leaseIds with hall | ⟨ls, id, hs⟩ | hnone
    · obtain ⟨ls, db₁, hlist, hls, hdb₁, hout⟩ := releaseLeases_complete hall
      exact @hpark ls _ hdb₁ (Or.inl ⟨hlist,hls⟩) (fun l hl => (hls l hl).1) hout
    · obtain ⟨db₁, hdb₁, hout⟩ := releaseLeases_stops hs
      exact @hpark ls _ hdb₁ (Or.inr ⟨id,hs⟩) (fun l hl => (hs.rows l hl).1) hout
    · rw [release_raises ha hnone] at hw
      exact Or.inr hw
  · obtain ⟨r, hr⟩ := @release_not_attempted user req now s.db ha
    rw [hr] at hw
    exact Or.inr hw

theorem waiting_rented {user : UserId} {unit : BillingUnit} {price : Money} {now : Instant}
    {draw : ℕ → Uuid × String} {nodes : List Node} {ls : List Lease}
    (h : rentNodes user unit price now draw 0 nodes s.db = some (db',ls))
    (hw : Waiting db' d st) : Waiting s.db d st := by
  obtain ⟨hkept, -, hnew⟩ := rentNodes_created h
  have hnot : d ∉ nodes.map Node.deviceId := by
    intro hd
    obtain ⟨n, hn, rfl⟩ := List.mem_map.mp hd
    obtain ⟨draw, hl, -⟩ := hnew n hn
    have hended := hw.idle _ hl rfl
    simp [newLease] at hended
  refine hw.of_same ?_ (idle_of_kept fun l hl _ => hkept l hl)
  rw [statusOf, rentNodes_node h, if_neg hnot, statusOf]

theorem waiting_message {m : ConnectionMeta} {msg : ClientMessage} {now : Instant}
    (hc : Consistent s.db) (h : MessageEffect m msg now s.db db') (hw : Waiting db' d st) :
    Waiting s.db d st := by
  cases h with
  | none => exact hw
  | seen d' hr hd hlife =>
    refine hw.of_same ?_ (fun hidle => hidle)
    rw [nodeTouchLastSeen, statusOf, Database.updateNode_nodes, Table.get?_modify, statusOf]
    split
    · rename_i hdd
      rw [hdd, Option.map_map]
      rfl
    · rfl
  | hello d' hello hr hd hmsg =>
    have hidle : Idle s.db d := by
      refine idle_of_kept (fun l hl _ => ?_) hw.idle
      rwa [updateNodeHello, Database.updateNode_leases, Database.getOrCreateNode_leases]
    have hrow := updateNodeHello_node s.db d' hello now d
    split at hrow
    · rename_i hdd
      subst hdd
      obtain ⟨n, hn, hst⟩ := waiting_row hw hrow
      have hactive : hasEngagedLease s.db d = false := not_engaged_of_idle hc hidle
      obtain rfl := Option.some.inj hn
      simp only [helloNode, hactive, and_true] at hst
      split at hst
      · exact absurd hst.symm hw.notFree
      · rename_i hno
        cases hn : s.db.nodes.get? d with
        | none => simp [knownNode, hn] at hno
        | some n => exact ⟨hidle,by simpa [statusOf, knownNode, hn] using hst,hw.notFree,hw.inPool⟩
    · exact hw.of_same (by rw [statusOf, hrow, statusOf]) fun _ => hidle
  | ready id claimed d' hr hmsg hd =>
    unfold markLeaseReady at hw
    split at hw
    · exact hw
    · rename_i l hl
      split at hw
      · exact hw
      · rename_i hown
        split at hw
        · exact hw
        · rename_i hstart
          have hidle : Idle s.db d := updateLease_idle (readyLease_leaseId now) (fun _ => rfl)
            (fun _ => rfl) hw.idle
          have hne : d ≠ d' := by
            rintro rfl
            exact not_idle_of_startable hc (Table.get?_mem hl) (not_not.mp hstart)
              ((not_not.mp hown).symm ▸ hidle)
          refine hw.of_same ?_ (fun _ => hidle)
          rw [statusOf, Database.updateNode_nodes, Database.updateLease_nodes,
            Table.get?_modify_ne _ _ _ hne, statusOf]
  | active id l =>
    exact hw.of_same rfl (updateLease_idle activeLease_leaseId (fun _ => rfl) (fun _ => rfl))

/-- Everything but the release of leases by their user. -/
theorem waiting_effect (hc : Consistent s.db) (h : StepEffect s e db') (hw : Waiting db' d st)
    (hrel : ∀ user req now, e ≠ .release user req now) :
    (Parks s d e ∧ (st = .offline ∨ st = .releasing)) ∨ Waiting s.db d st := by
  cases h with
  | quiet h =>
    right
    refine hw.of_same ?_ (idle_of_kept fun l hl _ => h.leases ▸ hl)
    rw [statusOf, statusOf, h.nodes]
  | @rented user req now draw db₁ _ ls h hrows =>
    refine Or.inr (waiting_rented h (hw.of_same ?_ (idle_of_kept fun l hl _ => hrows.leases ▸ hl)))
    rw [statusOf, statusOf, hrows.nodes]
  | released => exact absurd rfl (hrel _ _ _)
  | @registered d' now hk =>
    have hrow := Table.get?_insert s.db.nodes (registeredNode d' now) hk d
    split at hrow
    · rename_i hd
      obtain rfl : d = d' := hd
      obtain ⟨_, hn, hst⟩ := waiting_row hw hrow
      obtain rfl := Option.some.inj hn
      exact Or.inl ⟨⟨rfl,hk,hw.idle⟩,Or.inl hst.symm⟩
    · exact Or.inr (hw.of_same (congrArg (Option.map Node.status) hrow) fun hidle => hidle)
  | @stateSet user d' state wanted n hu hwanted hn =>
    have hrow := Database.get?_setNodeStatus s.db d' d (adminState n wanted)
    split at hrow
    · rename_i hd
      subst hd
      rw [hn] at hrow
      obtain ⟨_, hn', hst⟩ := waiting_row hw hrow
      obtain rfl := Option.some.inj hn'
      cases wanted with
      | free =>
        cases hconn : n.hasConnection with
        | true => exact absurd hst.symm (by simp [adminState, hconn, hw.notFree])
        | false =>
          have hoff : st = .offline := by simpa [adminState, hconn] using hst.symm
          exact Or.inl ⟨⟨rfl,hu,hwanted,⟨n,hn,hconn⟩,hw.idle⟩,Or.inl hoff⟩
      | disabled => exact absurd hst.symm hw.inPool.1
      | maintenance => exact absurd hst.symm hw.inPool.2
      | _ => simp [requestedState] at hwanted; split at hwanted <;> cases hwanted
    · exact Or.inr (hw.of_same (congrArg (Option.map Node.status) hrow) fun hidle => hidle)
  | @leaseForced user id now l l' db₁ hu hl he =>
    have hbill : Billable now s.db.timeZone l := by
      by_contra hno
      rw [endLease_unbillable hno] at he
      cases he
    have hround := round_releases (Table.get?_mem hl) he
    rcases waiting_releases hround (by simpa using Table.get?_mem hl) hw with
      ⟨hd, hun, hlast, hst⟩ | h
    · have hdev : l.deviceId = d := (List.mem_singleton.mp hd).symm
      rw [List.map_singleton, Table.get?_key hl] at hlast
      exact Or.inl ⟨⟨hu,hun,l,hl,hdev,hbill,hlast⟩,Or.inr hst⟩
    · exact Or.inr h
  | @nodeForced user d' now n db₁ hu hn hb he =>
    have hrow := Database.get?_setNodeStatus db₁ d' d (forcedStatus n)
    rw [he.nodes, hn] at hrow
    split at hrow
    · rename_i hd
      subst hd
      obtain ⟨_, hn', hst⟩ := waiting_row hw hrow
      obtain rfl := Option.some.inj hn'
      cases hbl : n.blocked with
      | true =>
        have hsame : n.status = st := by simpa [forcedStatus, hbl] using hst
        exact (not_waiting_of_blocked hw hbl hsame).elim
      | false =>
        cases hconn : n.hasConnection with
        | true => exact absurd hst.symm (by simp [forcedStatus, hbl, hconn, hw.notFree])
        | false =>
          have hoff : st = .offline := by simpa [forcedStatus, hbl, hconn] using hst.symm
          exact Or.inl ⟨⟨rfl,hu,⟨n,hn,hbl,hconn⟩,hb⟩,Or.inl hoff⟩
    · rename_i hd
      have hlast : LastLeases s.db d ((s.db.leasesOf d' Lease.unfinished).map Lease.leaseId) :=
        lastLeases_of_ends he hw.idle
      refine Or.inr (hw.of_same (congrArg (Option.map Node.status) hrow) fun _ => ?_)
      refine hlast.idle fun l hl hid hld => hd ?_
      exact hld.symm.trans ((mem_leasesOf_ids d' _ hl).mp hid).1
  | @deleted user d' hu hnone =>
    have hrow : (deleteNode (deleteLeasesOf s.db d') d').nodes.get? d =
        (s.db.nodes.get? d).filter (fun n => n.deviceId ≠ d') :=
      Table.get?_filter s.db.nodes (fun n => n.deviceId ≠ d') d
    obtain ⟨n, hn, hst⟩ := waiting_row hw hrow
    obtain ⟨hn, hne⟩ := Option.filter_eq_some_iff.mp hn
    have hdd : d ≠ d' := by simpa [Table.get?_key hn] using hne
    refine Or.inr (hw.of_same ?_ (idle_of_kept fun l hl hld => ?_))
    · rw [hw.status, statusOf, hn, Option.map_some, hst]
    · exact (Table.mem_filter _ _ _).mpr ⟨hl,by simpa [hld] using hdd⟩
  | @patched user d' patch hu =>
    have hrow : (s.db.updateNode d' patch.apply).nodes.get? d =
        if d = d' then (s.db.nodes.get? d').map patch.apply else s.db.nodes.get? d :=
      Table.get?_modify s.db.nodes d' d patch.apply (fun _ => rfl)
    refine Or.inr (hw.of_same ?_ fun hidle => hidle)
    rw [statusOf, hrow, statusOf]
    split
    · rename_i hd
      rw [hd, Option.map_map]
      rfl
    · rfl
  | @connected d' c now hconn hd hne =>
    have hidle : Idle s.db d := by
      refine idle_of_kept (fun l hl _ => ?_) hw.idle
      rwa [nodeConnected, Database.updateNode_leases, Database.getOrCreateNode_leases]
    have hrow := nodeConnected_node s.db d' c now d
    split at hrow
    · rename_i hdd
      subst hdd
      obtain ⟨n, hn, hst⟩ := waiting_row hw hrow
      obtain rfl := Option.some.inj hn
      have hactive : hasEngagedLease s.db d = false := not_engaged_of_idle hc hidle
      cases hbl : (knownNode s.db d now).blocked with
      | true =>
        have hsame : (knownNode s.db d now).status = st := by simpa [connectedNode, hbl] using hst
        exact (not_waiting_of_blocked hw hbl hsame).elim
      | false => exact absurd hst.symm (by simp [connectedNode, hbl, hactive, hw.notFree])
    · exact Or.inr (hw.of_same (by rw [statusOf, hrow, statusOf]) fun _ => hidle)
  | @disconnected c d' now m _ sends hm hr hd h =>
    have hrow := markOffline_node h d
    split at hrow
    · rename_i hdd
      subst hdd
      obtain ⟨n, hn, hst⟩ := waiting_row hw hrow
      obtain ⟨q, hq, rfl⟩ := Option.map_eq_some_iff.mp hn
      have hknown : s.db.nodes.get? d ≠ none := by simp [hq]
      exact Or.inl ⟨⟨⟨m,hm,hr,hd⟩,hknown,markOffline_covered h hknown⟩,Or.inl hst.symm⟩
    · rename_i hdd
      refine Or.inr (hw.of_same (by rw [statusOf, hrow, statusOf]) fun hidle => ?_)
      rcases markOffline_cases h with ⟨-, rfl, -⟩ | ⟨_, -, he, -⟩
      · exact hidle
      · refine (lastLeases_of_ends he hidle).idle fun l hl hid hld => hdd ?_
        exact hld.symm.trans ((mem_leasesOf_ids d' _ hl).mp hid).1
  | received hm h => exact Or.inr (waiting_message hc h hw)
  | @checked timeout now =>
    have hrows : ∀ n ∈ staleNodes s.db timeout now, s.db.nodes.get? n.deviceId ≠ none :=
      fun n hn => by simp [staleNodes_rows s.db timeout now hn]
    have hnd := staleNodes_nodup s.db timeout now
    have htake := takeDown_node d now (staleNodes s.db timeout now) hrows hnd
    by_cases h : TakenDown d now s.db (staleNodes s.db timeout now)
    · obtain ⟨n, hn, hst⟩ := waiting_row hw (htake.1 h)
      obtain ⟨q, -, rfl⟩ := Option.map_eq_some_iff.mp hn
      exact Or.inl ⟨h,Or.inl hst.symm⟩
    · refine Or.inr (hw.of_same ?_ (takeDown_idle now _ hrows hnd h))
      rw [statusOf, htake.2 h, statusOf]

/-- A waiting node was waiting before, or the step parked it. -/
theorem waiting_step (hc : Consistent s.db) (hw : Waiting (step e s).db d st) :
    (Parks s d e ∧ (st = .offline ∨ st = .releasing)) ∨ Waiting s.db d st := by
  by_cases hrel : ∃ user req now, e = .release user req now
  · obtain ⟨user, req, now, rfl⟩ := hrel
    exact (waiting_release hw).imp_left (fun h => ⟨h.1,Or.inr h.2⟩)
  · exact waiting_effect hc (step_effect e s) hw fun user req now h => hrel ⟨user,req,now,h⟩

end Steps

end CloudPlay.ParkedNodes
