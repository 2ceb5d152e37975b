import CloudPlay.NodeTransitions
import CloudPlay.ExclusiveAssignment

/-!
# The life of a lease row

Every row that a step leaves in the lease table was there before, or comes
from one of the writes below: a rental draws it, one of the paths that end
leases finishes it, its node reports it ready or its user starts to stream.
-/

set_option autoImplicit false

namespace CloudPlay.LeaseTransitions
open KeyedTable ControlPlaneModels ControlPlaneSerializers ControlPlaneDatabase LeaseLifecycle
open ControlPlaneViews ControlPlaneConsumer ControlPlaneServer ControlPlaneEffects LeaseEnding
open StepEffects NodeTransitions ExclusiveAssignment

/-- Where a row of the table after a step comes from. -/
inductive LeaseOrigin (s : Server) : Event → Lease → Prop
  | kept {e : Event} {l : Lease} : l ∈ s.db.leases → LeaseOrigin s e l
  | rented {user : User} {req : RentRequest} {now : Instant} {draw : ℕ → Uuid × String} {i : ℕ}
      {price : Money} {n : Node} : i < req.count → LeaseOrigin s (.rent user req now draw)
        (newLease user.id req.billingUnit price now (draw i) n)
  | finished {e : Event} {reason : EndReason} {now : Instant} {l : Lease} : l ∈ s.db.leases →
      LeaseOrigin s e (finish reason.value now s.db.timeZone l)
  | timedOut {timeout : ℤ} {now : Instant} {l : Lease} : l ∈ s.db.leases → l.engaged = true →
      TakenDown l.deviceId now s.db (staleNodes s.db timeout now) →
      LeaseOrigin s (.checkHeartbeats timeout now) (finish heartbeatTimeout now s.db.timeZone l)
  | ready {c : String} {msg : ClientMessage} {now : Instant} {l : Lease} : l ∈ s.db.leases →
      LeaseOrigin s (.receive c msg now) (readyLease now l)
  | active {c : String} {msg : ClientMessage} {now : Instant} {l : Lease} : l ∈ s.db.leases →
      LeaseOrigin s (.receive c msg now) (activeLease l)

section Loops
variable {db db' : Database}

/-- The rows that renting adds carry the numbers it draws. -/
theorem rentNodes_drawn {user : UserId} {unit : BillingUnit} {price : Money} {now : Instant}
    {draw : ℕ → Uuid × String} {i : ℕ} {nodes : List Node} {ls : List Lease}
    (h : rentNodes user unit price now draw i nodes db = some (db',ls)) :
    ∀ l ∈ db'.leases, l ∈ db.leases ∨ ∃ j, j < i+nodes.length ∧
      ∃ n ∈ nodes, l = newLease user unit price now (draw j) n := by
  induction nodes generalizing i db ls with
  | nil =>
    simp only [rentNodes, Option.some.injEq, Prod.mk.injEq] at h
    obtain ⟨rfl, rfl⟩ := h
    exact fun l hl => Or.inl hl
  | cons n nodes ih =>
    simp only [rentNodes, Option.bind_eq_bind, Option.bind_eq_some_iff, Option.pure_def,
      Option.some.injEq, Prod.mk.injEq, Prod.exists] at h
    obtain ⟨db₁, h₁, db₂, ls₂, h₂, rfl, rfl⟩ := h
    intro l hl
    have hlen : (n::nodes).length = nodes.length+1 := List.length_cons
    rcases ih h₂ l hl with hl | ⟨j, hj, m, hm, rfl⟩
    · rw [Database.setNodeStatus_leases] at hl
      rcases ((createLease_mem h₁).2 l).mp hl with hl | rfl
      · exact Or.inl hl
      · exact Or.inr ⟨i,by omega,n,List.mem_cons_self,rfl⟩
    · exact Or.inr ⟨j,by omega,m,List.mem_cons_of_mem _ hm,rfl⟩

theorem ends_origin {reason : String} {t : Instant} {ids : List Uuid}
    (h : Ends reason t ids db db') : ∀ l' ∈ db'.leases,
      l' ∈ db.leases ∨ ∃ l ∈ db.leases, l' = finish reason t db.timeZone l := by
  intro l' hl'
  obtain ⟨l, hl, rfl⟩ := (h.mem l').mp hl'
  unfold finishIn
  split
  · exact Or.inr ⟨l,hl,rfl⟩
  · exact Or.inl hl

theorem releaseLeases_origin {user : UserId} {t : Instant} {refs : List LeaseRef}
    {out : ReleaseOutcome} (h : releaseLeases user t refs db = some out) :
    out.db.timeZone = db.timeZone ∧ ∀ l' ∈ out.db.leases,
      l' ∈ db.leases ∨ ∃ l ∈ db.leases,
        l' = finish EndReason.userRelease.value t db.timeZone l := by
  refine @releaseLeases_closure (fun a b => b.timeZone = a.timeZone ∧ ∀ l' ∈ b.leases,
    l' ∈ a.leases ∨ ∃ l ∈ a.leases, l' = finish EndReason.userRelease.value t a.timeZone l)
    (fun _ => ⟨rfl,fun _ hl => Or.inl hl⟩) ?_ user t ?_ refs db out h
  · rintro a b c ⟨hab, ha⟩ ⟨hbc, hb⟩
    refine ⟨hbc.trans hab,fun l hl => ?_⟩
    rcases hb l hl with hl | ⟨q, hq, rfl⟩
    · exact ha l hl
    · rw [hab]
      rcases ha q hq with hq | ⟨p, hp, rfl⟩
      · exact Or.inr ⟨q,hq,rfl⟩
      · exact Or.inr ⟨p,hp,finish_finish a.timeZone p⟩
  · intro id l l' a b hl he
    have hends := (endLease_ends (Table.get?_mem (leaseOfUser_eq_some.mp hl).1) he).1
    have hround : (setReleasing b l.deviceId).timeZone = b.timeZone := by
      rcases setReleasing_cases b l.deviceId with h | ⟨n, -, -, h⟩ <;> rw [h]
      rfl
    refine ⟨hround.trans hends.timeZone,fun q hq => ?_⟩
    rw [setReleasing_leases] at hq
    exact ends_origin hends q hq

theorem modify_origin {i : Uuid} {f : Lease → Lease} (hf : ∀ l, (f l).leaseId = l.leaseId) :
    ∀ l' ∈ (db.updateLease i f hf).leases, l' ∈ db.leases ∨ ∃ l ∈ db.leases, l' = f l := by
  intro l' hl'
  obtain ⟨l, hl, rfl⟩ := (Table.mem_modify db.leases i f hf l').mp hl'
  split
  · exact Or.inr ⟨l,hl,rfl⟩
  · exact Or.inl hl

open Classical in
/-- The loop over silent nodes finishes the engaged leases of the nodes it
gets to and no others. -/
theorem takeDown_leases (now : Instant) (nodes : List Node)
    (hrows : ∀ n ∈ nodes, db.nodes.get? n.deviceId ≠ none)
    (hnd : (nodes.map Node.deviceId).Nodup) :
    (takeDown now nodes db).1.leases.rows = db.leases.rows.map (fun l =>
      if TakenDown l.deviceId now db nodes ∧ l.engaged = true then
        finish heartbeatTimeout now db.timeZone l else l) := by
  induction nodes generalizing db with
  | nil => simp [takeDown, TakenDown]
  | cons n nodes ih =>
    rw [List.map_cons, List.nodup_cons] at hnd
    have hn := hrows n List.mem_cons_self
    cases hm : markNodeOfflineAndEndLeases n.deviceId heartbeatTimeout now db with
    | none =>
      have hc := ((markOffline_eq_none_iff _ _ _ _).mp hm).2
      simp [takeDown, hm, TakenDown, hc]
    | some p =>
      obtain ⟨db₁, sends⟩ := p
      have hc := markOffline_covered hm hn
      have hothers : ∀ q ∈ nodes, q.deviceId ≠ n.deviceId := by
        intro q hq hid
        exact hnd.1 (hid ▸ List.mem_map_of_mem hq)
      have hrest := @ih db₁ (fun q hq => by
        rw [markOffline_node hm, if_neg (hothers q hq)]
        exact hrows q (List.mem_cons_of_mem _ hq)) hnd.2
      rcases markOffline_cases hm with ⟨hnone, -, -⟩ | ⟨-, -, he, -⟩
      · exact absurd hnone hn
      have htz : db₁.timeZone = db.timeZone := he.timeZone
      have hstep : (takeDown now (n::nodes) db).1 = (takeDown now nodes db₁).1 := by
        simp [takeDown, hm]
      have hleases : db₁.leases.rows = db.leases.rows.map (finishIn heartbeatTimeout now
          ((db.leasesOf n.deviceId Lease.engaged).map Lease.leaseId) db.timeZone) := he.leases
      rw [hstep, hrest, hleases, List.map_map]
      refine List.map_congr_left fun l hl => ?_
      have hl : l ∈ db.leases := hl
      have hin := mem_leasesOf_ids n.deviceId Lease.engaged hl
      have hsame : TakenDown l.deviceId now db₁ nodes ↔ TakenDown l.deviceId now db nodes :=
        takenDown_congr (fun q hq => markOffline_others hm (hothers q hq))
      have hdevice : (finishIn heartbeatTimeout now ((db.leasesOf n.deviceId Lease.engaged).map
          Lease.leaseId) db.timeZone l).deviceId = l.deviceId := by
        unfold finishIn
        split <;> simp
      simp only [Function.comp_apply, hdevice, hsame, htz, TakenDown, hc, true_and]
      by_cases hd : l.deviceId = n.deviceId
      · have hout : ¬TakenDown l.deviceId now db nodes := fun h => hnd.1 (hd ▸ h.mem)
        simp [finishIn, hin, hd, hd ▸ hout]
      · have hkeep : finishIn heartbeatTimeout now ((db.leasesOf n.deviceId Lease.engaged).map
            Lease.leaseId) db.timeZone l = l := by
          rw [finishIn, if_neg]
          exact fun h => hd (hin.mp h).1
        simp [hkeep, Ne.symm hd]

end Loops

theorem lease_origin (e : Event) (s : Server) :
    ∀ l ∈ (step e s).db.leases, LeaseOrigin s e l := by
  have heffect := step_effect e s
  generalize (step e s).db = db' at heffect ⊢
  intro l hl
  cases heffect with
  | quiet h => exact .kept (h.leases ▸ hl)
  | rented h hrows =>
    rw [hrows.leases] at hl
    rcases rentNodes_drawn h l hl with hl | ⟨j, hj, n, -, rfl⟩
    · exact .kept hl
    · refine .rented (hj.trans_le ?_)
      rw [Nat.zero_add]
      exact List.length_take_le _ _
  | released h hrows =>
    rw [hrows.leases] at hl
    rcases (releaseLeases_origin h).2 l hl with hl | ⟨q, hq, rfl⟩
    · exact .kept hl
    · exact .finished hq
  | registered hnew => exact .kept hl
  | stateSet hu hw hn => exact .kept hl
  | leaseForced hu hq he =>
    rw [setReleasing_leases] at hl
    rcases ends_origin (endLease_ends (Table.get?_mem hq) he).1 l hl with hl | ⟨q, hq, rfl⟩
    · exact .kept hl
    · exact .finished hq
  | nodeForced hu hn hb he =>
    rw [Database.setNodeStatus_leases] at hl
    rcases ends_origin he l hl with hl | ⟨q, hq, rfl⟩
    · exact .kept hl
    · exact .finished hq
  | deleted hu hnone => exact .kept (List.mem_filter.mp hl).1
  | patched hu => exact .kept hl
  | connected hnone hd hc =>
    rw [nodeConnected, Database.updateNode_leases, Database.getOrCreateNode_leases] at hl
    exact .kept hl
  | disconnected hm hr hd hmark =>
    rcases markOffline_cases hmark with ⟨-, rfl, -⟩ | ⟨n, -, he, -⟩
    · exact .kept hl
    · rcases ends_origin he l hl with hl | ⟨q, hq, rfl⟩
      · exact .kept hl
      · exact .finished hq
  | received hm heff =>
    cases heff with
    | none => exact .kept hl
    | seen d hr hd hlife => exact .kept hl
    | hello d hello hr hd hmsg =>
      rw [updateNodeHello, Database.updateNode_leases, Database.getOrCreateNode_leases] at hl
      exact .kept hl
    | ready id claimed d hr hmsg hd =>
      unfold markLeaseReady at hl
      split at hl
      · exact .kept hl
      · split at hl
        · exact .kept hl
        · split at hl
          · exact .kept hl
          · rcases modify_origin (readyLease_leaseId _) l hl with hl | ⟨q, hq, rfl⟩
            · exact .kept hl
            · exact .ready hq
    | active id q hr hq =>
      rcases modify_origin activeLease_leaseId l hl with hl | ⟨q, hq, rfl⟩
      · exact .kept hl
      · exact .active hq
  | @checked timeout now =>
    have hrows := takeDown_leases now (staleNodes s.db timeout now)
      (fun n hn => by rw [staleNodes_rows s.db timeout now hn]; exact Option.some_ne_none n)
      (staleNodes_nodup s.db timeout now)
    rw [Table.mem_rows, hrows, List.mem_map] at hl
    obtain ⟨q, hq, rfl⟩ := hl
    split
    · rename_i hboth
      exact .timedOut hq hboth.2 hboth.1
    · exact .kept hq

/-- A row keeps its device for as long as its id is not drawn again. -/
theorem lease_device {e : Event} {s : Server} {l' : Lease} (h : LeaseOrigin s e l') :
    (∃ l ∈ s.db.leases, l.leaseId = l'.leaseId ∧ l.deviceId = l'.deviceId) ∨
    ∃ user req now draw i, e = .rent user req now draw ∧ i < req.count ∧
      l'.leaseId = (draw i).1 := by
  cases h with
  | kept hl => exact Or.inl ⟨_,hl,rfl,rfl⟩
  | rented hi => exact Or.inr ⟨_,_,_,_,_,rfl,hi,rfl⟩
  | finished hl => exact Or.inl ⟨_,hl,by simp,by simp⟩
  | timedOut hl hen hdown => exact Or.inl ⟨_,hl,by simp,by simp⟩
  | ready hl => exact Or.inl ⟨_,hl,rfl,rfl⟩
  | active hl => exact Or.inl ⟨_,hl,rfl,rfl⟩

end CloudPlay.LeaseTransitions
