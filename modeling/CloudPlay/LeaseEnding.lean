import CloudPlay.LeaseLifecycle

/-!
# What ending a set of leases does to the tables

Both loops that end leases run over rows as the table holds them, with no
lease twice. After them exactly the named rows are finished, the other rows
and tables are as before, and the new billing records are those of the named
leases that had not ended.
-/

set_option autoImplicit false

namespace CloudPlay.LeaseEnding
open KeyedTable ControlPlaneModels ControlPlaneDatabase LeaseLifecycle

variable {reason : String} {t : Instant} {db db' db'' : Database}

def finishIn (reason : String) (t : Instant) (ids : List Uuid) (timeZone : Instant) (l : Lease) :
    Lease :=
  if l.leaseId ∈ ids then finish reason t timeZone l else l

structure Ends (reason : String) (t : Instant) (ids : List Uuid) (db db' : Database) : Prop where
  leases : db'.leases.rows = db.leases.rows.map (finishIn reason t ids db.timeZone)
  nodes : db'.nodes = db.nodes
  prices : db'.prices = db.prices
  idempotencyKeys : db'.idempotencyKeys = db.idempotencyKeys
  accounts : db'.accounts = db.accounts
  timeZone : db'.timeZone = db.timeZone
  records : ∃ new, db'.billingRecords = db.billingRecords ++ new ∧
    ∀ b ∈ new, ∃ l ∈ db.leases, l.leaseId ∈ ids ∧ l.endedAt = none ∧ b.lease = l.leaseId ∧
      b.user = l.user

theorem finish_finish (tz : Instant) (l : Lease) :
    finish reason t tz (finish reason t tz l) = finish reason t tz l :=
  finish_ended reason t (finish_endedAt reason t tz l)

@[simp] theorem finishIn_leaseId (ids : List Uuid) (tz : Instant) (l : Lease) :
    (finishIn reason t ids tz l).leaseId = l.leaseId := by
  unfold finishIn
  split <;> simp

/-- A row still open afterwards was not named and has not changed. -/
theorem finishIn_live {ids : List Uuid} {tz : Instant} {l : Lease}
    (h : (finishIn reason t ids tz l).endedAt = none) :
    l.leaseId ∉ ids ∧ finishIn reason t ids tz l = l := by
  by_cases hi : l.leaseId ∈ ids
  · have he := finish_endedAt reason t tz l
    simp only [finishIn, if_pos hi] at h
    simp [h] at he
  · exact ⟨hi,by simp [finishIn, hi]⟩

theorem finishIn_append (ids ids' : List Uuid) (tz : Instant) (l : Lease) :
    finishIn reason t ids' tz (finishIn reason t ids tz l) =
      finishIn reason t (ids++ids') tz l := by
  by_cases h : l.leaseId ∈ ids <;> by_cases h' : l.leaseId ∈ ids' <;>
    simp [finishIn, h, h', finish_finish]

/-- Nothing happens to leases that have ended. -/
theorem ends_refl {ids : List Uuid} (h : ∀ l ∈ db.leases, l.leaseId ∈ ids → l.endedAt.isSome) :
    Ends reason t ids db db where
  leases := by
    refine (map_eq_self_iff.mpr fun l hl => ?_).symm
    by_cases hi : l.leaseId ∈ ids
    · simp [finishIn, hi, finish_ended reason t (h l hl hi)]
    · simp [finishIn, hi]
  nodes := rfl
  prices := rfl
  idempotencyKeys := rfl
  accounts := rfl
  timeZone := rfl
  records := ⟨[],by simp⟩

theorem Ends.get? {ids : List Uuid} (h : Ends reason t ids db db') (i : Uuid) :
    db'.leases.get? i = (db.leases.get? i).map (finishIn reason t ids db.timeZone) :=
  Table.get?_of_map (finishIn_leaseId ids db.timeZone) h.leases i

theorem Ends.mem {ids : List Uuid} (h : Ends reason t ids db db') (l' : Lease) :
    l' ∈ db'.leases ↔ ∃ l ∈ db.leases, finishIn reason t ids db.timeZone l = l' := by
  rw [Table.mem_rows, h.leases, List.mem_map]
  rfl

theorem Ends.append {ids ids' : List Uuid} (h : Ends reason t ids db db')
    (h' : Ends reason t ids' db' db'') : Ends reason t (ids++ids') db db'' where
  leases := by
    rw [h'.leases, h.leases, h.timeZone, List.map_map]
    exact List.map_congr_left fun l _ => finishIn_append ids ids' db.timeZone l
  nodes := h'.nodes.trans h.nodes
  prices := h'.prices.trans h.prices
  idempotencyKeys := h'.idempotencyKeys.trans h.idempotencyKeys
  accounts := h'.accounts.trans h.accounts
  timeZone := h'.timeZone.trans h.timeZone
  records := by
    obtain ⟨new, hnew, hfrom⟩ := h.records
    obtain ⟨new', hnew', hfrom'⟩ := h'.records
    refine ⟨new++new',by rw [hnew', hnew, List.append_assoc],?_⟩
    intro b hb
    rcases List.mem_append.mp hb with hb | hb
    · obtain ⟨l, hl, hi, hrest⟩ := hfrom b hb
      exact ⟨l,hl,List.mem_append_left _ hi,hrest⟩
    · obtain ⟨l, hl, hi, hlive, hrest⟩ := hfrom' b hb
      obtain ⟨l₀, hl₀, rfl⟩ := (h.mem l).mp hl
      have hkept := (finishIn_live hlive).2
      rw [hkept] at hi hlive hrest
      exact ⟨l₀,hl₀,List.mem_append_right _ hi,hlive,hrest⟩

theorem Ends.leases_eq_iff {ids : List Uuid} (h : Ends reason t ids db db') :
    db'.leases = db.leases ↔ ∀ l ∈ db.leases, l.leaseId ∈ ids → l.endedAt.isSome := by
  rw [Table.ext_iff, h.leases, map_eq_self_iff]
  refine forall_congr' fun l => forall_congr' fun _ => ?_
  by_cases hi : l.leaseId ∈ ids
  · simp only [finishIn, hi, if_true, true_implies]
    constructor
    · intro hl
      exact hl ▸ finish_endedAt reason t db.timeZone l
    · exact finish_ended reason t
  · simp [finishIn, hi]

theorem Ends.records_eq {ids : List Uuid} (h : Ends reason t ids db db')
    (hended : ∀ l ∈ db.leases, l.leaseId ∈ ids → l.endedAt.isSome) :
    db'.billingRecords = db.billingRecords := by
  obtain ⟨new, hnew, hfrom⟩ := h.records
  have hnil : new = [] := by
    refine List.eq_nil_iff_forall_not_mem.mpr fun b hb => ?_
    obtain ⟨l, hl, hid, hlive, -⟩ := hfrom b hb
    have hs := hended l hl hid
    simp [hlive] at hs
  simpa [hnil] using hnew

/-- `end_lease` does not raise on the lease. -/
def Billable (t timeZone : Instant) (l : Lease) : Prop :=
  l.endedAt.isSome ∨ fitsColumn (charge l t timeZone).amount

theorem endLease_billable (reason : String) {l : Lease} (h : Billable t db.timeZone l) :
    ∃ l' db', endLease reason t l db = some (l',db') := by
  unfold endLease
  split
  · exact ⟨_,_,rfl⟩
  · rename_i hlive
    have hfits := h.resolve_left hlive
    simp only [settle, Option.getD_some, hfits, if_true]
    exact ⟨_,_,rfl⟩

theorem endLease_unbillable {l : Lease} (h : ¬Billable t db.timeZone l) :
    endLease reason t l db = none := by
  rw [Billable, not_or] at h
  simp [endLease, settle, h.1, h.2]

/-- The rows of the other tables have no say in ending leases. -/
theorem Ends.withNodes {ids : List Uuid} (h : Ends reason t ids db db')
    (nodes : Table Node.deviceId) :
    Ends reason t ids { db with nodes := nodes } { db' with nodes := nodes } :=
  ⟨h.leases,rfl,h.prices,h.idempotencyKeys,h.accounts,h.timeZone,h.records⟩

theorem endLease_ends {l l' : Lease} (hl : l ∈ db.leases)
    (h : endLease reason t l db = some (l',db')) :
    Ends reason t [l.leaseId] db db' ∧ l' = finish reason t db.timeZone l := by
  rcases endLease_cases reason t h with ⟨hend, rfl, hdb⟩ | ⟨hlive, rfl, rfl⟩
  · subst hdb
    refine ⟨ends_refl ?_,(finish_ended reason t hend).symm⟩
    intro q hq hid
    rw [db'.leases.key_injective hq hl (List.mem_singleton.mp hid)]
    exact hend
  · refine ⟨⟨?_,rfl,rfl,rfl,rfl,rfl,_,rfl,?_⟩,(finish_live reason t hlive).symm⟩
    · rw [Database.createBillingRecord_leases, saveEnded_rows]
      refine List.map_congr_left fun q hq => ?_
      by_cases hid : q.leaseId = l.leaseId
      · rw [db.leases.key_injective hq hl hid]
        have hfin : finishIn reason t [l.leaseId] db.timeZone l =
            settle reason t db.timeZone l := by
          simp [finishIn, finish_live reason t hlive]
        rw [hfin, settle_leaseId, if_pos rfl]
        rfl
      · simp [finishIn, hid]
    · intro b hb
      rw [List.mem_singleton.mp hb]
      exact ⟨l,hl,List.mem_singleton.mpr rfl,hlive,rfl,rfl⟩

/-- Rows other than the one ended stay as they are. -/
theorem Ends.kept {l : Lease} {ls : List Lease} (h : Ends reason t [l.leaseId] db db')
    (hrows : ∀ q ∈ ls, q ∈ db.leases) (hout : l.leaseId ∉ ls.map Lease.leaseId) :
    ∀ q ∈ ls, q ∈ db'.leases := by
  intro q hq
  refine (h.mem q).mpr ⟨q,hrows q hq,?_⟩
  have hne : q.leaseId ≠ l.leaseId := fun hid => hout (hid ▸ List.mem_map_of_mem hq)
  simp [finishIn, hne]

/-- The loop over rows of the table. No row occurs twice, so each is still as
it was read when its turn comes. -/
theorem endLeases_ends {ls ls' : List Lease} (hrows : ∀ l ∈ ls, l ∈ db.leases)
    (hnd : (ls.map Lease.leaseId).Nodup) (h : endLeases reason t ls db = some (ls',db')) :
    Ends reason t (ls.map Lease.leaseId) db db' ∧ ls' = ls.map (finish reason t db.timeZone) := by
  induction ls generalizing db ls' with
  | nil =>
    simp only [endLeases, Option.some.injEq, Prod.mk.injEq] at h
    obtain ⟨rfl, rfl⟩ := h
    exact ⟨ends_refl (by simp),rfl⟩
  | cons l ls ih =>
    simp only [endLeases, Option.bind_eq_bind, Option.bind_eq_some_iff, Option.pure_def,
      Option.some.injEq, Prod.mk.injEq, Prod.exists] at h
    obtain ⟨l₁, db₁, h₁, ls₂, db₂, h₂, rfl, rfl⟩ := h
    rw [List.map_cons, List.nodup_cons] at hnd
    obtain ⟨he, rfl⟩ := endLease_ends (hrows l (List.mem_cons_self)) h₁
    have hkept := he.kept (fun q hq => hrows q (List.mem_cons_of_mem _ hq)) hnd.1
    obtain ⟨hes, rfl⟩ := ih hkept hnd.2 h₂
    rw [he.timeZone]
    exact ⟨he.append hes,rfl⟩

/-- The loop raises exactly when one of its leases cannot be billed. -/
theorem endLeases_eq_none_iff {ls : List Lease} (hrows : ∀ l ∈ ls, l ∈ db.leases)
    (hnd : (ls.map Lease.leaseId).Nodup) :
    endLeases reason t ls db = none ↔ ∃ l ∈ ls, ¬Billable t db.timeZone l := by
  induction ls generalizing db with
  | nil => simp [endLeases]
  | cons l ls ih =>
    rw [List.map_cons, List.nodup_cons] at hnd
    by_cases hb : Billable t db.timeZone l
    · obtain ⟨l₁, db₁, h₁⟩ := endLease_billable reason hb
      have he := (endLease_ends (hrows l List.mem_cons_self) h₁).1
      have hrest := ih (he.kept (fun q hq => hrows q (List.mem_cons_of_mem _ hq)) hnd.1) hnd.2
      rw [he.timeZone] at hrest
      simp only [List.exists_mem_cons_iff, hb, not_true, false_or, ← hrest]
      cases h₂ : endLeases reason t ls db₁ <;> simp [endLeases, h₁, h₂]
    · simp [endLeases, endLease_unbillable hb, hb]

theorem leasesOf_rows (d : String) (p : Lease → Bool) :
    ∀ l ∈ db.leasesOf d p, l ∈ db.leases := fun l hl =>
  ((Database.mem_leasesOf db d p l).mp hl).1

theorem leasesOf_nodup (db : Database) (d : String) (p : Lease → Bool) :
    ((db.leasesOf d p).map Lease.leaseId).Nodup := by
  have hsub := (List.filter_sublist (p := fun l => l.deviceId = d && p l)
    (l := db.leases.rows)).map Lease.leaseId
  exact (((List.perm_insertionSort _ _).map Lease.leaseId).nodup_iff).mpr
    (hsub.nodup db.leases.nodup)

theorem endLeasesOf_ends {d : String} {p : Lease → Bool} {ls : List Lease}
    (h : endLeases reason t (db.leasesOf d p) db = some (ls,db')) :
    Ends reason t ((db.leasesOf d p).map Lease.leaseId) db db' ∧
      ls = (db.leasesOf d p).map (finish reason t db.timeZone) :=
  endLeases_ends (leasesOf_rows d p) (leasesOf_nodup db d p) h

theorem mem_leasesOf_ids (d : String) (p : Lease → Bool) {l : Lease} (hl : l ∈ db.leases) :
    l.leaseId ∈ (db.leasesOf d p).map Lease.leaseId ↔ l.deviceId = d ∧ p l = true := by
  constructor
  · intro h
    obtain ⟨q, hq, hid⟩ := List.mem_map.mp h
    rw [Database.mem_leasesOf] at hq
    rw [← db.leases.key_injective hq.1 hl hid]
    exact hq.2
  · intro h
    exact List.mem_map_of_mem ((Database.mem_leasesOf db d p l).mpr ⟨hl,h⟩)

/-- The outcomes of `mark_node_offline_and_end_leases` that do not raise. -/
theorem markOffline_cases {d : String} {sends : List ControlPlaneSerializers.Send}
    (h : markNodeOfflineAndEndLeases d reason t db = some (db',sends)) :
    (db.nodes.get? d = none ∧ db' = db ∧ sends = []) ∨
    ∃ n, db.nodes.get? d = some n ∧
      Ends reason t ((db.leasesOf d Lease.engaged).map Lease.leaseId) (takeOffline db d t) db' ∧
      sends = (db.leasesOf d Lease.engaged).map
        (fun l => pushLeaseUpdate (finish reason t db.timeZone l)) ++ [pushPoolUpdate db'] := by
  cases hn : db.nodes.get? d with
  | none =>
    simp only [markNodeOfflineAndEndLeases, hn, Option.some.injEq, Prod.mk.injEq] at h
    exact Or.inl ⟨rfl,h.1.symm,h.2.symm⟩
  | some n =>
    simp only [markNodeOfflineAndEndLeases, hn, Option.bind_eq_bind, Option.bind_eq_some_iff,
      Option.pure_def, Option.some.injEq, Prod.mk.injEq, Prod.exists] at h
    obtain ⟨ls, db₁, h₁, rfl, rfl⟩ := h
    obtain ⟨he, rfl⟩ := endLeasesOf_ends h₁
    refine Or.inr ⟨n,rfl,he,?_⟩
    rw [List.map_map]
    rfl

/-- Every engaged lease of the device can be billed at this time. -/
def Covered (d : String) (t : Instant) (db : Database) : Prop :=
  ∀ l ∈ db.leases, l.deviceId = d → l.engaged = true → Billable t db.timeZone l

theorem markOffline_eq_none_iff (d : String) (reason : String) (t : Instant) (db : Database) :
    markNodeOfflineAndEndLeases d reason t db = none ↔
      db.nodes.get? d ≠ none ∧ ¬Covered d t db := by
  cases hn : db.nodes.get? d with
  | none => simp [markNodeOfflineAndEndLeases, hn]
  | some n =>
    have hloop := @endLeases_eq_none_iff reason t (takeOffline db d t) _
      (leasesOf_rows d Lease.engaged) (leasesOf_nodup _ d _)
    have hmark : markNodeOfflineAndEndLeases d reason t db = none ↔ endLeases reason t
        ((takeOffline db d t).leasesOf d Lease.engaged) (takeOffline db d t) = none := by
      simp only [markNodeOfflineAndEndLeases, hn]
      cases endLeases reason t ((takeOffline db d t).leasesOf d Lease.engaged)
        (takeOffline db d t) <;> simp
    have htz : (takeOffline db d t).timeZone = db.timeZone := rfl
    have hl : (takeOffline db d t).leases = db.leases := rfl
    rw [hmark, hloop]
    simp [Covered, Database.mem_leasesOf, htz, hl, and_assoc]

end CloudPlay.LeaseEnding
