import CloudPlay.ExactlyOnceBilling

/-!
# Start and end of a lease

The requests that end leases look at the clock before they lock anything,
while the agent's message may start a lease in between. When an end is saved
for an open lease whose start is the one that was read, and no later than the
end, all times of leases are in order, final, and paid for.
-/

set_option autoImplicit false

namespace CloudPlay.BillingTimestamps
open KeyedTable ControlPlaneModels ControlPlaneDatabase ControlPlaneViews LeaseLifecycle BillingRules
open ControlPlanePrograms LeaseDiscipline DisciplinedRequests TransactionProgram TransactionRely
open TransitionRun
open ExclusiveAssignment (ann)
open LeaseLockOrder (rentedStore)
open ExactlyOnceBilling (ledger_rented)

/-- A lease that has started and ended did so in this order, and costs at
least one unit. -/
def Timely (l : Lease) : Prop :=
  ∀ s ∈ l.startedAt, ∀ e ∈ l.endedAt, s ≤ e ∧ ∃ units, l.billedUnits = some units ∧ 1 ≤ units ∧
    l.amount = some (l.unitPrice.getD 0*(units : Money))

/-- The row is open, has the start that was read with the lease, and does not
start after the end that is saved. -/
def InTime (l : Lease) (endedAt : Instant) (s : Store) : Prop :=
  ∀ row ∈ s.db.leases.get? l.leaseId, row.endedAt = none ∧ row.startedAt = l.startedAt ∧
    ∀ started ∈ row.startedAt, started ≤ endedAt

instance (l : Lease) (endedAt : Instant) (s : Store) : Decidable (InTime l endedAt s) :=
  inferInstanceAs (Decidable (∀ _ ∈ _, _))

def inTimeWhenEnded : Expectations :=
  { lockedLease := fun l endedAt s => InTime l endedAt s
    unlockedLease := fun l endedAt s => InTime l endedAt s }

theorem timely_open {l : Lease} (h : l.endedAt = none) : Timely l := by
  intro s _ e he
  simp [h] at he

theorem charge_started {l : Lease} {started endedAt : Instant} (timeZone : Instant)
    (hs : l.startedAt = some started) (h : started ≤ endedAt) :
    charge l endedAt timeZone =
      ⟨billedUnits timeZone l.billingUnit started endedAt,
        l.unitPrice.getD 0*(billedUnits timeZone l.billingUnit started endedAt : Money)⟩ := by
  have hnot : ¬endedAt < started := not_lt.mpr h
  simp [charge, hs, computeBilling, hnot]

theorem closes_inTime {l row : Lease} {endedAt timeZone : Instant} {s : Store}
    (h : InTime l endedAt s) (hrow : s.db.leases.get? l.leaseId = some row) (hkept : Kept l row) :
    Closes Timely l endedAt timeZone row := by
  obtain ⟨hopen, hstart, htime⟩ := h row hrow
  refine ⟨hopen,hkept.billingUnit,fun reason => ?_⟩
  intro started hs e he
  have hs' : row.startedAt = some started := hs
  have hend : endedAt = e := Option.some.inj he
  have hle := htime started hs'
  have hcharge := charge_started timeZone (hstart.symm.trans hs') hle
  refine ⟨hend ▸ hle,_,rfl,?_,?_⟩
  · rw [hcharge]
    exact billedUnits_pos _ _ _ _
  · show some (charge l endedAt timeZone).amount = _
    rw [hcharge]
    simp [closedRow, hkept.unitPrice]

theorem endsWell_inTimeWhenEnded : EndsWell Timely inTimeWhenEnded where
  locked l _ _ _ hexp hl _ := closes_inTime (of_decide_eq_true hexp) hl (Kept.refl l)
  unlocked _ _ _ _ _ hexp hrow _ hkept := closes_inTime (of_decide_eq_true hexp) hrow hkept
  ready _ _ _ hopen := timely_open hopen
  fresh _ _ _ _ _ _ := timely_open rfl

/-- In every run in which every end is saved in time: at every moment the
leases are timely, and a start or an end that has been set stays as it is. -/
theorem timestamps_run (rs : List Request) (s : Store) (ms before after : List Move)
    (hledger : Ledger s.db) (htimely : ∀ l ∈ s.db.leases, Timely l) (hms : ms = before ++ after)
    (h : Meets step Fresh ms (serving inTimeWhenEnded rs s)) :
    ∀ l ∈ (run step before (serving inTimeWhenEnded rs s)).committed.db.leases, Timely l ∧
      ∃ l' ∈ (run step ms (serving inTimeWhenEnded rs s)).committed.db.leases.get? l.leaseId,
        (∀ t, l.startedAt = some t → l'.startedAt = some t) ∧
        (∀ t, l.endedAt = some t → l'.endedAt = some t) := by
  subst hms
  obtain ⟨hinv, hevolves⟩ :=
    serving_run endsWell_inTimeWhenEnded (inv_iff.mpr ⟨hledger,htimely⟩) h
  intro l hl
  have hget := (Table.mem_iff_get? _ l).mp hl
  obtain ⟨l', hl', hkept⟩ := hevolves (.lease l.leaseId) l hget
  exact ⟨(inv_iff.mp hinv).2 l hl,l',hl',hkept.startedAt,hkept.endedAt⟩

/-- The agent reports the lease ready while the customer releases it. -/
def readyWhileReleased : List Request :=
  [.release ann { leaseIds := [.uuid 1] },.leaseReady 1 "node-1",.tick 5]

theorem timely_rented : ∀ l ∈ rentedStore.db.leases, Timely l := by
  have hopen : ∀ l ∈ rentedStore.db.leases.rows, l.endedAt = none := by decide
  exact fun l hl => timely_open (hopen l hl)

/-- The lease starts before the customer's request looks at the clock. -/
def startedFirst : List Move :=
  List.replicate 10 (.run 1) ++ [.run 2] ++ List.replicate 12 (.run 0)

theorem started_first_timely :
    (run step startedFirst (serving inTimeWhenEnded readyWhileReleased rentedStore)).threads.map
      (fun t => t.result.isSome) = [true,true,true] ∧
    ∀ l ∈ (run step startedFirst
      (serving inTimeWhenEnded readyWhileReleased rentedStore)).committed.db.leases, Timely l := by
  refine ⟨by decide,fun l hl => ?_⟩
  exact (timestamps_run readyWhileReleased rentedStore startedFirst startedFirst [] ledger_rented
    timely_rented (List.append_nil _).symm (by decide) l hl).1

/-- The customer's request looks at the clock first, and then waits. -/
def startedLast : List Move :=
  [.run 0,.run 2] ++ List.replicate 10 (.run 1) ++ List.replicate 12 (.run 0)

theorem started_last_free :
    (run step startedLast (serving {} readyWhileReleased rentedStore)).threads.map
      (fun t => t.result.isSome) = [true,true,true] ∧
    ∃ l ∈ (run step startedLast
        (serving {} readyWhileReleased rentedStore)).committed.db.leases,
      l.startedAt = some 5 ∧ l.endedAt = some 4 ∧ l.billedUnits = some 0 ∧ ¬Timely l := by
  have hfree : ∃ l ∈ (run step startedLast
      (serving {} readyWhileReleased rentedStore)).committed.db.leases.rows,
      l.startedAt = some 5 ∧ l.endedAt = some 4 ∧ l.billedUnits = some 0 := by decide
  obtain ⟨l, hl, hstart, hend, hunits⟩ := hfree
  refine ⟨by decide,l,hl,hstart,hend,hunits,fun htimely => ?_⟩
  exact absurd (htimely 5 hstart 4 hend).1 (by decide)

end CloudPlay.BillingTimestamps
