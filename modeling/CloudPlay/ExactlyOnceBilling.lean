import CloudPlay.DisciplinedRequests
import CloudPlay.LeaseLockOrder

/-!
# Each lease is billed once

Customers, administrators, closing sockets and the heartbeat checker end
leases at the same time. All of them lock the lease before they look at it,
except the forced release of a single lease, which reads it, opens a
transaction and bills what it has read. As long as that lease has not ended
in between, every lease is billed exactly once.
-/

set_option autoImplicit false

namespace CloudPlay.ExactlyOnceBilling
open ControlPlaneModels ControlPlaneSerializers ControlPlaneDatabase ControlPlaneViews
open ControlPlanePrograms LeaseDiscipline DisciplinedRequests TransactionProgram TransactionRely
open TransitionRun
open ExclusiveAssignment (ann admin)
open LeaseLockOrder (rentedStore)

def BilledOnce (db : Database) (l : Lease) : Prop :=
  (l.endedAt.isSome ↔ ∃ b, db.recordsOf l.leaseId = [b]) ∧
  ∀ b ∈ db.recordsOf l.leaseId, l.amount = some b.amount ∧ l.billedUnits = some b.billedUnits ∧
    l.billingUnit = b.billingUnit ∧ l.endReason = b.endReason

/-- The lease that the administrator has read has not been ended by others
when its end is saved. -/
def StillOpen (l : Lease) (s : Store) : Prop :=
  ∀ row ∈ s.db.leases.get? l.leaseId, row.endedAt = none

instance (l : Lease) (s : Store) : Decidable (StillOpen l s) :=
  inferInstanceAs (Decidable (∀ _ ∈ _, _))

def openWhenForced : Expectations := { unlockedLease := fun l _ s => StillOpen l s }

theorem closes_open {l row : Lease} {t timeZone : Instant} (hopen : row.endedAt = none)
    (hunit : row.billingUnit = l.billingUnit) : Closes (fun _ => True) l t timeZone row :=
  ⟨hopen,hunit,fun _ => trivial⟩

theorem endsWell_openWhenForced : EndsWell (fun _ => True) openWhenForced where
  locked _ _ _ _ _ _ hopen := closes_open hopen rfl
  unlocked _ row _ _ _ hexp hrow _ hkept :=
    closes_open (of_decide_eq_true hexp row hrow) hkept.billingUnit
  ready _ _ _ _ := trivial
  fresh _ _ _ _ _ _ := trivial

theorem billedOnce_of_charged {db : Database} {l : Lease} (h : Charged l (charges db l.leaseId)) :
    BilledOnce db l := by
  cases he : l.endedAt with
  | none =>
    have hnone : db.recordsOf l.leaseId = [] := by
      rw [Charged, he] at h
      exact List.map_eq_nil_iff.mp h
    simp [BilledOnce, he, hnone]
  | some t =>
    rw [Charged, he] at h
    obtain ⟨amount, units, hamount, hunits, hcharges⟩ := h
    obtain ⟨b, hb, hfields⟩ := List.map_eq_singleton_iff.mp hcharges
    obtain ⟨rfl, rfl, hunit, hreason⟩ := by simpa using hfields
    refine ⟨by simp [he, hb],fun b' hb' => ?_⟩
    have hsame : b' = b := by simpa [hb] using hb'
    exact hsame ▸ ⟨hamount,hunits,hunit.symm,hreason.symm⟩

/-- At every moment of every run in which no lease is ended by force that has
ended since it was read, each lease has ended if and only if there is exactly
one record of it, which says what the lease says. -/
theorem billed_once_run (rs : List Request) (s : Store) (ms before after : List Move)
    (hledger : Ledger s.db) (hms : ms = before ++ after)
    (h : Meets step Fresh ms (serving openWhenForced rs s)) :
    ∀ l ∈ (run step before (serving openWhenForced rs s)).committed.db.leases,
      BilledOnce (run step before (serving openWhenForced rs s)).committed.db l := by
  subst hms
  have hinv : (leaseDiscipline (fun _ => True)).Inv s := inv_iff.mpr ⟨hledger,fun _ _ => trivial⟩
  have hrun := (serving_run endsWell_openWhenForced hinv h).1
  exact fun l hl => billedOnce_of_charged ((inv_iff.mp hrun).1.charged l hl)

/-- Both end the lease, the administrator by force. -/
def bothEnd : List Request := [.forceReleaseLease admin 1,.release ann { leaseIds := [.uuid 1] }]

theorem ledger_rented : Ledger rentedStore.db := by
  have hopen : ∀ l ∈ rentedStore.db.leases.rows, l.endedAt = none ∧ l.status ≠ .ended := by
    decide
  exact ledger_open rfl hopen

/-- The administrator saves before the customer gets the lock. -/
def forcedFirst : List Move :=
  List.replicate 5 (.run 0) ++ List.replicate 3 (.run 1) ++ List.replicate 5 (.run 0) ++
    List.replicate 9 (.run 1)

theorem forced_first_bills_once :
    (run step forcedFirst (serving openWhenForced bothEnd rentedStore)).threads.map
      (fun t => t.result.isSome) = [true,true] ∧
    ∀ l ∈ (run step forcedFirst (serving openWhenForced bothEnd rentedStore)).committed.db.leases,
      BilledOnce (run step forcedFirst
        (serving openWhenForced bothEnd rentedStore)).committed.db l := by
  refine ⟨by decide,?_⟩
  exact billed_once_run bothEnd rentedStore forcedFirst forcedFirst [] ledger_rented
    (List.append_nil _).symm (by decide)

/-- The customer's release runs after the administrator has read the lease. -/
def forcedLast : List Move :=
  [.run 0] ++ List.replicate 12 (.run 1) ++ List.replicate 9 (.run 0)

theorem forced_last_bills_twice :
    (run step forcedLast (serving {} bothEnd rentedStore)).threads.map
      (fun t => t.result.isSome) = [true,true] ∧
    ∃ l ∈ (run step forcedLast (serving {} bothEnd rentedStore)).committed.db.leases,
      ¬BilledOnce (run step forcedLast (serving {} bothEnd rentedStore)).committed.db l := by
  have htwice : ∃ l ∈
      (run step forcedLast (serving {} bothEnd rentedStore)).committed.db.leases.rows,
      l.endedAt.isSome ∧ ((run step forcedLast
        (serving {} bothEnd rentedStore)).committed.db.recordsOf l.leaseId).length = 2 := by
    decide
  obtain ⟨l, hl, hended, hlength⟩ := htwice
  refine ⟨by decide,l,hl,fun hbilled => ?_⟩
  obtain ⟨b, hb⟩ := hbilled.1.mp hended
  simp [hb] at hlength

end CloudPlay.ExactlyOnceBilling
