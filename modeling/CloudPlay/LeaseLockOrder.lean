import CloudPlay.ControlPlanePrograms
import CloudPlay.ExclusiveAssignment
import CloudPlay.LockOrder

/-!
# Lease transactions and deadlocks

A release and `_mark_lease_ready` lock a lease and then its node; the offline
handler and the forced release of a node lock the node and then its leases; a
release of several leases locks them in the order of the request, and rent its
nodes by their time of last sight. No order of the rows agrees with all of
them. Requests that wait only in agreement with one order never deadlock.
-/

set_option autoImplicit false

namespace CloudPlay.LeaseLockOrder
open ControlPlaneModels ControlPlaneSerializers ControlPlaneViews ControlPlanePrograms
open TransactionProgram LockOrder TransitionRun
open ControlPlaneServer (initial)
open ExclusiveAssignment (ann rentedRun)

/-- In a run in which, for some order of the rows, whoever has to wait for a
row holds only rows below it, no cycle of waiting transactions is ever
reached. -/
theorem deadlock_free_run {τ : Type*} [Preorder τ] (rank : Row → τ) (rs : List Request)
    (s : Store) (ms before after : List Move) (hms : ms = before ++ after)
    (h : Meets step (WaitsUpwards rank) ms (serving {} rs s)) :
    ¬Deadlocked (run step before (serving {} rs s)) := by
  subst hms
  have hbefore := meets_of_append step _ before after _ h
  have hup : Upwards rank (run step before (serving {} rs s)) :=
    run_invariant step (upwards_step rank) before _ hbefore (upwards_begin rank _ s)
  exact not_deadlocked hup

/-- The server in the middle of a rental. -/
def rentedStore : Store := ⟨(run ControlPlaneServer.step rentedRun (initial 0)).db,4⟩

def leaseFirst : Row → ℕ
  | .lease _ => 0
  | .node _ => 1

/-- The customer releases the lease while its agent reports it ready. -/
def releaseMeetsReady : List Request :=
  [.leaseReady 1 "node-1",.release ann { leaseIds := [.uuid 1] }]

/-- The release finds the lease locked, and goes on when it is free. -/
def releaseWaits : List Move :=
  [.run 0,.run 0,.run 0,.run 1,.run 1,.run 1,.run 0,.run 0,.run 0,.run 0,.run 0,.run 0,.run 1,
    .run 1,.run 1,.run 1,.run 1,.run 1,.run 1,.run 1]

theorem release_waits_upwards :
    (run step releaseWaits (serving {} releaseMeetsReady rentedStore)).threads.map
      (fun t => t.result.isSome) = [true,true] ∧
    ¬Deadlocked (run step releaseWaits
      (serving {} releaseMeetsReady rentedStore)) := by
  refine ⟨by decide,?_⟩
  exact deadlock_free_run leaseFirst releaseMeetsReady rentedStore releaseWaits releaseWaits []
    (List.append_nil _).symm (by decide)

/-- The device's socket closes while its agent reports the lease ready. -/
def disconnectMeetsReady : List Request := [.leaseReady 1 "node-1",.disconnect "node-1"]

/-- One has locked the lease and asks for the node, the other has locked the
node and asks for the lease. -/
def crossing : List Move :=
  [.run 0,.run 0,.run 0,.run 0,.run 0,.run 1,.run 1,.run 1,.run 1,.run 1,.run 1,.run 0]

theorem waitsFor_of_mem {s : System Store Row (Option Response)} {i j : ℕ} (hne : i ≠ j)
    (h : ∃ t ∈ s.threads[i]?, ∃ t' ∈ s.threads[j]?, ∃ r ∈ t.waits, r ∈ t'.held) :
    WaitsFor s i j := by
  obtain ⟨t, ht, t', ht', r, hr, hheld⟩ := h
  exact ⟨hne,t,t',r,ht,ht',hr,hheld⟩

theorem crossing_deadlocks :
    Deadlocked (run step crossing
      (serving {} disconnectMeetsReady rentedStore)) := by
  have hnode : WaitsFor (run step crossing
      (serving {} disconnectMeetsReady rentedStore)) 0 1 :=
    waitsFor_of_mem (by decide) (by decide)
  have hlease : WaitsFor (run step crossing
      (serving {} disconnectMeetsReady rentedStore)) 1 0 :=
    waitsFor_of_mem (by decide) (by decide)
  exact ⟨0,(Relation.TransGen.single hnode).tail hlease⟩

end CloudPlay.LeaseLockOrder
