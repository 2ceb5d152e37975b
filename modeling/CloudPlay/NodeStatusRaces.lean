import CloudPlay.RentalRaces
import CloudPlay.TransactionRely

/-!
# No update of a node's status is lost

A rental and a request that saves a node, in two threads, while time passes in
others. When every save finds the status that was read, and no administrator
frees an assigned node, the tables come out as after one request and then the
other. `_node_connected` and `_update_node_hello` save the status they have
read, and `AdminSetNodeStateView` saves FREE, whatever has happened since.
-/

set_option autoImplicit false

namespace CloudPlay.NodeStatusRaces
open KeyedTable ControlPlaneModels ControlPlaneSerializers ControlPlaneDatabase ControlPlaneViews
open ControlPlaneConsumer ControlPlanePrograms RentalTables RentalStages NodeSaves NodeSave
open ExclusiveAssignment (ann)
open RentalRaces TransactionProgram TransactionRely TransitionRun SequentialExecution

/-- A consumer saves a status only over the one it has read, and the
administrator does not save FREE over ASSIGNED. -/
def unlost : Expectations where
  reportedNode n s := (s.db.nodes.get? n.deviceId).all (fun row => row.status = n.status)
  requestedState n status s :=
    (s.db.nodes.get? n.deviceId).all (fun row => ¬(status = .free ∧ row.status = .assigned))

section Handlers

/-- What the save of `_node_connected` makes of a row. -/
def connectedColumns (c : String) (now : Instant) (n : Node) (active : Bool) (row : Node) : Node :=
  { row with
    connectionId := some c
    lastSeen := now
    status := (connectedNode c now active n).status }

theorem connectedColumns_deviceId (c : String) (now : Instant) (n : Node) (active : Bool)
    (row : Node) : (connectedColumns c now n active row).deviceId = row.deviceId := rfl

def connectedSave (d c : String) : NodeSave where
  deviceId := d
  creates := true
  asks n := !n.blocked
  columns := connectedColumns c
  change now active := connectedNode c now active
  expects := unlost.reportedNode
  result _ := none
  sees n row := row = n ∧ n.deviceId = d
  tracks := true
  columns_deviceId := connectedColumns_deviceId c
  change_deviceId now active := connectedNode_deviceId c now active
  sees_self _ h := ⟨rfl,h⟩
  columns_change now n active engaged row h hactive := by
    obtain ⟨rfl, -⟩ := h
    cases hb : row.blocked with
    | true => simp [connectedColumns, connectedNode, hb]
    | false =>
      obtain rfl := hactive (by simp [hb])
      rfl
  change_created _ _ _ _ _ _ := rfl
  tracked _ n old row s h hexp hrow := by
    obtain ⟨rfl, hd⟩ := h
    subst hd
    simpa [unlost, hrow] using hexp
  untracked h := by cases h
  notFreed now n active row s h _ _ hassigned hactive := by
    obtain ⟨rfl, -⟩ := h
    have hb : row.blocked = false := by simp [Node.blocked, hassigned]
    obtain rfl := hactive (by simp [hb])
    simp [connectedColumns, connectedNode, hassigned]

/-- What the save of `_update_node_hello` makes of a row. -/
def helloColumns (hello : NodeHello) (now : Instant) (n : Node) (active : Bool) (row : Node) :
    Node :=
  { row with
    region := (helloNode hello now active n).region
    gpuTier := (helloNode hello now active n).gpuTier
    agentVersion := (helloNode hello now active n).agentVersion
    capabilities := (helloNode hello now active n).capabilities
    lastSeen := now
    status := (helloNode hello now active n).status }

theorem helloColumns_deviceId (hello : NodeHello) (now : Instant) (n : Node) (active : Bool)
    (row : Node) : (helloColumns hello now n active row).deviceId = row.deviceId := rfl

def helloSave (d : String) (hello : NodeHello) : NodeSave where
  deviceId := d
  creates := true
  asks n := n.status = .offline ∨ n.status = .releasing
  columns := helloColumns hello
  change now active := helloNode hello now active
  expects := unlost.reportedNode
  result _ := none
  sees n row := row = n ∧ n.deviceId = d
  tracks := true
  columns_deviceId := helloColumns_deviceId hello
  change_deviceId now active := helloNode_deviceId hello now active
  sees_self _ h := ⟨rfl,h⟩
  columns_change now n active engaged row h hactive := by
    obtain ⟨rfl, -⟩ := h
    by_cases hst : row.status = .offline ∨ row.status = .releasing
    · obtain rfl := hactive (by simpa using hst)
      rfl
    · simp [helloColumns, helloNode, hst]
  change_created _ _ _ _ _ _ := rfl
  tracked _ n old row s h hexp hrow := by
    obtain ⟨rfl, hd⟩ := h
    subst hd
    simpa [unlost, hrow] using hexp
  untracked h := by cases h
  notFreed now n active row s h _ _ hassigned _ := by
    obtain ⟨rfl, -⟩ := h
    simp [helloColumns, helloNode, hassigned]

/-- The administrator looks at the connection of the node only. -/
def stateSave (d : String) (wanted : NodeStatus) : NodeSave where
  deviceId := d
  creates := false
  asks _ := false
  columns _ n _ row := { row with status := adminState n wanted }
  change _ _ row := { row with status := adminState row wanted }
  expects n := unlost.requestedState n (adminState n wanted)
  result n := some (ok (.node (serializeNode { n with status := adminState n wanted })))
  sees n row := row.connectionId = n.connectionId ∧ n.deviceId = d
  tracks := false
  columns_deviceId _ _ _ _ := rfl
  change_deviceId _ _ _ := rfl
  sees_self _ h := ⟨rfl,h⟩
  columns_change now n active engaged row h _ := by
    have hconn : row.hasConnection = n.hasConnection := by
      rw [Node.hasConnection, Node.hasConnection, h.1]
    have hsame : adminState n wanted = adminState row wanted := by
      cases wanted <;> simp [adminState, hconn]
    rw [hsame]
  change_created h := by cases h
  tracked h := by cases h
  untracked _ _ := ⟨rfl,fun _ _ h => h⟩
  notFreed now n active row s h hexp hrow hassigned _ := by
    obtain ⟨-, rfl⟩ := h
    simpa [unlost, hrow, hassigned] using hexp

/-- A request that is turned away. -/
def noSave (d : String) : NodeSave where
  deviceId := d
  creates := false
  asks _ := false
  columns _ _ _ row := row
  change _ _ row := row
  expects _ := anyState
  result _ := none
  sees _ _ := True
  tracks := false
  columns_deviceId _ _ _ _ := rfl
  change_deviceId _ _ _ := rfl
  sees_self _ _ := trivial
  columns_change _ _ _ _ _ _ _ := rfl
  change_created h := by cases h
  tracked h := by cases h
  untracked _ _ := ⟨rfl,fun _ _ _ => trivial⟩
  notFreed _ _ _ row _ _ _ _ h _ := by simp [h]

theorem nodeConnectedProgram_eq (d c : String) : nodeConnectedProgram unlost d c =
    timezoneNow (fun now => getOrCreateNode d ((connectedSave d c).next now)) := by
  unfold nodeConnectedProgram
  refine congrArg timezoneNow (funext fun now => congrArg _ (funext fun n => ?_))
  cases hb : n.blocked <;> simp only [NodeSave.next, connectedSave, NodeSave.saved, hb] <;> rfl

theorem nodeHelloProgram_eq (d : String) (hello : NodeHello) : nodeHelloProgram unlost d hello =
    timezoneNow (fun now => getOrCreateNode d ((helloSave d hello).next now)) := by
  unfold nodeHelloProgram
  refine congrArg timezoneNow (funext fun now => congrArg _ (funext fun n => ?_))
  by_cases hst : n.status = .offline ∨ n.status = .releasing <;>
    simp only [NodeSave.next, helloSave, NodeSave.saved, hst] <;> rfl

/-- The requests that save a node's status. -/
def SavesNode : Request → Prop
  | .nodeConnected _ _ => True
  | .nodeHello _ _ => True
  | .setNodeState _ _ _ => True
  | _ => False

/-- Each of them is a handler that reads a node and saves it, or is turned
away at once. -/
theorem saves_node {h : Request} (hsaves : SavesNode h) : ∃ N : NodeSave,
    (∀ now db, handled h now db = N.effect now db) ∧
    ((∃ fits, N.Stage (h.program unlost) fits ∧ ∀ db, fits db) ∨
      (∃ x, h.program unlost = .done x) ∧ ∀ now db, N.effect now db = db) := by
  cases h with
  | nodeConnected d c =>
    refine ⟨connectedSave d c,fun _ _ => rfl,Or.inl ⟨_,?_,fun _ => trivial⟩⟩
    rw [Request.program, nodeConnectedProgram_eq]
    exact .clock rfl
  | nodeHello d hello =>
    refine ⟨helloSave d hello,fun _ _ => rfl,Or.inl ⟨_,?_,fun _ => trivial⟩⟩
    rw [Request.program, nodeHelloProgram_eq]
    exact .clock rfl
  | setNodeState user d state =>
    have hidle (now : Instant) (db : Database) : (noSave d).effect now db = db :=
      updateNode_same fun _ _ _ => rfl
    cases hstaff : user.isStaff with
    | false =>
      refine ⟨noSave d,fun now db => ?_,Or.inr ⟨?_,hidle⟩⟩
      · rw [hidle]
        simp [handled, adminOnly, hstaff, answer]
      · simp [Request.program, adminProgram, hstaff, answered]
    | true =>
      cases hstate : requestedState state with
      | none =>
        refine ⟨noSave d,fun now db => ?_,Or.inr ⟨?_,hidle⟩⟩
        · rw [hidle]
          simp [handled, adminOnly, hstaff, adminSetNodeState, hstate, answer]
        · simp [Request.program, adminProgram, hstaff, setNodeStateProgram, hstate, answered]
      | some wanted =>
        refine ⟨stateSave d wanted,fun now db => ?_,Or.inl ⟨_,?_,fun _ => trivial⟩⟩
        · simp only [handled, adminOnly, hstaff, adminSetNodeState, hstate, if_true]
          cases hn : db.nodes.get? d with
          | none => exact (effect_missing rfl hn).symm
          | some n =>
            refine updateNode_congr fun q hq hd => ?_
            rw [row_unique hn hq hd]
            rfl
        · simp only [Request.program, adminProgram, hstaff, setNodeStateProgram, hstate, if_true]
          exact .reading (notFound "node not found") 0 rfl
  | _ => exact absurd hsaves id

end Handlers

section Runs
variable {user : User} {req : RentRequest} {draw : ℕ → Uuid × String} {N : NodeSave}
variable {start db : Database} {tr : RentThread} {th : NodeThread} {c : Store}

/-- A thread in which time passes. -/
def IsTick (t : Thread Store Row (Option Response)) : Prop :=
  t.inside = false ∧ ((∃ τ, t.prog = tickProgram τ) ∨ t.prog = .done none)

theorem tick_advance {t : Thread Store Row (Option Response)} (h : IsTick t) :
    (t.advance c).1.db = c.db ∧ IsTick (t.advance c).2 := by
  obtain ⟨prog, inside, held, redo, waits⟩ := t
  obtain ⟨hout, hprog⟩ := h
  simp only at hout hprog
  subst hout
  rcases hprog with ⟨τ, rfl⟩ | rfl
  · simp only [tickProgram, Thread.advance, Bool.false_eq_true, if_false]
    split
    · exact ⟨rfl,rfl,Or.inr rfl⟩
    · exact ⟨rfl,rfl,Or.inr rfl⟩
  · exact ⟨rfl,rfl,Or.inr rfl⟩

/-- What a thread waits for does not matter. -/
theorem phase_waits (w w' : Option Row) (h : Phase user req draw N start db tr th) :
    Phase user req draw N start db { tr with waits := w } { th with waits := w' } := by
  cases h with
  | bothEarly hvalid hearly hkey hunsaved hfits huntouched =>
    exact .bothEarly hvalid hearly hkey ⟨hunsaved.outside,hunsaved.redo,hunsaved.stage⟩ hfits
      huntouched
  | nodeSaved now hvalid hearly hkey hsaved hdb =>
    exact .nodeSaved now hvalid hearly hkey hsaved hdb
  | rentBound hbound hids hallots hleases hunsaved hfits hfirst =>
    exact .rentBound ⟨hbound.inside,hbound.held,hbound.bound⟩ hids hallots hleases
      ⟨hunsaved.outside,hunsaved.redo,hunsaved.stage⟩ hfits hfirst
  | savedBound hbound hrows hsaved htarget =>
    exact .savedBound ⟨hbound.inside,hbound.held,hbound.bound⟩ hrows hsaved htarget
  | rentOver hover hunsaved hfits hnew hfirst =>
    exact .rentOver hover ⟨hunsaved.outside,hunsaved.redo,hunsaved.stage⟩ hfits hnew hfirst
  | stale hover hstale =>
    exact .stale hover ⟨hstale.outside,hstale.redo,hstale.tracks,hstale.stage⟩
  | bothOver hover hsaved htarget => exact .bothOver hover hsaved htarget

/-- The rental is in the first thread, the other request in the second. -/
structure Racing (user : User) (req : RentRequest) (draw : ℕ → Uuid × String) (N : NodeSave)
    (start : Database) (s : System Store Row (Option Response)) : Prop where
  phase : ∃ tr th, s.threads[0]? = some tr ∧ s.threads[1]? = some th ∧
    Phase user req draw N start s.committed.db tr th
  ticks : ∀ j t, s.threads[j]? = some t → j ≠ 0 → j ≠ 1 → IsTick t

/-- A thread moves on in which time passes. -/
theorem Racing.tick {s : System Store Row (Option Response)} {i : ℕ} {c' : Store}
    {t' : Thread Store Row (Option Response)} (h : Racing user req draw N start s) (h0 : i ≠ 0)
    (h1 : i ≠ 1) (hdb : c'.db = s.committed.db) (ht' : IsTick t') :
    Racing user req draw N start (s.replace i (c',t')) := by
  obtain ⟨⟨tr, th, hr, hh, hphase⟩, hticks⟩ := h
  refine ⟨⟨tr,th,?_,?_,hdb ▸ hphase⟩,fun j u hu hj0 hj1 => ?_⟩
  · rw [replace_other h0.symm, hr]
  · rw [replace_other h1.symm, hh]
  · rcases replace_threads hu with ⟨-, rfl⟩ | ⟨-, hold⟩
    · exact ht'
    · exact hticks j u hold hj0 hj1

/-- One of the two requests moves on. -/
theorem Racing.request {s : System Store Row (Option Response)} {i : ℕ} {c' : Store}
    {t' tr th : Thread Store Row (Option Response)} (h : Racing user req draw N start s)
    (hi : i = 0 ∨ i = 1) (hr : (s.replace i (c',t')).threads[0]? = some tr)
    (hh : (s.replace i (c',t')).threads[1]? = some th)
    (hphase : Phase user req draw N start c'.db tr th) :
    Racing user req draw N start (s.replace i (c',t')) := by
  refine ⟨⟨tr,th,hr,hh,hphase⟩,fun j u hu hj0 hj1 => ?_⟩
  rcases replace_threads hu with ⟨rfl, -⟩ | ⟨-, hold⟩
  · exact absurd hi (by simp [hj0, hj1])
  · exact h.ticks j u hold hj0 hj1

theorem racing_step {i : ℕ} {s : System Store Row (Option Response)}
    (hf : Fresh (.run i) s) (h : Racing user req draw N start s) :
    Racing user req draw N start (step (.run i) s) := by
  obtain ⟨tr, th, hr, hh, hphase⟩ := h.phase
  simp only [step]
  split
  · exact h
  · rename_i t hi
    by_cases h0 : i = 0
    · subst h0
      obtain rfl := Option.some.inj (hr.symm.trans hi)
      split
      · refine h.request (Or.inl rfl) (replace_self hr _) ?_ (phase_waits _ th.waits hphase)
        exact (replace_other (by decide) _).trans hh
      · have hnext := rent_advance (phase_waits none th.waits hphase)
        exact h.request (Or.inl rfl) (replace_self hr _)
          ((replace_other (by decide) _).trans hh) hnext
    · by_cases h1 : i = 1
      · subst h1
        obtain rfl := Option.some.inj (hh.symm.trans hi)
        split
        · refine h.request (Or.inr rfl) ?_ (replace_self hh _) (phase_waits tr.waits _ hphase)
          exact (replace_other (by decide) _).trans hr
        · rename_i hfree
          have hnext := save_advance (phase_waits tr.waits none hphase)
            (hf th hh hfree) (free_row hfree hr (by decide))
          exact h.request (Or.inr rfl) ((replace_other (by decide) _).trans hr)
            (replace_self hh _) hnext
      · have htick : IsTick { t with waits := none } := h.ticks i t hi h0 h1
        split
        · exact h.tick h0 h1 rfl (h.ticks i t hi h0 h1)
        · obtain ⟨hdb, htick'⟩ := tick_advance (c := s.committed) htick
          exact h.tick h0 h1 hdb htick'

theorem racing_run (ms : List Move)
    (s : System Store Row (Option Response)) (hms : ∀ m ∈ ms, ∃ i, m = .run i)
    (hf : Meets step Fresh ms s) (h : Racing user req draw N start s) :
    Racing user req draw N start (run step ms s) := by
  induction ms generalizing s with
  | nil => exact h
  | cons m ms ih =>
    obtain ⟨i, rfl⟩ := hms m List.mem_cons_self
    have hnext := racing_step hf.1 h
    exact ih _ (fun m hm => hms m (List.mem_cons_of_mem _ hm)) hf.2 hnext

theorem unsaved_unfinished {fits : Database → Prop} (h : N.IsUnsaved th fits) : ¬Finished th := by
  obtain ⟨-, -, hstage⟩ := h
  generalize hp : th.prog = p at hstage
  rintro (⟨x, hx⟩ | hx) <;> rw [hp] at hx <;> cases hstage <;> cases hx

theorem stale_unfinished (h : N.IsStale th db) : ¬Finished th := by
  obtain ⟨-, -, -, now, n, old, row, hprog, -⟩ := h
  rintro (⟨x, hx⟩ | hx) <;> rw [hx] at hprog <;> rcases hprog with hprog | ⟨active, hprog⟩ <;>
    cases hprog

theorem early_unfinished {known : Option Body} (h : IsEarly user req draw known tr) :
    ¬Finished tr := by
  obtain ⟨hearly, -⟩ := h
  generalize hp : tr.prog = p at hearly
  generalize tr.inside = inside at hearly
  rintro (⟨x, hx⟩ | hx) <;> rw [hp] at hx <;> cases hearly <;> cases hkey : req.clientRequestId <;>
    simp [hkey, lookup, timezoneNow, query, rentTransaction_eq, rentLocking, forUpdate] at hx

theorem bound_unfinished {ids : List String} {outcome : Database → Database}
    (h : IsBound user req draw tr ids outcome) : ¬Finished tr := by
  obtain ⟨-, -, hbound⟩ := h
  generalize hp : tr.prog = p at hbound
  generalize tr.redo = redo at hbound
  rintro (⟨x, hx⟩ | hx) <;> rw [hp] at hx
  all_goals
    cases hbound with
    | refused => cases hx
    | pricing => cases hx
    | @loop price now i nodes k e _ _ hk =>
      cases nodes with
      | nil =>
        obtain ⟨body, hbody⟩ := hk []
        simp [allocate, hbody] at hx
      | cons n nodes => cases hx
    | assigning => cases hx

theorem phase_target (h : Phase user req draw N start db tr th) (hr : Finished tr)
    (hh : Finished th) : Target user req draw N start db := by
  cases h with
  | bothEarly _ hearly => exact absurd hr (early_unfinished hearly)
  | nodeSaved _ _ hearly => exact absurd hr (early_unfinished hearly)
  | rentBound hbound => exact absurd hr (bound_unfinished hbound)
  | savedBound hbound => exact absurd hr (bound_unfinished hbound)
  | rentOver _ hunsaved => exact absurd hh (unsaved_unfinished hunsaved)
  | stale _ hstale => exact absurd hh (stale_unfinished hstale)
  | bothOver _ _ htarget => exact htarget

end Runs

/-- The threads of a rental, of another request and of the time that passes. -/
def racers (user : User) (req : RentRequest) (draw : ℕ → Uuid × String) (h : Request)
    (times : List Instant) : List Request :=
  .rent user req draw::h::times.map Request.tick

section Begin
variable {user : User} {req : RentRequest} {draw : ℕ → Uuid × String} {N : NodeSave} {h : Request}
variable {times : List Instant} {s : Store}

theorem racers_ticks (j : ℕ) (t : Thread Store Row (Option Response))
    (ht : (serving unlost (racers user req draw h times) s).threads[j]? = some t) (h0 : j ≠ 0)
    (h1 : j ≠ 1) : IsTick t := by
  match j with
  | 0 => exact absurd rfl h0
  | 1 => exact absurd rfl h1
  | j+2 =>
    simp only [serving, begin, racers, List.map_cons, List.getElem?_cons_succ, List.map_map,
      List.getElem?_map, Option.map_eq_some_iff] at ht
    obtain ⟨τ, -, rfl⟩ := ht
    exact ⟨rfl,Or.inl ⟨τ,rfl⟩⟩

theorem phase_begin (hsaves : (∃ fits, N.Stage (h.program unlost) fits ∧ ∀ db, fits db) ∨
      (∃ x, h.program unlost = .done x) ∧ ∀ now db, N.effect now db = db) :
    Phase user req draw N s.db s.db (TransactionProgram.start (rentProgram user req draw))
      (TransactionProgram.start (h.program unlost)) := by
  by_cases hvalid : Invalid req
  · have hdone : IsOver user req (TransactionProgram.start (rentProgram user req draw)) := by
      refine Or.inl ⟨_,if_pos hvalid⟩
    have hidle (now : Instant) (db : Database) : rented user req draw now db = db :=
      rentLease_invalid hvalid
    rcases hsaves with ⟨fits, hstage, hfits⟩ | ⟨hx, heffect⟩
    · refine .rentOver hdone ⟨rfl,fun _ => rfl,hstage⟩ (hfits _) (newAssigned_same rfl) ?_
      exact ⟨s.clock,fun now' => by rw [hidle]⟩
    · refine .bothOver hdone (Or.inl hx) ⟨⟨s.clock,s.clock,Or.inl ?_⟩,
        (newAssigned_same rfl).notFreed⟩
      rw [hidle, heffect]
  · have hearly : IsEarly user req draw (existing s.db user .rent req.clientRequestId)
        (TransactionProgram.start (rentProgram user req draw)) := by
      refine ⟨?_,fun _ => rfl⟩
      have hprog : rentProgram user req draw = lookup user .rent req.clientRequestId
          (timezoneNow (rentTransaction user req draw)) := if_neg hvalid
      exact hprog ▸ .lookup
    rcases hsaves with ⟨fits, hstage, hfits⟩ | ⟨hx, heffect⟩
    · exact .bothEarly hvalid hearly rfl ⟨rfl,fun _ => rfl,hstage⟩ (hfits _) (Or.inl rfl)
    · exact .nodeSaved s.clock hvalid hearly rfl (Or.inl hx) (heffect _ _).symm

end Begin

/-- In every run of a rental with a request that saves a node, in which each
save of a consumer finds the status it has read and no administrator saves FREE
over ASSIGNED: when both have answered, nodes and leases are as after one of
them and then the other, and no node with a new lease is free. -/
theorem node_status_run (user : User) (req : RentRequest) (draw : ℕ → Uuid × String) (h : Request)
    (times : List Instant) (s : Store) (ms : List Move) (hsaves : SavesNode h)
    (hms : ∀ m ∈ ms, ∃ i, m = .run i)
    (hf : Meets step Fresh ms (serving unlost (racers user req draw h times) s))
    (hdone : ∀ i < 2, ∃ t, Finished t ∧
      (run step ms (serving unlost (racers user req draw h times) s)).threads[i]? = some t) :
    Serial (handled (.rent user req draw)) (handled h) s.db
      (run step ms (serving unlost (racers user req draw h times) s)).committed.db ∧
    NotFreed s.db (run step ms (serving unlost (racers user req draw h times) s)).committed.db := by
  obtain ⟨N, heffect, hbegin⟩ := saves_node hsaves
  have hrace : Racing user req draw N s.db (serving unlost (racers user req draw h times) s) :=
    ⟨⟨_,_,rfl,rfl,phase_begin hbegin⟩,racers_ticks⟩
  obtain ⟨tr, th, hr, hh, hphase⟩ := (racing_run ms _ hms hf hrace).phase
  obtain ⟨tr', hdoner, hr'⟩ := hdone 0 (by decide)
  obtain ⟨th', hdoneh, hh'⟩ := hdone 1 (by decide)
  obtain rfl := Option.some.inj (hr.symm.trans hr')
  obtain rfl := Option.some.inj (hh.symm.trans hh')
  have hsame : handled h = N.effect := funext fun now => funext fun db => heffect now db
  obtain ⟨hserial, hfreed⟩ := phase_target hphase hdoner hdoneh
  exact ⟨hsame ▸ hserial,hfreed⟩

/-- One node is free. -/
def freeNodeRun : List ControlPlaneServer.Event :=
  [.connect (.device "node-1") "c1" 1,.receive "c1" (.nodeHello "cn" "a" "1.0" none) 2]

def freeNodeStore : Store :=
  ⟨(run ControlPlaneServer.step freeNodeRun (ControlPlaneServer.initial 0)).db,5⟩

def oneNode : RentRequest := ⟨"cn","a",.hour,1,none⟩

def oneDraw (_ : ℕ) : Uuid × String := (1,"t1")

def reconnecting : List Request :=
  racers ann oneNode oneDraw (.nodeConnected "node-1" "c2") []

/-- The node connects again when the rental has committed. -/
def connectedAfterwards : List Move := List.replicate 11 (.run 0) ++ List.replicate 5 (.run 1)

/-- The node connects again, and the rental commits between its query and its
save. -/
def connectedAround : List Move :=
  List.replicate 3 (.run 1) ++ List.replicate 11 (.run 0) ++ List.replicate 2 (.run 1)

theorem connected_afterwards_serial :
    Serial (handled (.rent ann oneNode oneDraw)) (handled (.nodeConnected "node-1" "c2"))
      freeNodeStore.db
      (run step connectedAfterwards (serving unlost reconnecting freeNodeStore)).committed.db ∧
    NotFreed freeNodeStore.db
      (run step connectedAfterwards (serving unlost reconnecting freeNodeStore)).committed.db := by
  refine node_status_run ann oneNode oneDraw (.nodeConnected "node-1" "c2") [] freeNodeStore
    connectedAfterwards trivial (fun m hm => ?_) (by decide) (fun i hi => ?_)
  · rcases List.mem_append.mp hm with h | h
    · exact ⟨0,(List.mem_replicate.mp h).2⟩
    · exact ⟨1,(List.mem_replicate.mp h).2⟩
  · match i with
    | 0 => exact ⟨_,Or.inl ⟨_,rfl⟩,rfl⟩
    | 1 => exact ⟨_,Or.inl ⟨_,rfl⟩,rfl⟩

def freeNode (c : String) (t : Instant) : Node :=
  { deviceId := "node-1", region := "cn", gpuTier := "a", status := .free, connectionId := some c,
    lastSeen := t, agentVersion := some "1.0" }

/-- The tables while the node is free, and when it is rented. -/
def oneFree (c : String) (t : Instant) : Database :=
  { Database.empty 0 with nodes := Table.empty.insert (freeNode c t) rfl }

def oneRented (now : Instant) : Database :=
  { Database.empty 0 with
    nodes := Table.empty.insert { freeNode "c1" 2 with status := .assigned } rfl
    leases := Table.empty.insert (newLease ann.id .hour (getPrice freeNodeStore.db "cn" "a" .hour)
      now (oneDraw 0) (freeNode "c1" 2)) rfl }

/-- Whichever comes first, the node is assigned when both have run. -/
theorem serial_assigned {db : Database}
    (h : Serial (handled (.rent ann oneNode oneDraw)) (handled (.nodeConnected "node-1" "c2"))
      freeNodeStore.db db) : db.nodes.rows.map Node.status = [.assigned] := by
  obtain ⟨now, now', h | h⟩ := h
  · have hfirst : handled (.rent ann oneNode oneDraw) now freeNodeStore.db = oneRented now := rfl
    rw [tables_nodes h, hfirst]
    rfl
  · have hfirst : handled (.nodeConnected "node-1" "c2") now' freeNodeStore.db =
        oneFree "c2" now' := rfl
    rw [tables_nodes h, hfirst]
    rfl

theorem connected_around_freed :
    ¬(Serial (handled (.rent ann oneNode oneDraw)) (handled (.nodeConnected "node-1" "c2"))
        freeNodeStore.db
        (run step connectedAround (serving unlost reconnecting freeNodeStore)).committed.db ∨
      NotFreed freeNodeStore.db
        (run step connectedAround (serving unlost reconnecting freeNodeStore)).committed.db) := by
  have hstatus : (run step connectedAround
      (serving unlost reconnecting freeNodeStore)).committed.db.nodes.rows.map Node.status =
        [.free] := by decide
  have hrows : (run step connectedAround
      (serving unlost reconnecting freeNodeStore)).committed.db.leases.rows.map Lease.deviceId =
        ["node-1"] := by decide
  have hnone : freeNodeStore.db.leases.rows = [] := by decide
  have hfree : ((run step connectedAround (serving unlost reconnecting
      freeNodeStore)).committed.db.nodes.get? "node-1").map Node.status = some .free := by decide
  generalize (run step connectedAround
    (serving unlost reconnecting freeNodeStore)).committed.db = db at *
  rintro (hserial | hfreed)
  · exact absurd (hstatus.symm.trans (serial_assigned hserial)) (by decide)
  · obtain ⟨l, hl, hd⟩ : ∃ l ∈ db.leases.rows, l.deviceId = "node-1" :=
      List.mem_map.mp (hrows ▸ List.mem_cons_self)
    obtain ⟨n, hn, hst⟩ := Option.map_eq_some_iff.mp hfree
    refine hfreed l hl ?_ n (hd ▸ hn) hst
    show l ∉ freeNodeStore.db.leases.rows
    simp [hnone]

end CloudPlay.NodeStatusRaces
