import CloudPlay.ExclusiveAssignment
import CloudPlay.SequentialExecution
import CloudPlay.TransactionWrites

/-!
# Deleting a node next to rentals

`AdminDeleteNodeView` counts the active leases of the node, deletes its leases
with their billing records, and deletes the node, each in statements of its
own. When no rental of the node commits from the count on, no live lease is
deleted and the request does everything or nothing.
-/

set_option autoImplicit false

namespace CloudPlay.NodeDeletion
open KeyedTable ControlPlaneModels ControlPlaneSerializers ControlPlaneDatabase LeaseLifecycle
open ControlPlaneServer (ServerReachable)
open ControlPlaneViews ControlPlaneEffects ExclusiveAssignment
open ControlPlanePrograms SequentialExecution TransactionProgram TransactionWrites TransitionRun

def leasesWith (db : Database) (d : String) : List Lease := db.leasesOf d (fun _ => true)

/-- The two deletions of `QuerySet.delete`: the records refer to the leases. -/
def deleteRecords (picked : List Lease) (db : Database) : Database :=
  { db with
    billingRecords := db.billingRecords.filter (fun b => b.lease ∉ picked.map Lease.leaseId) }

def deleteLeases (picked : List Lease) (db : Database) : Database :=
  { db with leases := db.leases.filter (fun l => l.leaseId ∉ picked.map Lease.leaseId) }

/-- The foreign key refuses the deletion of a node with leases. -/
def removeNode (d : String) : Program :=
  save anyState [.node d] (fun db => (leasesWith db d).isEmpty) (fun db => deleteNode db d)
    (answered (ok (.deleted d)))

/-- `node.delete()` looks for protected objects first, and raises
`ProtectedError`. -/
def protectedNode (d : String) : Program :=
  query (fun db => if (leasesWith db d).isEmpty then removeNode d else .fail)

def removeLeases (d : String) (picked : List Lease) : Program :=
  save anyState (leaseRows picked) (fun _ => true) (deleteLeases picked)
    (.commit (protectedNode d))

def removeRecords (d : String) (picked : List Lease) : Program :=
  save anyState [] (fun _ => true) (deleteRecords picked) (removeLeases d picked)

/-- `Lease.objects.filter(device=node).delete()` selects the leases and deletes
in a transaction of its own what it has selected. -/
def selectLeases (d : String) : Program :=
  query (fun db => .enter (removeRecords d (leasesWith db d)))

def hasActiveLeases (active : ℕ) : Response :=
  errorResponse "HAS_ACTIVE_LEASES" ("Cannot delete node with " ++ toString active ++
    " active lease(s). Please release all leases first.") .none 400

def countLeases (d : String) : Program :=
  query (fun db =>
    let active := (db.leasesOf d Lease.unfinished).length
    if 0 < active then answered (hasActiveLeases active) else selectLeases d)

def deleteNodeProgram (d : String) : Program :=
  query (fun db =>
    match db.nodes.get? d with
    | none => answered (notFound "node not found")
    | some _ => countLeases d)

section Alone
variable {s : Store} {d : String}

theorem mem_leasesWith {db : Database} {l : Lease} :
    l ∈ leasesWith db d ↔ l ∈ db.leases ∧ l.deviceId = d := by
  simp [leasesWith, Database.mem_leasesOf]

theorem leasesWith_isEmpty {db : Database} :
    (leasesWith db d).isEmpty = true ↔ ∀ l ∈ db.leases, l.deviceId ≠ d := by
  rw [List.isEmpty_iff, List.eq_nil_iff_forall_not_mem]
  constructor
  · exact fun h l hl hd => h l (mem_leasesWith.mpr ⟨hl,hd⟩)
  · exact fun h l hl => h l (mem_leasesWith.mp hl).1 (mem_leasesWith.mp hl).2

theorem picked_id {db : Database} {l : Lease} (hl : l ∈ db.leases) :
    l.leaseId ∈ (leasesWith db d).map Lease.leaseId ↔ l.deviceId = d := by
  constructor
  · intro h
    obtain ⟨q, hq, hid⟩ := List.mem_map.mp h
    obtain ⟨hmem, hd⟩ := mem_leasesWith.mp hq
    exact db.leases.key_injective hmem hl hid ▸ hd
  · exact fun hd => List.mem_map_of_mem (mem_leasesWith.mpr ⟨hl,hd⟩)

theorem picked_record {db : Database} (id : Uuid) :
    id ∈ (leasesWith db d).map Lease.leaseId ↔
      ∃ l, db.leases.get? id = some l ∧ l.deviceId = d := by
  constructor
  · intro h
    obtain ⟨q, hq, rfl⟩ := List.mem_map.mp h
    obtain ⟨hmem, hd⟩ := mem_leasesWith.mp hq
    exact ⟨q,(db.leases.mem_iff_get? q).mp hmem,hd⟩
  · rintro ⟨l, hl, hd⟩
    have hid : l.leaseId = id := Table.get?_key hl
    exact hid ▸ List.mem_map_of_mem (mem_leasesWith.mpr ⟨Table.get?_mem hl,hd⟩)

/-- What was selected is deleted as in one step. -/
theorem deleteLeases_eq (db : Database) :
    deleteLeases (leasesWith db d) (deleteRecords (leasesWith db d) db) = deleteLeasesOf db d := by
  have hleases : db.leases.filter (fun l => l.leaseId ∉ (leasesWith db d).map Lease.leaseId) =
      db.leases.filter (fun l => l.deviceId ≠ d) := by
    refine Table.ext (List.filter_congr fun l hl => ?_)
    simp only [picked_id hl, ne_eq]
  have hrecords : db.billingRecords.filter (fun b =>
      b.lease ∉ (leasesWith db d).map Lease.leaseId) = db.billingRecords.filter (fun b =>
        (db.leases.get? b.lease).all (fun l => l.deviceId ≠ d)) := by
    refine List.filter_congr fun b _ => ?_
    simp only [picked_record]
    cases db.leases.get? b.lease <;> simp
  simp only [deleteLeases, deleteRecords, deleteLeasesOf, hleases, hrecords]

theorem deleteLeasesOf_none (db : Database) : (leasesWith (deleteLeasesOf db d) d).isEmpty := by
  rw [leasesWith_isEmpty]
  intro l hl
  simpa using ((Table.mem_filter _ _ _).mp hl).2

theorem exec_deleteNodeProgram : Answers ((deleteNodeProgram d).exec s) s
    (adminDeleteNode d s.db) := by
  simp only [deleteNodeProgram, query, Prog.exec, Prog.solo, adminDeleteNode]
  cases hn : s.db.nodes.get? d with
  | none => exact ⟨rfl,rfl⟩
  | some n =>
    simp only [countLeases, query, Prog.solo]
    split
    · exact ⟨rfl,rfl⟩
    · have hnone := @deleteLeasesOf_none d s.db
      rw [← deleteLeases_eq] at hnone
      simp only [selectLeases, removeRecords, removeLeases, save, query, protectedNode, Prog.solo,
        if_true, with_db, with_with, hnone]
      rw [removeNode, solo_save hnone]
      exact ⟨by rw [deleteLeases_eq]; rfl,rfl⟩

end Alone

section Rentals

/-- A change that adds leases, none of them ended. -/
structure Adds (u : Store → Store) : Prop where
  kept : ∀ s, ∀ l ∈ s.db.leases, l ∈ (u s).db.leases
  added : ∀ s, ∀ l ∈ (u s).db.leases, l ∈ s.db.leases ∨ Settled l

theorem adds_composes : Composes Adds where
  id := ⟨fun _ _ h => h,fun _ _ h => Or.inl h⟩
  comp u v hu hv := by
    refine ⟨fun s l hl => hu.kept _ l (hv.kept s l hl),fun s l hl => ?_⟩
    rcases hu.added _ l hl with h | h
    · exact hv.added s l h
    · exact Or.inr h

theorem adds_of_leases {u : Store → Store} (h : ∀ s, (u s).db.leases = s.db.leases) : Adds u :=
  ⟨fun s l hl => by rwa [h s],fun s l hl => Or.inl (by rwa [h s] at hl)⟩

theorem adds_createLease {l : Lease} (hl : Settled l) :
    Adds (fun s : Store => s.with ((s.db.createLease l).getD s.db)) := by
  have hrows (s : Store) : (s.db.createLease l).getD s.db = s.db ∨
      ∃ db', s.db.createLease l = some db' ∧ (s.db.createLease l).getD s.db = db' := by
    cases h : s.db.createLease l with
    | none => exact Or.inl rfl
    | some db' => exact Or.inr ⟨db',rfl,rfl⟩
  refine ⟨fun s q hq => ?_,fun s q hq => ?_⟩
  · show q ∈ ((s.db.createLease l).getD s.db).leases
    rcases hrows s with h | ⟨db', hcreate, h⟩
    · rwa [h]
    · rw [h]
      exact (createLease_mem hcreate).2 q |>.mpr (Or.inl hq)
  · have hq' : q ∈ ((s.db.createLease l).getD s.db).leases := hq
    rcases hrows s with h | ⟨db', hcreate, h⟩
    · exact Or.inl (h ▸ hq')
    · rw [h] at hq'
      rcases (createLease_mem hcreate).2 q |>.mp hq' with hold | rfl
      · exact Or.inl hold
      · exact Or.inr hl

variable {user : User} {req : RentRequest} {draw : ℕ → Uuid × String}

theorem writes_rememberKey (body : Body) (key : Option String) :
    Writes Adds (rememberKey user .rent key body) := by
  cases key with
  | none => trivial
  | some k =>
    refine ⟨adds_of_leases fun s => ?_,trivial,trivial⟩
    show ((s.db.createIdempotencyKey ⟨user.id,.rent,k,body⟩).getD s.db).leases = s.db.leases
    unfold Database.createIdempotencyKey
    cases s.db.idempotencyKeys.insert? ⟨user.id,.rent,k,body⟩ <;> rfl

theorem writes_allocate {id : UserId} {unit : BillingUnit} {price : Money} {now : Instant}
    {i : ℕ} {nodes : List Node} {k : List Lease → Program} (hk : ∀ ls, Writes Adds (k ls)) :
    Writes Adds (allocate id unit price now draw i nodes k) := by
  induction nodes generalizing i k with
  | nil => exact hk []
  | cons n nodes ih =>
    refine ⟨adds_createLease (newLease_settled n i),⟨?_,ih fun ls => hk _,trivial⟩,trivial⟩
    exact adds_of_leases fun _ => rfl

theorem writes_rentProgram : Writes Adds (rentProgram user req draw) := by
  unfold rentProgram
  split
  · trivial
  · have htransaction : Writes Adds (timezoneNow (rentTransaction user req draw)) := by
      intro v v'
      dsimp only
      split
      · trivial
      · exact fun v'' => writes_allocate fun ls => writes_rememberKey _ _
    unfold lookup
    split
    · exact htransaction
    · intro v
      dsimp only
      split
      · trivial
      · exact htransaction

theorem writes_tickProgram (t : Instant) : Writes Adds (tickProgram t) :=
  ⟨adds_of_leases fun _ => rfl,trivial,trivial⟩

end Rentals

abbrev Requests := System Store Row (Option Response)

/-- The request of the administrator runs in the first thread. -/
def deleting (user : User) (d : String) (others : List Request) (s : Store) : Requests :=
  begin (adminProgram user (deleteNodeProgram d)::others.map (Request.program {})) s

def Ended (t : Thread Store Row (Option Response)) : Prop := (∃ x, t.prog = .done x) ∨ t.prog = .fail

/-- The request deletes no lease that has not ended. -/
def KeepsLive : Move → Requests → Prop
  | .run 0, s => ∀ l ∈ s.committed.db.leases, l.endedAt = none →
      l ∈ (step (.run 0) s).committed.db.leases
  | _, _ => True

/-- The request changes neither nodes nor leases nor billing records. -/
def LeavesRows : Move → Requests → Prop
  | .run 0, s => SameRows s.committed.db (step (.run 0) s).committed.db
  | _, _ => True

/-- The node and all its leases are gone. -/
def Gone (d : String) (db : Database) : Prop :=
  db.nodes.get? d = none ∧ ∀ l ∈ db.leases, l.deviceId ≠ d

/-- The request has counted no active lease and has not ended. -/
inductive Counted (d : String) : Program → Prop
  | selecting : Counted d (selectLeases d)
  | entering (picked : List Lease) : Counted d (.enter (removeRecords d picked))
  | records (picked : List Lease) : Counted d (removeRecords d picked)
  | leases (picked : List Lease) : Counted d (removeLeases d picked)
  | committing : Counted d (.commit (protectedNode d))
  | looking : Counted d (protectedNode d)
  | removing : Counted d (removeNode d)

/-- The request has looked for the leases of the node and has found none; or
it has not looked yet. -/
def FoundNone (d : String) (t : Thread Store Row (Option Response)) (db : Database) : Prop :=
  t.prog ≠ selectLeases d ∧ (leasesWith db d).isEmpty = true

/-- Another thread leaves the leases of the node alone while the request is on
its way, and the request is not cut off when it has deleted some. -/
def Undisturbed (d : String) (kept : Prop) : Move → Requests → Prop
  | .run 0, _ => True
  | .run (j+1), s => ∀ t ∈ s.threads[0]?, Counted d t.prog →
      leasesWith (step (.run (j+1)) s).committed.db d = leasesWith s.committed.db d ∨
      (kept ∧ FoundNone d t s.committed.db)
  | .abort 0, s => ∀ t ∈ s.threads[0]?, Ended t ∨ kept
  | .abort (_+1), _ => True

section Steps
variable {d : String} {kept : Prop} {c : Store} {t : Thread Store Row (Option Response)}

/-- What has been selected: leases that have ended, and all that the node has,
if there are any. -/
structure Picked (d : String) (picked : List Lease) (db : Database) : Prop where
  rows : ∀ l ∈ picked, l ∈ db.leases ∧ l.deviceId = d ∧ l.endedAt.isSome
  all : picked ≠ [] → ∀ l ∈ db.leases, l.deviceId = d → l ∈ picked

/-- How far the request has come. -/
inductive Deleting (d : String) (kept : Prop) (db : Database) :
    Program → Bool → (Store → Store) → Prop
  | finding {redo : Store → Store} : (∀ s, redo s = s) → kept →
      Deleting d kept db (deleteNodeProgram d) false redo
  | counting {redo : Store → Store} : (∀ s, redo s = s) → kept →
      Deleting d kept db (countLeases d) false redo
  | selecting {redo : Store → Store} : (∀ s, redo s = s) → kept →
      (∀ l ∈ db.leases, l.deviceId = d → l.endedAt.isSome) →
      Deleting d kept db (selectLeases d) false redo
  | entering {picked : List Lease} {redo : Store → Store} : kept → Picked d picked db →
      Deleting d kept db (.enter (removeRecords d picked)) false redo
  | records {picked : List Lease} {redo : Store → Store} : (∀ s, redo s = s) → kept →
      Picked d picked db → Deleting d kept db (removeRecords d picked) true redo
  | leases {picked : List Lease} {redo : Store → Store} :
      (∀ s, redo s = s.with (deleteRecords picked s.db)) → kept → Picked d picked db →
      Deleting d kept db (removeLeases d picked) true redo
  | committing {picked : List Lease} {redo : Store → Store} :
      (∀ s, redo s = s.with (deleteLeases picked (deleteRecords picked s.db))) → kept →
      Picked d picked db → Deleting d kept db (.commit (protectedNode d)) true redo
  | looking {redo : Store → Store} : (∀ s, redo s = s) →
      kept ∨ (∀ l ∈ db.leases, l.deviceId ≠ d) →
      Deleting d kept db (protectedNode d) false redo
  | removing {redo : Store → Store} : (∀ s, redo s = s) →
      kept ∨ (∀ l ∈ db.leases, l.deviceId ≠ d) → Deleting d kept db (removeNode d) false redo
  | answered {x : Option Response} {inside : Bool} {redo : Store → Store} :
      Deleting d kept db (.done x) inside redo
  | raised {inside : Bool} {redo : Store → Store} : Deleting d kept db .fail inside redo

theorem deleteRecords_nil (db : Database) : deleteRecords [] db = db := by
  simp [deleteRecords]

theorem deleteLeases_nil (db : Database) : deleteLeases [] db = db := by
  have h : db.leases.filter (fun l => l.leaseId ∉ ([] : List Lease).map Lease.leaseId) =
      db.leases := Table.ext (by simp [Table.filter])
  simp only [deleteLeases, h]

theorem deleteLeases_keeps {picked : List Lease} {db : Database} (h : Picked d picked db) :
    ∀ l ∈ db.leases, l.endedAt = none →
      l ∈ (deleteLeases picked (deleteRecords picked db)).leases := by
  intro l hl hlive
  refine (Table.mem_filter _ _ _).mpr ⟨hl,?_⟩
  simp only [decide_eq_true_eq]
  intro hmem
  obtain ⟨q, hq, hid⟩ := List.mem_map.mp hmem
  obtain ⟨hrow, -, hended⟩ := h.rows q hq
  rw [db.leases.key_injective hrow hl hid, hlive] at hended
  cases hended

/-- All or nothing is deleted. -/
theorem deleteLeases_all {picked : List Lease} {db : Database} (h : Picked d picked db) :
    deleteLeases picked (deleteRecords picked db) = db ∨
      ∀ l ∈ (deleteLeases picked (deleteRecords picked db)).leases, l.deviceId ≠ d := by
  by_cases hnone : picked = []
  · subst hnone
    exact Or.inl (by rw [deleteRecords_nil, deleteLeases_nil])
  · refine Or.inr fun l hl hd => ?_
    obtain ⟨hrow, hout⟩ := (Table.mem_filter _ _ _).mp hl
    exact absurd (List.mem_map_of_mem (h.all hnone l hrow hd)) (by simpa using hout)

/-- What one statement of the request does. -/
structure Advances (d : String) (kept : Prop) (c c' : Store)
    (t' : Thread Store Row (Option Response)) : Prop where
  live : ∀ l ∈ c.db.leases, l.endedAt = none → l ∈ c'.db.leases
  fewer : ∀ l ∈ c'.db.leases, l ∈ c.db.leases
  next : Deleting d (kept ∧ SameRows c.db c'.db) c'.db t'.prog t'.inside t'.redo
  ends : Ended t' → (kept ∧ SameRows c.db c'.db) ∨ Gone d c'.db

theorem same_kept : (kept ∧ SameRows c.db c.db) = kept :=
  propext (and_iff_left (SameRows.refl c.db))

theorem advances_same {t' : Thread Store Row (Option Response)} (hk : kept)
    (h : Deleting d kept c.db t'.prog t'.inside t'.redo) : Advances d kept c c t' := by
  refine ⟨fun _ h _ => h,fun _ h => h,?_,fun _ => Or.inl ⟨hk,SameRows.refl c.db⟩⟩
  rw [same_kept]
  exact h

theorem advances_open {t' : Thread Store Row (Option Response)}
    (h : Deleting d kept c.db t'.prog t'.inside t'.redo) (hopen : ¬Ended t') :
    Advances d kept c c t' := by
  refine ⟨fun _ h _ => h,fun _ h => h,?_,fun hend => absurd hend hopen⟩
  rw [same_kept]
  exact h

theorem ended_of_none (hc : Consistent c.db) (h : ¬0 < (c.db.leasesOf d Lease.unfinished).length) :
    ∀ l ∈ c.db.leases, l.deviceId = d → l.endedAt.isSome := by
  intro l hl hd
  have hnone : c.db.leasesOf d Lease.unfinished = [] := by simpa using h
  rw [(hc l hl).2]
  by_contra hst
  have hmem : l ∈ c.db.leasesOf d Lease.unfinished :=
    (Database.mem_leasesOf c.db d _ l).mpr ⟨hl,hd,by cases h : l.status <;>
      simp [Lease.unfinished, h] at hst ⊢⟩
  rw [hnone] at hmem
  cases hmem

/-- One statement of a request that has not ended. -/
theorem delete_advance (hc : Consistent c.db)
    (h : Deleting d kept c.db t.prog t.inside t.redo) (hopen : ¬Ended t) :
    Advances d kept c (t.advance c).1 (t.advance c).2 := by
  obtain ⟨prog, inside, held, redo, waits⟩ := t
  simp only at h
  cases h with
  | finding hredo hk =>
    refine advances_same hk ?_
    simp only [deleteNodeProgram, query, Thread.advance, hredo]
    cases c.db.nodes.get? d with
    | none => exact .answered
    | some n => exact .counting hredo hk
  | counting hredo hk =>
    refine advances_same hk ?_
    simp only [countLeases, query, Thread.advance, hredo]
    split
    · exact .answered
    · rename_i hnone
      exact .selecting hredo hk (ended_of_none hc hnone)
  | selecting hredo hk hended =>
    refine advances_same hk ?_
    simp only [selectLeases, query, Thread.advance, hredo]
    refine .entering hk ⟨fun l hl => ?_,fun _ l hl hd => mem_leasesWith.mpr ⟨hl,hd⟩⟩
    obtain ⟨hrow, hd⟩ := mem_leasesWith.mp hl
    exact ⟨hrow,hd,hended l hrow hd⟩
  | entering hk hpicked => exact advances_same hk (.records (fun _ => rfl) hk hpicked)
  | @records picked _ hredo hk hpicked =>
    refine advances_same hk ?_
    simp only [removeRecords, save, Thread.advance, if_true]
    split
    · exact .records hredo hk hpicked
    · refine .leases (fun s => ?_) hk hpicked
      simp only [Function.comp_apply, hredo]
  | @leases picked _ hredo hk hpicked =>
    simp only [removeLeases, save, Thread.advance, if_true]
    split
    · exact advances_same hk (.leases hredo hk hpicked)
    · refine advances_same hk ?_
      refine .committing (fun s => ?_) hk hpicked
      simp only [Function.comp_apply, hredo, with_db, with_with]
  | @committing picked _ hredo hk hpicked =>
    simp only [Thread.advance, hredo]
    refine ⟨deleteLeases_keeps hpicked,fun l hl => ((Table.mem_filter _ _ _).mp hl).1,?_,?_⟩
    · refine .looking (fun _ => rfl) ?_
      rcases deleteLeases_all hpicked with h | h
      · exact Or.inl ⟨hk,by rw [with_db, h]; exact SameRows.refl _⟩
      · exact Or.inr h
    · rintro (⟨x, hx⟩ | hx) <;> cases hx
  | looking hredo hk =>
    simp only [protectedNode, query, Thread.advance, hredo]
    split
    · refine advances_open (.removing hredo hk) ?_
      rintro (⟨x, hx⟩ | hx) <;> cases hx
    · rename_i hsome
      refine advances_same (hk.resolve_right fun hnone => hsome ?_) .raised
      exact leasesWith_isEmpty.mpr hnone
  | removing hredo hk =>
    simp only [removeNode, save, Thread.advance, Bool.false_eq_true, if_false]
    split
    · rename_i hnone
      refine ⟨fun _ h _ => h,fun _ h => h,.answered,fun _ => Or.inr ⟨?_,?_⟩⟩
      · simp only [deleteNode, with_db, Table.get?_filter]
        cases hn : c.db.nodes.get? d with
        | none => rfl
        | some n => simp [Table.get?_key hn]
      · exact leasesWith_isEmpty.mp hnone
    · rename_i hsome
      refine advances_same (hk.resolve_right fun hnone => hsome ?_) .raised
      exact leasesWith_isEmpty.mpr hnone
  | answered => exact absurd (Or.inl ⟨_,rfl⟩) hopen
  | raised => exact absurd (Or.inr rfl) hopen

theorem ended_advance (h : Ended t) : (t.advance c).1 = c ∧ Ended (t.advance c).2 := by
  obtain ⟨prog, inside, held, redo, waits⟩ := t
  rcases h with ⟨x, rfl⟩ | rfl
  · exact ⟨rfl,Or.inl ⟨x,rfl⟩⟩
  · exact ⟨rfl,Or.inr rfl⟩

theorem mem_of_leasesWith {db db' : Database} (h : leasesWith db' d = leasesWith db d) {l : Lease}
    (hl : l ∈ db'.leases) (hd : l.deviceId = d) : l ∈ db.leases :=
  (mem_leasesWith.mp (h ▸ mem_leasesWith.mpr ⟨hl,hd⟩)).1

/-- What other threads add leaves the request where it is, as long as it does
not disturb. -/
theorem delete_others {db' : Database} (hadds : ∀ l ∈ c.db.leases, l ∈ db'.leases)
    (hquiet : Counted d t.prog →
      leasesWith db' d = leasesWith c.db d ∨ (kept ∧ FoundNone d t c.db))
    (h : Deleting d kept c.db t.prog t.inside t.redo) :
    Deleting d kept db' t.prog t.inside t.redo := by
  obtain ⟨prog, inside, held, redo, waits⟩ := t
  simp only at h hquiet ⊢
  have hpicked {picked : List Lease} (hp : Picked d picked c.db) (hcounted : Counted d prog) :
      Picked d picked db' := by
    refine ⟨fun l hl => ?_,fun hsome l hl hd => ?_⟩
    · obtain ⟨hrow, hd, hended⟩ := hp.rows l hl
      exact ⟨hadds l hrow,hd,hended⟩
    · rcases hquiet hcounted with hsame | ⟨-, -, hnone⟩
      · exact hp.all hsome l (mem_of_leasesWith hsame hl hd) hd
      · obtain ⟨q, hq⟩ := List.exists_mem_of_ne_nil picked hsome
        obtain ⟨hrow, hqd, -⟩ := hp.rows q hq
        exact absurd hqd (leasesWith_isEmpty.mp hnone q hrow)
  have hnone (hk : kept ∨ ∀ l ∈ c.db.leases, l.deviceId ≠ d) (hcounted : Counted d prog) :
      kept ∨ ∀ l ∈ db'.leases, l.deviceId ≠ d := by
    rcases hquiet hcounted with hsame | ⟨hk', -⟩
    · exact hk.imp id fun h l hl hd => h l (mem_of_leasesWith hsame hl hd) hd
    · exact Or.inl hk'
  cases h with
  | finding hredo hk => exact .finding hredo hk
  | counting hredo hk => exact .counting hredo hk
  | selecting hredo hk hended =>
    refine .selecting hredo hk fun l hl hd => ?_
    rcases hquiet .selecting with hsame | ⟨-, hsel, -⟩
    · exact hended l (mem_of_leasesWith hsame hl hd) hd
    · exact absurd rfl hsel
  | entering hk hp => exact .entering hk (hpicked hp (.entering _))
  | records hredo hk hp => exact .records hredo hk (hpicked hp (.records _))
  | leases hredo hk hp => exact .leases hredo hk (hpicked hp (.leases _))
  | committing hredo hk hp => exact .committing hredo hk (hpicked hp .committing)
  | looking hredo hk => exact .looking hredo (hnone hk .looking)
  | removing hredo hk => exact .removing hredo (hnone hk .removing)
  | answered => exact .answered
  | raised => exact .raised

end Steps

section Runs
variable {d : String} {s₀ : Requests}

/-- What holds after the first moves of a run. -/
structure Along (d : String) (s₀ : Requests) (ms : List Move) (s : Requests) : Prop where
  consistent : Consistent s.committed.db
  others : ∀ j t, s.threads[j]? = some t → j ≠ 0 → WritesOnly Adds t
  request : ∃ t, s.threads[0]? = some t ∧
    Deleting d (Meets step LeavesRows ms s₀) s.committed.db t.prog t.inside t.redo
  live : Meets step KeepsLive ms s₀

/-- When the request ends, it has done everything or nothing. -/
def EndsWhole (d : String) (s₀ : Requests) (ms : List Move) (m : Move) : Prop :=
  ∀ t t', (run step ms s₀).threads[0]? = some t → ¬Ended t →
    (run step (ms ++ [m]) s₀).threads[0]? = some t' → Ended t' →
    Gone d (run step (ms ++ [m]) s₀).committed.db ∨ Meets step LeavesRows (ms ++ [m]) s₀

theorem meets_snoc {guard : Move → Requests → Prop} {ms : List Move} {m : Move} {s : Requests} :
    Meets step guard (ms ++ [m]) s ↔ Meets step guard ms s ∧ guard m (run step ms s) := by
  rw [meets_append]
  simp [Meets]

theorem run_snoc {ms : List Move} {m : Move} {s : Requests} :
    run step (ms ++ [m]) s = step m (run step ms s) := by
  rw [run_append]
  rfl

theorem consistent_adds {u : Store → Store} (hu : Adds u) {c : Store} (hc : Consistent c.db) :
    Consistent (u c).db := by
  intro l hl
  rcases hu.added c l hl with h | h
  · exact hc l h
  · exact h

/-- A move of another thread. -/
theorem along_other {ms : List Move} {m : Move} {s : Requests} (h : Along d s₀ ms s)
    (hs : s = run step ms s₀) (hrun : m ≠ .run 0) (habort : m ≠ .abort 0)
    (hquiet : ∀ t, s.threads[0]? = some t → Counted d t.prog →
      leasesWith (step m s).committed.db d = leasesWith s.committed.db d ∨
      (Meets step LeavesRows ms s₀ ∧ FoundNone d t s.committed.db)) :
    Along d s₀ (ms ++ [m]) (step m s) := by
  obtain ⟨hc, hothers, ⟨t, ht, hdel⟩, hlive⟩ := h
  have hwrites (i : ℕ) (hi : m = .run i) (t : Thread Store Row (Option Response))
      (hti : s.threads[i]? = some t) : WritesOnly Adds t :=
    hothers i t hti fun h0 => hrun (h0 ▸ hi)
  obtain ⟨u, hu, hcommitted⟩ := step_writes adds_composes hwrites
  have hkeeps : KeepsLive m s ∧ LeavesRows m s := by
    match m with
    | .run 0 => exact absurd rfl hrun
    | .run (j+1) => exact ⟨trivial,trivial⟩
    | .abort _ => exact ⟨trivial,trivial⟩
  have hkept : Meets step LeavesRows (ms ++ [m]) s₀ ↔ Meets step LeavesRows ms s₀ := by
    rw [meets_snoc, ← hs]
    exact and_iff_left hkeeps.2
  refine ⟨hcommitted ▸ consistent_adds hu hc,threads_write adds_composes hothers,⟨t,?_,?_⟩,?_⟩
  · rw [step_thread hrun habort, ht]
  · rw [propext hkept]
    refine delete_others (fun l hl => ?_) (hquiet t ht) hdel
    rw [hcommitted]
    exact hu.kept s.committed l hl
  · rw [meets_snoc, ← hs]
    exact ⟨hlive,hkeeps.1⟩

theorem deleting_ended {kept : Prop} {db : Database} {t : Thread Store Row (Option Response)}
    (h : Ended t) : Deleting d kept db t.prog t.inside t.redo := by
  rcases h with ⟨x, hx⟩ | hx
  · rw [hx]
    exact .answered
  · rw [hx]
    exact .raised

/-- A move of the request waits, or is one of its statements, or comes after
its end. -/
theorem request_step {kept : Prop} {s : Requests} {t : Thread Store Row (Option Response)}
    (ht : s.threads[0]? = some t) (hc : Consistent s.committed.db)
    (h : Deleting d kept s.committed.db t.prog t.inside t.redo) :
    ∃ c' t', step (.run 0) s = s.replace 0 (c',t') ∧
      ((¬Ended t ∧ Advances d kept s.committed c' t') ∨
        (Ended t ∧ c' = s.committed ∧ Ended t')) := by
  simp only [step, ht]
  cases s.blocks 0 t with
  | some r =>
    refine ⟨_,_,rfl,?_⟩
    by_cases hend : Ended t
    · exact Or.inr ⟨hend,rfl,hend⟩
    · exact Or.inl ⟨hend,advances_open h hend⟩
  | none =>
    refine ⟨_,_,rfl,?_⟩
    by_cases hend : Ended t
    · obtain ⟨hstore, hend'⟩ := @ended_advance s.committed { t with waits := none } hend
      exact Or.inr ⟨hend,hstore,hend'⟩
    · exact Or.inl ⟨hend,@delete_advance d kept s.committed { t with waits := none } hc h hend⟩

/-- A move of the request. -/
theorem along_request {ms : List Move} {s : Requests} (h : Along d s₀ ms s)
    (hs : s = run step ms s₀) :
    Along d s₀ (ms ++ [Move.run 0]) (step (.run 0) s) ∧ EndsWhole d s₀ ms (.run 0) := by
  obtain ⟨hc, hothers, ⟨t, ht, hdel⟩, hlive⟩ := h
  have hothers' : ∀ j t, (step (.run 0) s).threads[j]? = some t → j ≠ 0 → WritesOnly Adds t :=
    threads_write adds_composes hothers
  have hkept : Meets step LeavesRows (ms ++ [Move.run 0]) s₀ ↔
      Meets step LeavesRows ms s₀ ∧ SameRows s.committed.db (step (.run 0) s).committed.db := by
    rw [meets_snoc, ← hs]
    rfl
  have hkeeps (hl : ∀ l ∈ s.committed.db.leases, l.endedAt = none →
      l ∈ (step (.run 0) s).committed.db.leases) :
      Meets step KeepsLive (ms ++ [Move.run 0]) s₀ := by
    rw [meets_snoc, ← hs]
    exact ⟨hlive,hl⟩
  unfold EndsWhole
  rw [run_snoc, ← hs, propext hkept, ht]
  obtain ⟨c', t', hstep, hcase⟩ := request_step ht hc hdel
  have ht' : (step (.run 0) s).threads[0]? = some t' := by
    rw [hstep]
    exact replace_self ht _
  have hcommitted : (step (.run 0) s).committed = c' := by
    rw [hstep]
    rfl
  rcases hcase with ⟨hopen, hadv⟩ | ⟨hend, rfl, hend'⟩
  · rw [← hcommitted] at hadv
    refine ⟨⟨fun l hl => hc l (hadv.fewer l hl),hothers',⟨t',ht',?_⟩,hkeeps hadv.live⟩,?_⟩
    · rw [propext hkept]
      exact hadv.next
    · intro q q' _ _ hq' hend'
      obtain rfl := Option.some.inj (ht'.symm.trans hq')
      exact (hadv.ends hend').symm
  · refine ⟨⟨?_,hothers',⟨t',ht',deleting_ended hend'⟩,hkeeps fun l hl _ => ?_⟩,?_⟩
    · rw [hcommitted]
      exact hc
    · rw [hcommitted]
      exact hl
    · intro q q' hq hopen
      obtain rfl := Option.some.inj hq
      exact absurd hend hopen

/-- The request is cut off, before it has deleted anything or after its end. -/
theorem along_abort {ms : List Move} {s : Requests} (h : Along d s₀ ms s)
    (hs : s = run step ms s₀)
    (hcut : ∀ t, s.threads[0]? = some t → Ended t ∨ Meets step LeavesRows ms s₀) :
    Along d s₀ (ms ++ [Move.abort 0]) (step (.abort 0) s) ∧ EndsWhole d s₀ ms (.abort 0) := by
  obtain ⟨hc, hothers, ⟨t, ht, hdel⟩, hlive⟩ := h
  have hlen : 0 < s.threads.length := (List.getElem?_eq_some_iff.mp ht).1
  have hstep : step (.abort 0) s = s.replace 0 (s.committed,start .fail) := if_pos hlen
  have hcommitted : (step (.abort 0) s).committed = s.committed := by
    rw [hstep]
    rfl
  refine ⟨⟨?_,threads_write adds_composes hothers,⟨start .fail,?_,.raised⟩,?_⟩,?_⟩
  · rw [hcommitted]
    exact hc
  · rw [hstep]
    exact replace_self ht _
  · rw [meets_snoc]
    exact ⟨hlive,trivial⟩
  · intro q q' hq hopen _ _
    rw [← hs] at hq
    rw [meets_snoc]
    exact Or.inr ⟨(hcut q hq).resolve_left hopen,trivial⟩

/-- The condition on a run: each step with those before it. -/
def UndisturbedRun (d : String) (ms : List Move) (s₀ : Requests) : Prop :=
  ∀ before m after, ms = before ++ m::after →
    Undisturbed d (Meets step LeavesRows before s₀) m (run step before s₀)

theorem along_step {ms : List Move} {m : Move} {s : Requests} (h : Along d s₀ ms s)
    (hs : s = run step ms s₀) (hu : Undisturbed d (Meets step LeavesRows ms s₀) m s) :
    Along d s₀ (ms ++ [m]) (step m s) ∧ EndsWhole d s₀ ms m := by
  have hends (hrun : m ≠ .run 0) (habort : m ≠ .abort 0) : EndsWhole d s₀ ms m := by
    intro t t' ht hopen ht' hend
    rw [run_snoc, step_thread hrun habort] at ht'
    obtain rfl := Option.some.inj (ht.symm.trans ht')
    exact absurd hend hopen
  match m with
  | .run 0 => exact along_request h hs
  | .abort 0 => exact along_abort h hs fun t ht => hu t ht
  | .run (j+1) =>
    exact ⟨along_other h hs (by simp) (by simp) fun t ht => hu t ht,hends (by simp) (by simp)⟩
  | .abort (j+1) =>
    refine ⟨along_other h hs (by simp) (by simp) fun t ht _ => Or.inl ?_,hends (by simp) (by simp)⟩
    simp only [step]
    split <;> rfl

theorem along_run {ms : List Move} (h : UndisturbedRun d ms s₀) (hbegin : Along d s₀ [] s₀)
    (before after : List Move) (hms : ms = before ++ after) :
    Along d s₀ before (run step before s₀) := by
  induction before using List.reverseRecOn generalizing after with
  | nil => exact hbegin
  | append_singleton before m ih =>
    rw [List.append_assoc] at hms
    rw [run_snoc]
    exact (along_step (ih _ hms) rfl (h before m after hms)).1

end Runs

/-- Rentals, and time that passes. -/
def RentsOrWaits : Request → Prop
  | .rent _ _ _ => True
  | .tick _ => True
  | _ => False

theorem along_begin {user : User} {d : String} {others : List Request} {s : Store}
    (hc : Consistent s.db) (hothers : ∀ r ∈ others, RentsOrWaits r) :
    Along d (deleting user d others s) [] (deleting user d others s) := by
  refine ⟨hc,fun j t ht h0 => ?_,⟨_,rfl,?_⟩,trivial⟩
  · obtain ⟨j, rfl⟩ := Nat.exists_eq_succ_of_ne_zero h0
    simp only [deleting, begin, List.map_cons, List.map_map, Nat.succ_eq_add_one,
      List.getElem?_cons_succ, List.getElem?_map, Option.map_eq_some_iff] at ht
    obtain ⟨r, hr, rfl⟩ := ht
    refine writesOnly_start adds_composes ?_
    have hmem := hothers r (List.mem_of_getElem? hr)
    cases r with
    | rent user req draw => exact writes_rentProgram
    | tick t => exact writes_tickProgram t
    | _ => exact absurd hmem id
  · show Deleting d _ s.db (adminProgram user (deleteNodeProgram d)) false _
    unfold adminProgram
    split
    · exact .finding (fun _ => rfl) trivial
    · exact .answered

/-- From every reachable state, in every interleaving of a deletion with
rentals in which no rental of the node commits between the count and the end
of the request, except when the node has turned out to have no lease at all,
and in which the request is not cut off half-way: the request deletes no lease
that has not ended, and when it ends, the node and all its leases are gone or
it has changed nothing. -/
theorem deletion_run (server : ControlPlaneConsumer.Server) (clock : Instant) (user : User)
    (d : String) (others : List Request) (ms : List Move) (hserver : ServerReachable server)
    (hothers : ∀ r ∈ others, RentsOrWaits r)
    (h : UndisturbedRun d ms (deleting user d others ⟨server.db,clock⟩)) :
    Meets step KeepsLive ms (deleting user d others ⟨server.db,clock⟩) ∧
    ∀ before m after, ms = before ++ m::after →
      EndsWhole d (deleting user d others ⟨server.db,clock⟩) before m := by
  have hbegin : Along d (deleting user d others ⟨server.db,clock⟩) []
      (deleting user d others ⟨server.db,clock⟩) :=
    along_begin (consistent_reachable hserver) hothers
  refine ⟨(along_run h hbegin ms [] (List.append_nil ms).symm).live,fun before m after hms => ?_⟩
  exact (along_step (along_run h hbegin before (m::after) hms) rfl (h before m after hms)).2

/-- No other thread touches the leases of the node, and nothing is cut off. -/
def Quiet (d : String) : Move → Requests → Prop
  | .run 0, _ => True
  | .run (j+1), s =>
    leasesWith (step (.run (j+1)) s).committed.db d = leasesWith s.committed.db d
  | .abort 0, _ => False
  | .abort (_+1), _ => True

instance decidableQuiet (d : String) : (m : Move) → (s : Requests) → Decidable (Quiet d m s)
  | .run 0, _ => isTrue trivial
  | .run (j+1), s => inferInstanceAs
      (Decidable (leasesWith (step (.run (j+1)) s).committed.db d = leasesWith s.committed.db d))
  | .abort 0, _ => isFalse id
  | .abort (_+1), _ => isTrue trivial

theorem undisturbed_of_quiet {d : String} {ms : List Move} {s₀ : Requests}
    (h : Meets step (Quiet d) ms s₀) : UndisturbedRun d ms s₀ := by
  intro before m after hms
  have hm := (meets_iff step (Quiet d) ms s₀).mp h before m after hms
  match m with
  | .run 0 => trivial
  | .run (j+1) => exact fun _ _ _ => Or.inl hm
  | .abort 0 => exact absurd hm id
  | .abort (j+1) => trivial

/-- The first lease of node-1 is over, and node-2 has just come up. -/
def vacantRun : List ControlPlaneServer.Event :=
  rentedRun ++ [.adminForceReleaseLease admin 1 4,.receive "c1" (.nodeHello "cn" "a" "1.0" none) 5,
    .connect (.device "node-2") "c2" 6,.receive "c2" (.nodeHello "us" "a" "1.0" none) 7]

def vacantServer : ControlPlaneConsumer.Server :=
  run ControlPlaneServer.step vacantRun (ControlPlaneServer.initial 0)

def rentIn (region : String) : Request :=
  .rent ann ⟨region,"a",.hour,1,none⟩ (fun _ => (2,"t2"))

/-- Node-1 is deleted while node-2 is rented. -/
def elsewhereRented : List Move :=
  List.replicate 3 (.run 0) ++ List.replicate 11 (.run 1) ++ List.replicate 8 (.run 0)

theorem deleted_whole :
    ((run step elsewhereRented (deleting admin "node-1" [rentIn "us"]
      ⟨vacantServer.db,8⟩)).committed.db.leases.rows.map (fun l => (l.leaseId,l.deviceId)) =
        [(2,"node-2")]) ∧
    Meets step KeepsLive elsewhereRented
      (deleting admin "node-1" [rentIn "us"] ⟨vacantServer.db,8⟩) ∧
    ∀ before m after, elsewhereRented = before ++ m::after →
      EndsWhole "node-1" (deleting admin "node-1" [rentIn "us"] ⟨vacantServer.db,8⟩) before m :=
  ⟨by decide,deletion_run vacantServer 8 admin "node-1" [rentIn "us"] elsewhereRented
    ⟨0,vacantRun,rfl⟩ (by simp [rentIn, RentsOrWaits]) (undisturbed_of_quiet (by decide))⟩

/-- Node-1 is rented between the count and the selection. -/
def rentedBetween : List Move :=
  List.replicate 2 (.run 0) ++ List.replicate 11 (.run 1) ++ List.replicate 8 (.run 0)

instance decidableKeepsLive : (m : Move) → (s : Requests) → Decidable (KeepsLive m s)
  | .run 0, s => inferInstanceAs (Decidable (∀ l ∈ s.committed.db.leases.rows, l.endedAt = none →
      l ∈ (step (.run 0) s).committed.db.leases.rows))
  | .run (_+1), _ => isTrue trivial
  | .abort _, _ => isTrue trivial

theorem live_lease_deleted : ServerReachable vacantServer ∧ ¬Meets step KeepsLive rentedBetween
    (deleting admin "node-1" [rentIn "cn"] ⟨vacantServer.db,8⟩) :=
  ⟨⟨0,vacantRun,rfl⟩,by decide⟩

/-- Rented a little later, the node survives, and its leases do not. -/
example : (run step (List.replicate 6 (Move.run 0) ++ List.replicate 11 (Move.run 1) ++
    List.replicate 3 (Move.run 0)) (deleting admin "node-1" [rentIn "cn"]
      ⟨vacantServer.db,8⟩)).committed.db.leases.rows.map Lease.leaseId = [2] := by
  decide

end CloudPlay.NodeDeletion
