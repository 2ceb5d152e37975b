import CloudPlay.RentalTables
import CloudPlay.SequentialExecution

/-!
# Handlers that read a node and save it

`_node_connected`, `_update_node_hello` and `AdminSetNodeStateView` read a
node, perhaps create it, perhaps look for its leases, and save some columns of
the object they hold. What they save fits the tables as long as the row is the
one they have read and no lease of the node has come or gone.
-/

set_option autoImplicit false

namespace CloudPlay.NodeSaves
open KeyedTable ControlPlaneModels ControlPlaneSerializers ControlPlaneDatabase ControlPlaneViews
open ControlPlaneConsumer ControlPlanePrograms RentalTables TransactionProgram SequentialExecution

/-- One such handler. `columns` is what its save makes of the row, `change`
what it does to the node in one step, and `sees` says that the object it holds
is as good as the row. A handler that tracks the status of the row does not
save when the status is another one than it has read. -/
structure NodeSave where
  deviceId : String
  creates : Bool
  asks : Node → Bool
  columns : Instant → Node → Bool → Node → Node
  change : Instant → Bool → Node → Node
  expects : Node → Store → Bool
  result : Node → Option Response
  sees : Node → Node → Prop
  tracks : Bool
  columns_deviceId : ∀ now n active row, (columns now n active row).deviceId = row.deviceId
  change_deviceId : ∀ now active row, (change now active row).deviceId = row.deviceId
  sees_self : ∀ n, n.deviceId = deviceId → sees n n
  columns_change : ∀ now n active engaged row, sees n row → (asks n = true → active = engaged) →
    columns now n active row = change now engaged row
  change_created : creates = true → ∀ now active d t t',
    change now active { deviceId := d, lastSeen := t } =
      change now active { deviceId := d, lastSeen := t' }
  tracked : tracks = true → ∀ n old row s, sees n old → expects n s = true →
    s.db.nodes.get? deviceId = some row → row.status = old.status
  untracked : tracks = false → ∀ n, asks n = false ∧ ∀ row status, sees n row →
    sees n { row with status := status }
  notFreed : ∀ now n active row s, sees n row → expects n s = true →
    s.db.nodes.get? deviceId = some row → row.status = .assigned →
    (asks n = true → active = true) → (columns now n active row).status ≠ .free

namespace NodeSave
variable (N : NodeSave)

def saved (now : Instant) (n : Node) (active : Bool) : Program :=
  saveNode (N.expects n) N.deviceId (N.columns now n active) (N.columns_deviceId now n active)
    (.done (N.result n))

def next (now : Instant) (n : Node) : Program :=
  if N.asks n then query (fun db => N.saved now n (hasEngagedLease db N.deviceId))
  else N.saved now n true

/-- What follows the query for a node that is not created. -/
def found (r : Response) (now : Instant) (db : Database) : Program :=
  match db.nodes.get? N.deviceId with
  | none => answered r
  | some n => N.next now n

/-- The handler as one step. -/
def effect (now : Instant) (db : Database) : Database :=
  (if N.creates then db.getOrCreateNode N.deviceId now else db).updateNode N.deviceId
    (N.change now (hasEngagedLease db N.deviceId)) (N.change_deviceId now _)

/-- The statements up to the save, with what makes them fit the tables. -/
inductive Stage : Program → (Database → Prop) → Prop
  | clock : N.creates = true →
      Stage (timezoneNow (fun now => getOrCreateNode N.deviceId (N.next now))) (fun _ => True)
  | looking (now : Instant) : N.creates = true →
      Stage (getOrCreateNode N.deviceId (N.next now)) (fun _ => True)
  | creating (now t : Instant) {e : Program} : N.creates = true →
      Stage (.write anyState [.node N.deviceId]
        (fun s => (s.db.nodes.get? N.deviceId).isNone)
        (fun s => s.with (s.db.getOrCreateNode N.deviceId t))
        (N.next now { deviceId := N.deviceId, lastSeen := t }) e)
        (fun db => db.nodes.get? N.deviceId = none)
  | reading (r : Response) (now : Instant) : N.creates = false →
      Stage (query (N.found r now)) (fun _ => True)
  | asking {now : Instant} {n : Node} : N.asks n = true →
      Stage (query (fun db => N.saved now n (hasEngagedLease db N.deviceId)))
        (fun db => ∃ row, db.nodes.get? N.deviceId = some row ∧ N.sees n row)
  | saving {now : Instant} {n : Node} {active : Bool} : Stage (N.saved now n active)
      (fun db => ∃ row, db.nodes.get? N.deviceId = some row ∧ N.sees n row ∧
        (N.asks n = true → active = hasEngagedLease db N.deviceId))

abbrev NodeThread := Thread Store Row (Option Response)

structure IsUnsaved (t : NodeThread) (fits : Database → Prop) : Prop where
  outside : t.inside = false
  redo : ∀ s, t.redo s = s
  stage : N.Stage t.prog fits

/-- The handler has answered, or raised. -/
def Finished (t : NodeThread) : Prop := (∃ x, t.prog = .done x) ∨ t.prog = .fail

/-- The node was free when it was read, and has been assigned since. -/
structure IsStale (t : NodeThread) (db : Database) : Prop where
  outside : t.inside = false
  redo : ∀ s, t.redo s = s
  tracks : N.tracks = true
  stage : ∃ now n old row, (t.prog = query (fun db => N.saved now n (hasEngagedLease db N.deviceId))
    ∨ ∃ active, t.prog = N.saved now n active) ∧ N.sees n old ∧ old.status = .free ∧
    db.nodes.get? N.deviceId = some row ∧ row.status = .assigned

end NodeSave

section Tables
variable {a b : Database} {d : String} {f : Node → Node} {hf : ∀ n, (f n).deviceId = n.deviceId}

theorem tables_updateNode (h : tables a = tables b) :
    tables (a.updateNode d f hf) = tables (b.updateNode d f hf) :=
  Prod.ext (congrArg (fun t => t.modify d f hf) (tables_nodes h))
    (show a.leases = b.leases from tables_leases h)

theorem tables_engaged (h : tables a = tables b) (d : String) :
    hasEngagedLease a d = hasEngagedLease b d := by
  unfold hasEngagedLease
  rw [tables_leases h]

theorem updateNode_missing (h : a.nodes.get? d = none) : a.updateNode d f hf = a :=
  updateNode_same fun n hn hd => absurd hd ((Table.get?_eq_none _ _).mp h n hn)

/-- Two new rows that become the same. -/
theorem updateNode_created (t t' : Instant) (hnone : a.nodes.get? d = none)
    (h : f { deviceId := d, lastSeen := t } = f { deviceId := d, lastSeen := t' }) :
    (a.getOrCreateNode d t).updateNode d f hf = (a.getOrCreateNode d t').updateNode d f hf := by
  rw [Database.getOrCreateNode_new a d t hnone, Database.getOrCreateNode_new a d t' hnone]
  refine congrArg (fun nodes => { a with nodes := nodes }) (Table.ext ?_)
  simp [Table.modify_rows, Table.insert, h]

end Tables

namespace NodeSave
variable {N : NodeSave} {db a b : Database} {now : Instant}

theorem effect_known (h : db.nodes.get? N.deviceId ≠ none) : N.effect now db =
    db.updateNode N.deviceId (N.change now (hasEngagedLease db N.deviceId))
      (N.change_deviceId now _) := by
  unfold effect
  split
  · rw [Database.getOrCreateNode_known db N.deviceId now h]
  · rfl

theorem effect_missing (hc : N.creates = false) (h : db.nodes.get? N.deviceId = none) :
    N.effect now db = db := by
  simp only [effect, hc, Bool.false_eq_true, if_false]
  exact updateNode_missing h

/-- Whether the row has been created before makes no difference. -/
theorem effect_created (hc : N.creates = true) (t : Instant) :
    N.effect now (db.getOrCreateNode N.deviceId t) = N.effect now db := by
  by_cases h : db.nodes.get? N.deviceId = none
  · have hrow := created_row N.deviceId t db
    rw [effect_known (by rw [hrow]; simp)]
    simp only [effect, hc, if_true, engaged_created]
    exact updateNode_created t now h (N.change_created hc now _ _ t now)
  · rw [Database.getOrCreateNode_known db _ t h]

theorem effect_leases : (N.effect now db).leases = db.leases := by
  unfold effect
  split <;> simp

theorem effect_tables (h : tables a = tables b) :
    tables (N.effect now a) = tables (N.effect now b) := by
  simp only [effect, tables_engaged h]
  split
  · exact tables_updateNode (tables_created N.deviceId now h)
  · exact tables_updateNode h

/-- A save that fits is the step of the handler. -/
theorem save_effect {n row : Node} {active : Bool} (hrow : db.nodes.get? N.deviceId = some row)
    (hsees : N.sees n row) (hactive : N.asks n = true → active = hasEngagedLease db N.deviceId) :
    db.updateNode N.deviceId (N.columns now n active) (N.columns_deviceId now n active) =
      N.effect now db := by
  rw [effect_known (by simp [hrow])]
  refine updateNode_congr fun q hq hd => ?_
  rw [row_unique hrow hq hd]
  exact N.columns_change now n active _ row hsees hactive

/-- What the statements rely on is the row and whether a lease is engaged. -/
theorem fits_same {p : Program} {fits : Database → Prop} (h : N.Stage p fits)
    (hrow : b.nodes.get? N.deviceId = a.nodes.get? N.deviceId)
    (hengaged : hasEngagedLease b N.deviceId = hasEngagedLease a N.deviceId) (hfits : fits a) :
    fits b := by
  cases h with
  | clock => trivial
  | looking => trivial
  | creating => exact hrow.trans hfits
  | reading => trivial
  | asking =>
    obtain ⟨row, hget, hsees⟩ := hfits
    exact ⟨row,hrow.trans hget,hsees⟩
  | saving =>
    obtain ⟨row, hget, hsees, hactive⟩ := hfits
    exact ⟨row,hrow.trans hget,hsees,fun hask => (hactive hask).trans hengaged.symm⟩

theorem fits_tables {p : Program} {fits : Database → Prop} (h : N.Stage p fits)
    (htables : tables b = tables a) (hfits : fits a) : fits b :=
  fits_same h (by rw [tables_nodes htables]) (tables_engaged htables _) hfits

section Advance
variable {t : NodeThread} {c : Store} {fits : Database → Prop}

/-- When a free node is assigned, what has been read of it does no harm, or it
is out of date. -/
theorem unsaved_assigned {row : Node} (h : N.IsUnsaved t fits) (hfits : fits a)
    (hrow : a.nodes.get? N.deviceId = some row) (hfree : row.status = .free)
    (hrow' : b.nodes.get? N.deviceId = some { row with status := .assigned }) :
    fits b ∨ N.IsStale t b := by
  obtain ⟨hout, hredo, hstage⟩ := h
  generalize hp : t.prog = p at hstage
  cases hstage with
  | clock => exact Or.inl trivial
  | looking => exact Or.inl trivial
  | creating => exact absurd (hrow.symm.trans hfits) (by simp)
  | reading => exact Or.inl trivial
  | @asking now n hask =>
    obtain ⟨row', hget, hsees⟩ := hfits
    obtain rfl := Option.some.inj (hrow.symm.trans hget)
    cases ht : N.tracks with
    | false => exact absurd hask (by simp [(N.untracked ht n).1])
    | true => exact Or.inr ⟨hout,hredo,ht,now,n,row,_,Or.inl hp,hsees,hfree,hrow',rfl⟩
  | @saving now n active =>
    obtain ⟨row', hget, hsees, hactive⟩ := hfits
    obtain rfl := Option.some.inj (hrow.symm.trans hget)
    cases ht : N.tracks with
    | false =>
      obtain ⟨hask, hkeeps⟩ := N.untracked ht n
      exact Or.inl ⟨_,hrow',hkeeps row .assigned hsees,fun h => absurd h (by simp [hask])⟩
    | true => exact Or.inr ⟨hout,hredo,ht,now,n,row,_,Or.inr ⟨active,hp⟩,hsees,hfree,hrow',rfl⟩

/-- A stale save is never made in a fresh run. -/
theorem stale_advance (h : N.IsStale t c.db) (hexp : t.Expects c) :
    (t.advance c).1 = c ∧ N.IsStale (t.advance c).2 c.db := by
  obtain ⟨prog, inside, held, redo, waits⟩ := t
  obtain ⟨hout, hredo, ht, now, n, old, row, hprog, hsees, hfree, hrow, hassigned⟩ := h
  simp only at hout hredo hprog
  subst hout
  rcases hprog with hprog | ⟨active, hprog⟩
  · subst hprog
    exact ⟨rfl,rfl,hredo,ht,now,n,old,row,Or.inr ⟨_,rfl⟩,hsees,hfree,hrow,hassigned⟩
  · subst hprog
    have hexpects : N.expects n c = true := by
      have hok := hexp (fun hin => by cases hin)
      simp only [hredo] at hok
      exact hok (by simp [hrow])
    have hsame := N.tracked ht n old row c hsees hexpects hrow
    rw [hassigned, hfree] at hsame
    cases hsame

/-- The last statement of a handler: it saves what it does in one step, or
there is no row to save. -/
structure Saves (N : NodeSave) (t : NodeThread) (c : Store) (now : Instant) (f : Node → Node)
    (hf : ∀ n, (f n).deviceId = n.deviceId) : Prop where
  store : (t.advance c).1 = c.with (c.db.updateNode N.deviceId f hf)
  saved : Finished (t.advance c).2
  same : ∀ db, db.nodes.get? N.deviceId = c.db.nodes.get? N.deviceId →
    hasEngagedLease db N.deviceId = hasEngagedLease c.db N.deviceId →
    db.updateNode N.deviceId f hf = N.effect now db
  apart : ∀ ids : List String, (∀ d ∈ ids, (c.db.nodes.get? d).isSome) →
    (∀ d ∈ ids, Row.node d ∉ t.needs c) → N.deviceId ∉ ids
  notFreed : t.Expects c → ∀ row, c.db.nodes.get? N.deviceId = some row →
    row.status = .assigned → hasEngagedLease c.db N.deviceId = true → (f row).status ≠ .free

theorem next_stage (N : NodeSave) (now : Instant) (n : Node) : ∃ fits, N.Stage (N.next now n) fits ∧
    ∀ db row, db.nodes.get? N.deviceId = some row → N.sees n row → fits db := by
  unfold next
  split
  · rename_i hask
    exact ⟨_,.asking hask,fun db row hrow hsees => ⟨row,hrow,hsees⟩⟩
  · rename_i hask
    exact ⟨_,.saving,fun db row hrow hsees => ⟨row,hrow,hsees,fun h => absurd h hask⟩⟩

theorem unsaved_advance (h : N.IsUnsaved t fits) (hfits : fits c.db) :
    ((t.advance c).1 = c ∧ ∃ fits', N.IsUnsaved (t.advance c).2 fits' ∧ fits' c.db) ∨
    (N.creates = true ∧ c.db.nodes.get? N.deviceId = none ∧ ∃ τ fits',
      (t.advance c).1 = c.with (c.db.getOrCreateNode N.deviceId τ) ∧
      N.IsUnsaved (t.advance c).2 fits' ∧ fits' (c.db.getOrCreateNode N.deviceId τ)) ∨
    ∃ now f hf, N.Saves t c now f hf := by
  obtain ⟨prog, inside, held, redo, waits⟩ := t
  obtain ⟨hout, hredo, hstage⟩ := h
  simp only at hout hredo hstage
  subst hout
  cases hstage with
  | clock hc =>
    exact Or.inl ⟨rfl,_,⟨rfl,hredo,.looking _ hc⟩,trivial⟩
  | looking now hc =>
    refine Or.inl ⟨rfl,?_⟩
    simp only [ControlPlanePrograms.getOrCreateNode, Thread.advance, hredo]
    cases hn : c.db.nodes.get? N.deviceId with
    | none => exact ⟨_,⟨rfl,hredo,.creating now c.clock hc⟩,hn⟩
    | some n =>
      obtain ⟨fits', hstage, hfits'⟩ := N.next_stage now n
      exact ⟨fits',⟨rfl,hredo,hstage⟩,hfits' c.db n hn (N.sees_self n (Table.get?_key hn))⟩
  | creating now τ hc =>
    refine Or.inr (Or.inl ⟨hc,hfits,τ,?_⟩)
    have hrow := created_row N.deviceId τ c.db
    obtain ⟨fits', hstage, hfits'⟩ := N.next_stage now { deviceId := N.deviceId, lastSeen := τ }
    have hok : (c.db.nodes.get? N.deviceId).isNone = true := by rw [hfits]; rfl
    simp only [Thread.advance, Bool.false_eq_true, if_false, hok, if_true]
    rw [hfits, Option.getD_none] at hrow
    exact ⟨fits',trivial,⟨rfl,hredo,hstage⟩,hfits' _ _ hrow (N.sees_self _ rfl)⟩
  | reading r now hc =>
    cases hn : c.db.nodes.get? N.deviceId with
    | none =>
      refine Or.inr (Or.inr ⟨now,id,fun _ => rfl,?_⟩)
      have hid (db : Database) (h : db.nodes.get? N.deviceId = none) :
          db.updateNode N.deviceId id (fun _ => rfl) = db := updateNode_missing h
      refine ⟨?_,Or.inl ⟨some r,?_⟩,fun db hdb _ => ?_,fun ids hrows _ hmem => ?_,?_⟩
      · rw [hid c.db hn]
        rfl
      · simp [query, found, Thread.advance, hredo, hn, answered]
      · rw [hid db (hdb.trans hn), effect_missing hc (hdb.trans hn)]
      · exact absurd (hrows _ hmem) (by simp [hn])
      · exact fun _ row hrow => absurd (hn.symm.trans hrow) (by simp)
    | some n =>
      refine Or.inl ⟨rfl,?_⟩
      simp only [query, found, Thread.advance, hredo, hn]
      obtain ⟨fits', hstage, hfits'⟩ := N.next_stage now n
      exact ⟨fits',⟨rfl,hredo,hstage⟩,hfits' c.db n hn (N.sees_self n (Table.get?_key hn))⟩
  | @asking now n hask =>
    obtain ⟨row, hrow, hsees⟩ := hfits
    refine Or.inl ⟨rfl,_,⟨rfl,hredo,.saving⟩,row,hrow,hsees,fun _ => ?_⟩
    simp only [hredo]
  | @saving now n active =>
    obtain ⟨row, hrow, hsees, hactive⟩ := hfits
    have hok : (c.db.nodes.get? N.deviceId).isSome = true := by rw [hrow]; rfl
    refine Or.inr (Or.inr ⟨now,_,N.columns_deviceId now n active,?_⟩)
    refine ⟨?_,?_,fun db hdb hengaged => ?_,fun ids _ hfree hmem => ?_,?_⟩
    · simp [saved, saveNode, save, Thread.advance, hok]
    · exact Or.inl ⟨N.result n,by simp [saved, saveNode, save, Thread.advance, hok]⟩
    · exact save_effect (hdb.trans hrow) hsees fun h => (hactive h).trans hengaged.symm
    · exact hfree _ hmem (by simp [Thread.needs, saved, saveNode, save])
    · intro hexp row' hrow' hassigned hengaged
      obtain rfl := Option.some.inj (hrow.symm.trans hrow')
      have hexpects : N.expects n c = true := by
        have hok' := hexp (fun hin => by cases hin)
        simp only [hredo] at hok'
        exact hok' hok
      exact N.notFreed now n active row c hsees hexpects hrow hassigned
        fun h => (hactive h).trans hengaged

end Advance

end NodeSave

end CloudPlay.NodeSaves
