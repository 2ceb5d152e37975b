import CloudPlay.NodeSaves
import CloudPlay.RentalStages

/-!
# A rental next to a save of a node

One thread rents and one reads a node and saves it. Which of the two comes
first in the end is decided by who first commits; the invariant goes through
what each has read and bound itself to by then.
-/

set_option autoImplicit false

namespace CloudPlay.RentalRaces
open KeyedTable ControlPlaneModels ControlPlaneSerializers ControlPlaneDatabase ControlPlaneViews
open ControlPlaneConsumer ControlPlanePrograms RentalTables RentalStages NodeSaves NodeSave
open TransactionProgram SequentialExecution

/-- The tables are those after both have run, one after the other. -/
def Serial (first second : Instant → Database → Database) (start db : Database) : Prop :=
  ∃ now now', tables db = tables (second now' (first now start)) ∨
    tables db = tables (first now (second now' start))

/-- No node with a new lease is free. -/
def NotFreed (start db : Database) : Prop :=
  ∀ l ∈ db.leases, l ∉ start.leases →
    ∀ n, db.nodes.get? l.deviceId = some n → n.status ≠ .free

/-- Every node with a new lease is assigned. -/
def NewAssigned (start db : Database) : Prop :=
  ∀ l ∈ db.leases, l ∉ start.leases →
    l.engaged = true ∧ ∃ n, db.nodes.get? l.deviceId = some n ∧ n.status = .assigned

section Tables
variable {start a b : Database} {d : String} {ids : List String} {τ : Instant}

theorem NewAssigned.notFreed (h : NewAssigned start a) : NotFreed start a := by
  intro l hl hnew n hn
  obtain ⟨-, q, hq, hassigned⟩ := h l hl hnew
  obtain rfl := Option.some.inj (hq.symm.trans hn)
  simp [hassigned]

theorem newAssigned_same (h : a.leases = start.leases) : NewAssigned start a :=
  fun _ hl hnew => absurd (h ▸ hl) hnew

theorem newAssigned_tables (h : tables b = tables a) (ha : NewAssigned start a) :
    NewAssigned start b := by
  unfold NewAssigned
  rw [tables_nodes h, tables_leases h]
  exact ha

theorem notFreed_tables (h : tables b = tables a) (ha : NotFreed start a) : NotFreed start b := by
  unfold NotFreed
  rw [tables_nodes h, tables_leases h]
  exact ha

theorem serial_tables {first second : Instant → Database → Database} (h : tables b = tables a)
    (ha : Serial first second start a) : Serial first second start b := by
  unfold Serial
  rw [h]
  exact ha

theorem newAssigned_allots (h : Allots ids a b) (hleases : a.leases = start.leases)
    (hrows : ∀ d ∈ ids, (a.nodes.get? d).isSome) : NewAssigned start b := by
  intro l hl hnew
  obtain ⟨hid, hengaged⟩ := h.fresh l hl (hleases ▸ hnew)
  obtain ⟨n, hn⟩ := Option.isSome_iff_exists.mp (hrows _ hid)
  refine ⟨hengaged,{ n with status := .assigned },?_,rfl⟩
  rw [h.nodes, if_pos hid, hn]
  rfl

theorem get?_created (db : Database) {d d' : String} (hne : d' ≠ d) (τ : Instant) :
    (db.getOrCreateNode d τ).nodes.get? d' = db.nodes.get? d' := by
  by_cases h : db.nodes.get? d = none
  · rw [Database.getOrCreateNode_new db d τ h, Table.get?_insert]
    exact if_neg hne
  · rw [Database.getOrCreateNode_known db d τ h]

theorem get?_updateNode {db : Database} {d d' : String} (hne : d' ≠ d) {f : Node → Node}
    {hf : ∀ n, (f n).deviceId = n.deviceId} :
    (db.updateNode d f hf).nodes.get? d' = db.nodes.get? d' :=
  Table.get?_modify_ne db.nodes f hf hne

theorem leases_engaged (h : b.leases = a.leases) (d : String) :
    hasEngagedLease b d = hasEngagedLease a d := by
  unfold hasEngagedLease
  rw [h]

/-- A node that is created in the meantime is none of the rented ones. -/
theorem allots_created (h : Allots ids a b) (hd : d ∉ ids) (hnone : a.nodes.get? d = none) :
    Allots ids (a.getOrCreateNode d τ) (b.getOrCreateNode d τ) where
  nodes k := by
    have hnone' : b.nodes.get? d = none := by rw [h.nodes, if_neg hd, hnone]
    by_cases hk : k = d
    · subst hk
      rw [if_neg hd, created_row, created_row, hnone, hnone']
    · rw [get?_created b hk, get?_created a hk]
      exact h.nodes k
  engaged k hk := by
    rw [leases_engaged (Database.getOrCreateNode_leases b d τ),
      leases_engaged (Database.getOrCreateNode_leases a d τ)]
    exact h.engaged k hk
  fresh l hl hnew := by
    rw [Database.getOrCreateNode_leases] at hl hnew
    exact h.fresh l hl hnew

theorem existing_created (user : User) (key : Option String) :
    existing (a.getOrCreateNode d τ) user .rent key = existing a user .rent key := by
  rw [getOrCreateNode_nodes]
  rfl

end Tables

section
variable (user : User) (req : RentRequest) (draw : ℕ → Uuid × String) (N : NodeSave)
variable (start : Database)

def rented (now : Instant) (db : Database) : Database := (rentLease user req now draw db).db

/-- At most the node has been created. -/
def Untouched (db : Database) : Prop :=
  db = start ∨ N.creates = true ∧ ∃ τ, db = start.getOrCreateNode N.deviceId τ

/-- What is to be shown of the tables at the end. -/
structure Target (db : Database) : Prop where
  serial : Serial (rented user req draw) N.effect start db
  notFreed : NotFreed start db

/-- Whenever the node is saved, it is as if the rental had come before. -/
def RentFirst (db : Database) : Prop :=
  ∃ now, ∀ now', tables (N.effect now' db) = tables (N.effect now' (rented user req draw now start))

inductive Phase (db : Database) (tr : RentThread) (th : NodeThread) : Prop
  | bothEarly {known : Option Body} {fits : Database → Prop} :
      ¬Invalid req → IsEarly user req draw known tr →
      existing db user .rent req.clientRequestId = known →
      N.IsUnsaved th fits → fits db → Untouched N start db → Phase db tr th
  | nodeSaved {known : Option Body} (now : Instant) :
      ¬Invalid req → IsEarly user req draw known tr →
      existing db user .rent req.clientRequestId = known →
      Finished th → db = N.effect now start → Phase db tr th
  | rentBound {ids : List String} {outcome : Database → Database} {fits : Database → Prop} :
      IsBound user req draw tr ids outcome →
      (∀ d ∈ ids, ∃ n, db.nodes.get? d = some n ∧ n.status = .free) →
      Allots ids db (outcome db) ∨ outcome db = db → db.leases = start.leases →
      N.IsUnsaved th fits → fits db → RentFirst user req draw N start (outcome db) →
      Phase db tr th
  | savedBound {ids : List String} {outcome : Database → Database} :
      IsBound user req draw tr ids outcome → (∀ d ∈ ids, (db.nodes.get? d).isSome) →
      Finished th → Target user req draw N start (outcome db) → Phase db tr th
  | rentOver {fits : Database → Prop} :
      IsOver user req tr → N.IsUnsaved th fits → fits db → NewAssigned start db →
      RentFirst user req draw N start db → Phase db tr th
  | stale : IsOver user req tr → N.IsStale th db → Phase db tr th
  | bothOver :
      IsOver user req tr → Finished th → Target user req draw N start db → Phase db tr th

end

section Steps
variable {user : User} {req : RentRequest} {draw : ℕ → Uuid × String} {N : NodeSave}
variable {start db : Database} {tr : RentThread} {th : NodeThread} {c : Store}

section Untouched
variable (h : Untouched N start db)
include h

theorem untouched_leases : db.leases = start.leases := by
  rcases h with rfl | ⟨-, τ, rfl⟩
  · rfl
  · exact Database.getOrCreateNode_leases start N.deviceId τ

theorem untouched_effect (now : Instant) : N.effect now db = N.effect now start := by
  rcases h with rfl | ⟨hc, τ, rfl⟩
  · rfl
  · exact effect_created hc τ

theorem untouched_rented (now now' : Instant) :
    tables (N.effect now' (rented user req draw now db)) =
      tables (N.effect now' (rented user req draw now start)) := by
  rcases h with rfl | ⟨hc, τ, rfl⟩
  · rfl
  · exact (effect_tables (rentLease_created N.deviceId τ)).trans
      (congrArg tables (effect_created hc τ))

theorem untouched_created (hc : N.creates = true) (hnone : db.nodes.get? N.deviceId = none)
    (τ : Instant) : Untouched N start (db.getOrCreateNode N.deviceId τ) := by
  rcases h with rfl | ⟨-, τ', rfl⟩
  · exact Or.inr ⟨hc,τ,rfl⟩
  · rw [created_row] at hnone
    cases hnone

end Untouched

theorem target_tables {a b : Database} (h : tables b = tables a)
    (ha : Target user req draw N start a) : Target user req draw N start b :=
  ⟨serial_tables h ha.serial,notFreed_tables h ha.notFreed⟩

theorem rentFirst_tables {a b : Database} (h : tables b = tables a)
    (ha : RentFirst user req draw N start a) : RentFirst user req draw N start b := by
  obtain ⟨now, hnow⟩ := ha
  exact ⟨now,fun now' => (effect_tables h).trans (hnow now')⟩

theorem free_rows {ids : List String}
    (h : ∀ d ∈ ids, ∃ n, db.nodes.get? d = some n ∧ n.status = .free) :
    ∀ d ∈ ids, (db.nodes.get? d).isSome := by
  intro d hd
  obtain ⟨n, hn, -⟩ := h d hd
  simp [hn]

theorem finished_advance (h : Finished th) : (th.advance c).1 = c ∧ Finished (th.advance c).2 := by
  obtain ⟨prog, inside, held, redo, waits⟩ := th
  rcases h with ⟨x, rfl⟩ | rfl
  · exact ⟨rfl,Or.inl ⟨x,rfl⟩⟩
  · exact ⟨rfl,Or.inr rfl⟩

/-- One statement of the rental. -/
theorem rent_advance (h : Phase user req draw N start c.db tr th) :
    Phase user req draw N start (tr.advance c).1.db (tr.advance c).2 th := by
  cases h with
  | @bothEarly known fits hvalid hearly hkey hunsaved hfits huntouched =>
    have hleases := untouched_leases huntouched
    obtain ⟨hstore, hnext⟩ := early_advance hvalid hkey hearly
    rw [hstore]
    rcases hnext with hearly' | ⟨hover, hidle⟩ |
      ⟨now, ids, outcome, hbound, htables, hallots, hfree⟩
    · exact .bothEarly hvalid hearly' hkey hunsaved hfits huntouched
    · refine .rentOver hover hunsaved hfits (newAssigned_same hleases) ⟨c.clock,fun now' => ?_⟩
      have hsame := @untouched_rented user req draw N start c.db huntouched c.clock now'
      rwa [show rented user req draw c.clock c.db = c.db from hidle c.clock] at hsame
    · refine .rentBound hbound hfree hallots hleases hunsaved hfits ⟨now,fun now' => ?_⟩
      exact (effect_tables htables).trans (untouched_rented huntouched now now')
  | @nodeSaved known now hvalid hearly hkey hsaved hdb =>
    have hleases : c.db.leases = start.leases := hdb ▸ effect_leases
    obtain ⟨hstore, hnext⟩ := early_advance hvalid hkey hearly
    rw [hstore]
    rcases hnext with hearly' | ⟨hover, hidle⟩ |
      ⟨now', ids, outcome, hbound, htables, hallots, hfree⟩
    · exact .nodeSaved now hvalid hearly' hkey hsaved hdb
    · refine .bothOver hover hsaved ⟨⟨c.clock,now,Or.inr ?_⟩,(newAssigned_same hleases).notFreed⟩
      rw [← hdb, show rented user req draw c.clock c.db = c.db from hidle c.clock]
    · have hrows := free_rows hfree
      refine .savedBound hbound hrows hsaved ⟨⟨now',now,Or.inr ?_⟩,?_⟩
      · rw [← hdb]
        exact htables
      · rcases hallots with hallots | hsame
        · exact (newAssigned_allots hallots hleases hrows).notFreed
        · exact (newAssigned_same ((congrArg Database.leases hsame).trans hleases)).notFreed
  | @rentBound ids outcome fits hbound hfree hallots hleases hunsaved hfits hfirst =>
    have hrows := free_rows hfree
    rcases bound_advance hbound hrows with ⟨hstore, outcome', hbound', hsame⟩ |
      ⟨hstore, hover, hsame⟩ | ⟨hcommit, hover⟩
    · rw [hstore]
      rw [← hsame] at hallots hfirst
      exact .rentBound hbound' hfree hallots hleases hunsaved hfits hfirst
    · rw [hstore]
      exact .rentOver hover hunsaved hfits (newAssigned_same hleases)
        (rentFirst_tables (congrArg tables hsame.symm) hfirst)
    · rw [hcommit]
      rcases hallots with hallots | hsame
      · have hnew := newAssigned_allots hallots hleases hrows
        by_cases hd : N.deviceId ∈ ids
        · obtain ⟨n, hn, hstatus⟩ := hfree _ hd
          have hn' := hallots.nodes N.deviceId
          rw [if_pos hd, hn] at hn'
          rcases unsaved_assigned hunsaved hfits hn hstatus hn' with hfits' | hstale
          · exact .rentOver hover hunsaved hfits' hnew hfirst
          · exact .stale hover hstale
        · have hrow := hallots.nodes N.deviceId
          rw [if_neg hd] at hrow
          have hfits' := fits_same hunsaved.stage hrow (hallots.engaged _ hd) hfits
          exact .rentOver hover hunsaved hfits' hnew hfirst
      · rw [hsame] at hfirst
        rw [hsame]
        exact .rentOver hover hunsaved hfits (newAssigned_same hleases) hfirst
  | @savedBound ids outcome hbound hrows hsaved htarget =>
    rcases bound_advance hbound hrows with ⟨hstore, outcome', hbound', hsame⟩ |
      ⟨hstore, hover, hsame⟩ | ⟨hcommit, hover⟩
    · rw [hstore]
      exact .savedBound hbound' hrows hsaved (hsame ▸ htarget)
    · rw [hstore]
      exact .bothOver hover hsaved (hsame ▸ htarget)
    · rw [hcommit]
      exact .bothOver hover hsaved htarget
  | @rentOver fits hover hunsaved hfits hnew hfirst =>
    obtain ⟨htables, hover'⟩ := over_advance (c := c) hover
    exact .rentOver hover' hunsaved (fits_tables hunsaved.stage htables hfits)
      (newAssigned_tables htables hnew) (rentFirst_tables htables hfirst)
  | stale hover hstale =>
    obtain ⟨htables, hover'⟩ := over_advance (c := c) hover
    refine .stale hover' ⟨hstale.outside,hstale.redo,hstale.tracks,?_⟩
    rw [tables_nodes htables]
    exact hstale.stage
  | bothOver hover hsaved htarget =>
    obtain ⟨htables, hover'⟩ := over_advance (c := c) hover
    exact .bothOver hover' hsaved (target_tables htables htarget)

/-- One statement of the handler that saves the node. -/
theorem save_advance (h : Phase user req draw N start c.db tr th) (hexp : th.Expects c)
    (hfree : ∀ r ∈ th.needs c, r ∉ tr.held) :
    Phase user req draw N start (th.advance c).1.db tr (th.advance c).2 := by
  cases h with
  | @bothEarly known fits hvalid hearly hkey hunsaved hfits huntouched =>
    rcases unsaved_advance hunsaved hfits with ⟨hstore, fits', hunsaved', hfits'⟩ |
      ⟨hc, hnone, τ, fits', hstore, hunsaved', hfits'⟩ | ⟨now, f, hf, hsaves⟩
    · rw [hstore]
      exact .bothEarly hvalid hearly hkey hunsaved' hfits' huntouched
    · rw [hstore]
      exact .bothEarly hvalid hearly ((existing_created _ _).trans hkey) hunsaved' hfits'
        (untouched_created huntouched hc hnone τ)
    · refine .nodeSaved now hvalid hearly ?_ hsaves.saved ?_
      · rw [hsaves.store]
        exact hkey
      · rw [hsaves.store, with_db, hsaves.same c.db rfl rfl, untouched_effect huntouched]
  | nodeSaved now hvalid hearly hkey hsaved hdb =>
    obtain ⟨hstore, hsaved'⟩ := finished_advance (c := c) hsaved
    rw [hstore]
    exact .nodeSaved now hvalid hearly hkey hsaved' hdb
  | @rentBound ids outcome fits hbound hids hallots hleases hunsaved hfits hfirst =>
    rcases unsaved_advance hunsaved hfits with ⟨hstore, fits', hunsaved', hfits'⟩ |
      ⟨hc, hnone, τ, fits', hstore, hunsaved', hfits'⟩ | ⟨now, f, hf, hsaves⟩
    · rw [hstore]
      exact .rentBound hbound hids hallots hleases hunsaved' hfits' hfirst
    · have hd : N.deviceId ∉ ids := by
        intro hmem
        obtain ⟨n, hn, -⟩ := hids _ hmem
        exact absurd (hnone.symm.trans hn) (by simp)
      have hother (d : String) (hmem : d ∈ ids) : d ≠ N.deviceId := fun he => hd (he ▸ hmem)
      have hcomm := hbound.bound.commutes (apart_getOrCreateNode hd τ) c.db
      rw [hstore]
      refine .rentBound hbound (fun d hmem => ?_) ?_ ?_ hunsaved' hfits' ?_
      · rw [with_db, get?_created c.db (hother d hmem) τ]
        exact hids d hmem
      · rw [with_db, hcomm]
        exact hallots.imp (fun h => allots_created h hd hnone) (fun h => by rw [h])
      · exact (Database.getOrCreateNode_leases c.db _ τ).trans hleases
      · obtain ⟨now, hnow⟩ := hfirst
        refine ⟨now,fun now' => ?_⟩
        rw [with_db, hcomm, effect_created hc τ]
        exact hnow now'
    · have hd : N.deviceId ∉ ids := hsaves.apart ids (free_rows hids)
        fun d hmem hneeds => hfree _ hneeds (hbound.held d hmem)
      have hother (d : String) (hmem : d ∈ ids) : d ≠ N.deviceId := fun he => hd (he ▸ hmem)
      have hcomm := hbound.bound.commutes (apart_updateNode hd f hf) c.db
      have hsame : (outcome c.db).updateNode N.deviceId f hf = N.effect now (outcome c.db) := by
        rcases hallots with hallots | hsame
        · have hrow := hallots.nodes N.deviceId
          rw [if_neg hd] at hrow
          exact hsaves.same _ hrow (hallots.engaged _ hd)
        · rw [hsame]
          exact hsaves.same c.db rfl rfl
      rw [hsaves.store]
      refine .savedBound hbound (fun d hmem => ?_) hsaves.saved ?_
      · rw [with_db, get?_updateNode (hother d hmem)]
        exact free_rows hids d hmem
      · rw [with_db, hcomm]
        refine ⟨?_,fun l hl hnew n hn => ?_⟩
        · obtain ⟨now₀, hnow⟩ := hfirst
          exact ⟨now₀,now,Or.inl (hsame ▸ hnow now)⟩
        · rcases hallots with hallots | hidle
          · have hmem := (hallots.fresh l hl (hleases ▸ hnew)).1
            rw [get?_updateNode (hother _ hmem)] at hn
            exact (newAssigned_allots hallots hleases (free_rows hids)).notFreed l hl hnew n hn
          · rw [hidle] at hl
            exact absurd (hleases ▸ hl) hnew
  | savedBound hbound hrows hsaved htarget =>
    obtain ⟨hstore, hsaved'⟩ := finished_advance (c := c) hsaved
    rw [hstore]
    exact .savedBound hbound hrows hsaved' htarget
  | @rentOver fits hover hunsaved hfits hnew hfirst =>
    rcases unsaved_advance hunsaved hfits with ⟨hstore, fits', hunsaved', hfits'⟩ |
      ⟨hc, hnone, τ, fits', hstore, hunsaved', hfits'⟩ | ⟨now, f, hf, hsaves⟩
    · rw [hstore]
      exact .rentOver hover hunsaved' hfits' hnew hfirst
    · rw [hstore]
      refine .rentOver hover hunsaved' hfits' (fun l hl hfresh => ?_) ?_
      · rw [with_db, Database.getOrCreateNode_leases] at hl
        obtain ⟨hengaged, n, hn, hassigned⟩ := hnew l hl hfresh
        refine ⟨hengaged,n,?_,hassigned⟩
        rw [with_db, get?_created c.db (fun he => ?_) τ]
        · exact hn
        · rw [he, hnone] at hn
          cases hn
      · obtain ⟨now, hnow⟩ := hfirst
        refine ⟨now,fun now' => ?_⟩
        rw [with_db, effect_created hc τ]
        exact hnow now'
    · rw [hsaves.store]
      refine .bothOver hover hsaves.saved ⟨?_,fun l hl hfresh n hn => ?_⟩
      · obtain ⟨now₀, hnow⟩ := hfirst
        refine ⟨now₀,now,Or.inl ?_⟩
        rw [with_db, hsaves.same c.db rfl rfl]
        exact hnow now
      · obtain ⟨hengaged, row, hrow, hassigned⟩ := hnew l hl hfresh
        by_cases hd : l.deviceId = N.deviceId
        · rw [hd] at hrow hn
          have hlive := (hasEngagedLease_iff c.db N.deviceId).mpr ⟨l,hl,hd,hengaged⟩
          rw [with_db, Database.updateNode_nodes, Table.get?_modify_self, hrow] at hn
          obtain rfl := Option.some.inj hn
          exact hsaves.notFreed hexp row hrow hassigned hlive
        · rw [with_db, get?_updateNode hd, hrow] at hn
          obtain rfl := Option.some.inj hn
          simp [hassigned]
  | stale hover hstale =>
    obtain ⟨hstore, hstale'⟩ := stale_advance hstale hexp
    rw [hstore]
    exact .stale hover hstale'
  | bothOver hover hsaved htarget =>
    obtain ⟨hstore, hsaved'⟩ := finished_advance (c := c) hsaved
    rw [hstore]
    exact .bothOver hover hsaved' htarget

end Steps

end CloudPlay.RentalRaces
