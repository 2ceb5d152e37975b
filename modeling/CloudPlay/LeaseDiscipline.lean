import CloudPlay.ControlPlaneEffects
import CloudPlay.ControlPlanePrograms
import CloudPlay.TransactionRely

/-!
# What concurrent requests make of a lease

The row of a lease and the records that refer to it change together, under
the lock of the lease. Whatever the requests do in between each other, a lease
keeps its prices and whatever times it has got, and it is charged once when it
ends, provided each save in `end_lease` closes a lease that is still open. A
further property of rows is kept along with this when these saves respect it.
-/

set_option autoImplicit false

namespace CloudPlay.LeaseDiscipline
open KeyedTable ControlPlaneModels ControlPlaneSerializers ControlPlaneDatabase LeaseLifecycle
open ControlPlaneViews ControlPlaneConsumer ControlPlanePrograms ControlPlaneEffects
open TransactionProgram TransactionRely

/-- What a billing record says about its lease. -/
abbrev Charge := Money × ℕ × BillingUnit × Option String

def charges (db : Database) (id : Uuid) : List Charge :=
  (db.recordsOf id).map (fun b => (b.amount,b.billedUnits,b.billingUnit,b.endReason))

/-- A lease that has ended is charged once, with its own figures; one that has
not is not charged. -/
def Charged (l : Lease) (bs : List Charge) : Prop :=
  match l.endedAt with
  | none => bs = []
  | some _ => ∃ amount units, l.amount = some amount ∧ l.billedUnits = some units ∧
      bs = [(amount,units,l.billingUnit,l.endReason)]

abbrev Account := Option Lease × List Charge

def lookRow : Row → Store → Account
  | .lease id, s => (s.db.leases.get? id,charges s.db id)
  | .node _, _ => (none,[])

/-- What stays of a lease. -/
structure Kept (l l' : Lease) : Prop where
  billingUnit : l'.billingUnit = l.billingUnit
  unitPrice : l'.unitPrice = l.unitPrice
  startedAt : ∀ t, l.startedAt = some t → l'.startedAt = some t
  endedAt : ∀ t, l.endedAt = some t → l'.endedAt = some t

section
variable (extra : Lease → Prop)

def GoodRow : Account → Prop
  | (none,bs) => bs = []
  | (some l,bs) => (l.endedAt.isSome ↔ l.status = .ended) ∧ Charged l bs ∧ extra l

def MovesRow (a b : Account) : Prop := ∀ l ∈ a.1, ∃ l' ∈ b.1, Kept l l'

/-- Tables in which the leases that have ended are charged, and no others. -/
structure Ledger (db : Database) : Prop where
  status : ∀ l ∈ db.leases, (l.endedAt.isSome ↔ l.status = .ended)
  charged : ∀ l ∈ db.leases, Charged l (charges db l.leaseId)
  owned : ∀ b ∈ db.billingRecords, (db.leases.get? b.lease).isSome

/-- Before the first lease ends. -/
theorem ledger_open {db : Database} (hrecords : db.billingRecords = [])
    (hopen : ∀ l ∈ db.leases, l.endedAt = none ∧ l.status ≠ .ended) : Ledger db where
  status l hl := by simp [hopen l hl]
  charged l hl := by simp [Charged, (hopen l hl).1, charges, Database.recordsOf, hrecords]
  owned b hb := by simp [hrecords] at hb

theorem Kept.refl (l : Lease) : Kept l l := ⟨rfl,rfl,fun _ h => h,fun _ h => h⟩

theorem Kept.trans {a b c : Lease} (h : Kept a b) (h' : Kept b c) : Kept a c :=
  ⟨h'.billingUnit.trans h.billingUnit,h'.unitPrice.trans h.unitPrice,
    fun t ht => h'.startedAt t (h.startedAt t ht),fun t ht => h'.endedAt t (h.endedAt t ht)⟩

def leaseDiscipline : Discipline Store Row Account where
  look := lookRow
  good _ := GoodRow extra
  moves _ := MovesRow
  refl _ _ := fun l hl => ⟨l,hl,Kept.refl l⟩
  trans _ _ _ _ h h' := fun l hl => by
    obtain ⟨l₁, hl₁, hk⟩ := h l hl
    obtain ⟨l₂, hl₂, hk'⟩ := h' l₁ hl₁
    exact ⟨l₂,hl₂,hk.trans hk'⟩

/-- The row that the save of an ended object leaves behind. -/
def closedRow (ended row : Lease) : Lease :=
  { row with
    status := ended.status
    endedAt := ended.endedAt
    endReason := ended.endReason
    billedUnits := ended.billedUnits
    amount := ended.amount }

/-- Ending the object closes the row properly. -/
structure Closes (l : Lease) (endedAt timeZone : Instant) (row : Lease) : Prop where
  still : row.endedAt = none
  billingUnit : row.billingUnit = l.billingUnit
  extra : ∀ reason, extra (closedRow (settle reason endedAt timeZone l) row)

/-- The expectations are enough for the discipline. -/
structure EndsWell (expects : Expectations) : Prop where
  locked : ∀ l t tz s, expects.lockedLease l t s = true → s.db.leases.get? l.leaseId = some l →
    l.endedAt = none → Closes extra l t tz l
  unlocked : ∀ l row t tz s, expects.unlockedLease l t s = true →
    s.db.leases.get? l.leaseId = some row → l.endedAt = none → Kept l row → Closes extra l t tz row
  ready : ∀ l now, extra l → l.endedAt = none →
    extra { l with startedAt := (readyLease now l).startedAt, status := .ready }
  fresh : ∀ user unit price now draw n, extra (newLease user unit price now draw n)

end

section Rows
variable {extra : Lease → Prop}

/-- Anything that leaves leases and records alone. -/
theorem look_unseen {s : Store} {db : Database} (hl : db.leases = s.db.leases)
    (hr : db.billingRecords = s.db.billingRecords) (r : Row) :
    lookRow r (s.with db) = lookRow r s := by
  cases r with
  | node d => rfl
  | lease id => simp [lookRow, charges, Database.recordsOf, Store.with, hl, hr]

theorem get?_created (db : Database) (l : Lease) (id : Uuid) :
    ((db.createLease l).getD db).leases.get? id =
      if id = l.leaseId then some ((db.leases.get? id).getD l) else db.leases.get? id := by
  simp only [Database.createLease, Table.insert?]
  by_cases h : db.leases.get? l.leaseId = none
  · simp only [h, dif_pos, Option.map_some, Option.getD_some, Table.get?_insert]
    by_cases hid : id = l.leaseId
    · simp [hid, h]
    · simp [hid]
  · obtain ⟨q, hq⟩ := Option.ne_none_iff_exists'.mp h
    by_cases hid : id = l.leaseId
    · simp [hid, hq]
    · simp [hid, h]

/-- An update of what belongs to one lease. -/
def OnLease (id : Uuid) (f : Account → Account) (u : Store → Store) : Prop :=
  ∀ id' s, lookRow (.lease id') (u s) =
    if id' = id then f (lookRow (.lease id') s) else lookRow (.lease id') s

theorem onLease_updateLease (id : Uuid) (f : Lease → Lease)
    (hf : ∀ l, (f l).leaseId = l.leaseId) :
    OnLease id (Prod.map (Option.map f) (fun bs => bs))
      (fun s => s.with (s.db.updateLease id f hf)) := by
  intro id' s
  have hget := Table.get?_modify s.db.leases id id' f hf
  simp only [lookRow, Store.with, Database.updateLease_leases, hget]
  by_cases hid : id' = id
  · subst hid
    simp [charges, Database.recordsOf]
  · simp [hid, charges, Database.recordsOf]

/-- The save in `end_lease` with the record it creates. -/
def closeLease (ended : Lease) (reason : String) (t : Instant) (s : Store) : Store :=
  s.with ((saveEnded s.db ended).createBillingRecord ended reason t)

def closedAccount (ended : Lease) (reason : String) (a : Account) : Account :=
  (a.1.map (closedRow ended),
    a.2 ++ [(ended.amount.getD 0,ended.billedUnits.getD 0,ended.billingUnit,some reason)])

theorem onLease_closeLease (ended : Lease) (reason : String) (t : Instant) :
    OnLease ended.leaseId (closedAccount ended reason) (closeLease ended reason t) := by
  intro id s
  have hget : (saveEnded s.db ended).leases.get? id =
      if id = ended.leaseId then (s.db.leases.get? ended.leaseId).map (closedRow ended)
      else s.db.leases.get? id :=
    Table.get?_modify s.db.leases ended.leaseId id (closedRow ended) (fun _ => rfl)
  have hrecords : charges ((saveEnded s.db ended).createBillingRecord ended reason t) id =
      if id = ended.leaseId then charges s.db id ++ [(ended.amount.getD 0,
        ended.billedUnits.getD 0,ended.billingUnit,some reason)] else charges s.db id := by
    simp only [charges, Database.recordsOf, Database.createBillingRecord, saveEnded_records,
      List.filter_append]
    by_cases hid : id = ended.leaseId
    · simp [hid]
    · simp [hid, Ne.symm hid]
  simp only [lookRow, closeLease, Store.with, Database.createBillingRecord_leases, hget, hrecords]
  by_cases hid : id = ended.leaseId
  · simp [hid, closedAccount]
  · simp [hid]

theorem onLease_createLease (l : Lease) :
    OnLease l.leaseId (Prod.map (fun row => some (row.getD l)) id)
      (fun s => s.with ((s.db.createLease l).getD s.db)) := by
  intro id s
  have hget := get?_created s.db l id
  have hrecords : ((s.db.createLease l).getD s.db).billingRecords = s.db.billingRecords := by
    unfold Database.createLease
    cases s.db.leases.insert? l <;> rfl
  simp only [lookRow, Store.with, hget, charges, Database.recordsOf, hrecords]
  by_cases hid : id = l.leaseId
  · simp [hid]
  · simp [hid]

end Rows

section Ending
variable {extra : Lease → Prop} {held : List Row} {redo : Store → Store} {c : Store}

/-- The transaction holds the lease and sees it so. -/
def Visible (held : List Row) (redo : Store → Store) (c : Store) (l : Lease) : Prop :=
  .lease l.leaseId ∈ held ∧ (redo c).db.leases.get? l.leaseId = some l

theorem look_lease {a b : Store} {id : Uuid} (h : lookRow (.lease id) a = lookRow (.lease id) b) :
    a.db.leases.get? id = b.db.leases.get? id ∧ charges a.db id = charges b.db id :=
  Prod.mk.inj h

theorem good_row {s : Store} {id : Uuid} {l : Lease} (hinv : (leaseDiscipline extra).Inv s)
    (hl : s.db.leases.get? id = some l) :
    (l.endedAt.isSome ↔ l.status = .ended) ∧ Charged l (charges s.db id) ∧ extra l := by
  have hgood : GoodRow extra (s.db.leases.get? id,charges s.db id) := hinv (.lease id)
  rw [hl] at hgood
  exact hgood

/-- An update of a held lease that keeps its row as it should be. -/
theorem clean_onLease {id : Uuid} {f : Account → Account} {u : Store → Store} (hu : OnLease id f u)
    (hclean : Clean (leaseDiscipline extra) held redo c) (hmem : Row.lease id ∈ held)
    (hgood : GoodRow extra (f (lookRow (.lease id) (redo c))))
    (hmoves : MovesRow (lookRow (.lease id) (redo c)) (f (lookRow (.lease id) (redo c)))) :
    Clean (leaseDiscipline extra) held (u ∘ redo) c := by
  have hnew : lookRow (.lease id) (u (redo c)) = f (lookRow (.lease id) (redo c)) :=
    (hu id (redo c)).trans (if_pos rfl)
  refine hclean.update hmem ?_ ?_ ?_ ?_
  · intro r a b hab
    cases r with
    | node d => rfl
    | lease id' =>
      have hsame : lookRow (.lease id') a = lookRow (.lease id') b := hab
      refine (hu id' a).trans (Eq.trans ?_ (hu id' b).symm)
      rw [hsame]
  · intro r a hne
    cases r with
    | node d => rfl
    | lease id' => exact (hu id' a).trans (if_neg fun he => hne (congrArg Row.lease he))
  · exact (congrArg (GoodRow extra) hnew).mpr hgood
  · exact (congrArg (MovesRow _) hnew).mpr hmoves

/-- Closing an open row charges it once. -/
theorem good_closed {l row : Lease} {reason : String} {t timeZone : Instant} {s : Store}
    (hinv : (leaseDiscipline extra).Inv s) (hrow : s.db.leases.get? l.leaseId = some row)
    (hc : Closes extra l t timeZone row) :
    GoodRow extra (closedAccount (settle reason t timeZone l) reason
      (lookRow (.lease l.leaseId) s)) := by
  have hgood := (good_row hinv hrow).2.1
  have hnone : charges s.db l.leaseId = [] := by simpa [Charged, hc.still] using hgood
  simp only [closedAccount, lookRow, hrow, hnone]
  exact ⟨by simp [closedRow, settle],⟨_,_,rfl,rfl,by simp [closedRow, settle, hc.billingUnit]⟩,
    hc.extra reason⟩

theorem moves_closed {l row : Lease} {reason : String} {t timeZone : Instant} {s : Store}
    (hrow : s.db.leases.get? l.leaseId = some row) (hc : Closes extra l t timeZone row) :
    MovesRow (lookRow (.lease l.leaseId) s) (closedAccount (settle reason t timeZone l) reason
      (lookRow (.lease l.leaseId) s)) := by
  intro q hq
  have hqrow : row = q := Option.some.inj (hrow.symm.trans hq)
  subst hqrow
  refine ⟨closedRow (settle reason t timeZone l) row,by simp [closedAccount, lookRow, hrow],
    rfl,rfl,fun _ h => h,fun u hu => ?_⟩
  simp [hc.still] at hu

/-- The end of one lease in a transaction. The record is written right after
the row, and nobody else sees the row without it. -/
theorem safe_endLease {expects : Lease → Instant → Store → Bool} {reason : String}
    {t timeZone : Instant} {l : Lease} {k : Lease → Program}
    (hclean : Clean (leaseDiscipline extra) held redo c)
    (hcloses : ∀ c', Rely (leaseDiscipline extra) held c c' → expects l t (redo c') = true →
      l.endedAt = none → ∀ row ∈ (redo c').db.leases.get? l.leaseId,
        Closes extra l t timeZone row)
    (hskip : Safe (leaseDiscipline extra) (k l) true held redo c)
    (hk : ∀ held' c', held ⊆ held' → Rely (leaseDiscipline extra) held c c' →
      Clean (leaseDiscipline extra) held'
        (closeLease (settle reason t timeZone l) reason t ∘ redo) c' →
      Safe (leaseDiscipline extra) (k (settle reason t timeZone l)) true held'
        (closeLease (settle reason t timeZone l) reason t ∘ redo) c') :
    Safe (leaseDiscipline extra) (ControlPlanePrograms.endLease expects reason t timeZone l k)
      true held redo c := by
  unfold ControlPlanePrograms.endLease
  split
  · exact hskip
  · rename_i hopen
    have hnone : l.endedAt = none := by simpa using hopen
    intro c₁ hr₁
    refine ⟨fun _ held₁ hsub₁ hrows => ⟨fun htest hexp => ?_,fun _ => trivial⟩,
      fun hout => by cases hout⟩
    -- The second write comes later, when others may have changed other rows.
    intro c₂ hr₂
    refine ⟨fun _ held₂ hsub₂ _ => ⟨fun _ _ => ?_,fun _ => trivial⟩,fun hout => by cases hout⟩
    have hr : Rely (leaseDiscipline extra) held c c₂ := hr₁.trans (hr₂.weaken hsub₁)
    have hmem : Row.lease l.leaseId ∈ held₁ := hrows List.mem_cons_self
    have hclean₂ : Clean (leaseDiscipline extra) held₂ redo c₂ :=
      (hclean.stable hr).more (List.Subset.trans hsub₁ hsub₂)
    have hpresent : ((redo c₁).db.leases.get? l.leaseId).isSome := by
      simp only [Bool.and_eq_true] at htest
      exact htest.1
    obtain ⟨row, hrow⟩ := Option.isSome_iff_exists.mp hpresent
    have hc := hcloses c₁ hr₁ hexp hnone row hrow
    have hsame := ((hclean.stable hr₁).more hsub₁).row hr₂ hmem
    have hrow₂ : (redo c₂).db.leases.get? l.leaseId = some row :=
      (look_lease hsame).1.trans hrow
    refine hk held₂ c₂ (List.Subset.trans hsub₁ hsub₂) hr ?_
    exact clean_onLease (onLease_closeLease _ _ _) hclean₂ (hsub₂ hmem)
      (good_closed (hclean₂.good hr₂.inv) hrow₂ hc)
      (@moves_closed extra l row reason t timeZone _ hrow₂ hc)

/-- A lease that was read under its lock. -/
theorem Visible.row {l : Lease} {c' : Store} (h : Visible held redo c l)
    (hclean : Clean (leaseDiscipline extra) held redo c)
    (hr : Rely (leaseDiscipline extra) held c c') :
    (redo c').db.leases.get? l.leaseId = some l :=
  (look_lease (hclean.row hr h.1)).1.trans h.2

theorem Visible.closes {expects : Expectations} (hw : EndsWell extra expects) {l : Lease}
    {t timeZone : Instant} {c' : Store} (h : Visible held redo c l)
    (hclean : Clean (leaseDiscipline extra) held redo c)
    (hr : Rely (leaseDiscipline extra) held c c') (hexp : expects.lockedLease l t (redo c') = true)
    (hopen : l.endedAt = none) : ∀ row ∈ (redo c').db.leases.get? l.leaseId,
      Closes extra l t timeZone row := by
  intro row hrow
  have hl := h.row hclean hr
  have hsame : l = row := Option.some.inj (hl.symm.trans hrow)
  exact hsame ▸ hw.locked l t timeZone _ hexp hl hopen

/-- A locked lease among others that end. -/
theorem Visible.next {l q : Lease} {held' : List Row} {reason : String} {t timeZone : Instant}
    {c' : Store} (h : Visible held redo c q) (hne : q.leaseId ≠ l.leaseId) (hsub : held ⊆ held')
    (hclean : Clean (leaseDiscipline extra) held redo c)
    (hr : Rely (leaseDiscipline extra) held c c') :
    Visible held' (closeLease (settle reason t timeZone l) reason t ∘ redo) c' q := by
  refine ⟨hsub h.1,?_⟩
  have hlook := onLease_closeLease (settle reason t timeZone l) reason t q.leaseId (redo c')
  exact (look_lease (hlook.trans (if_neg hne))).1.trans (h.row hclean hr)

theorem safe_endLeases {expects : Expectations} (hw : EndsWell extra expects) {reason : String}
    {t timeZone : Instant} {ls : List Lease} {k : List Lease → Program}
    (hk : ∀ ls, Steady (leaseDiscipline extra) (k ls)) (hnd : (ls.map Lease.leaseId).Nodup)
    (hinv : (leaseDiscipline extra).Inv c) (hclean : Clean (leaseDiscipline extra) held redo c)
    (hvis : ∀ l ∈ ls, Visible held redo c l) :
    Safe (leaseDiscipline extra)
      (ControlPlanePrograms.endLeases expects.lockedLease reason t timeZone ls k)
      true held redo c := by
  induction ls generalizing k held redo c with
  | nil => exact hk [] held redo c hinv hclean
  | cons l ls ih =>
    rw [List.map_cons, List.nodup_cons] at hnd
    have hl := hvis l List.mem_cons_self
    have hrest (q : Lease) (hq : q ∈ ls) := hvis q (List.mem_cons_of_mem _ hq)
    refine safe_endLease hclean (fun c' hr hexp => hl.closes hw hclean hr hexp) ?_ ?_
    · exact ih (fun ls => hk (l::ls)) hnd.2 hinv hclean hrest
    · intro held' c' hsub hr hclean'
      refine ih (fun ls => hk (_::ls)) hnd.2 hr.inv hclean' fun q hq => ?_
      have hne : q.leaseId ≠ l.leaseId := fun he => hnd.1 (he ▸ List.mem_map_of_mem hq)
      exact (hrest q hq).next hne hsub hclean hr

/-- Rows of leases that were asked for with their locks. -/
theorem visible_locked {ls : List Lease} (hrows : leaseRows ls ⊆ held)
    (hget : ∀ l ∈ ls, (redo c).db.leases.get? l.leaseId = some l) :
    ∀ l ∈ ls, Visible held redo c l :=
  fun l hl => ⟨hrows (List.mem_map_of_mem hl),hget l hl⟩

theorem inv_iff {s : Store} : (leaseDiscipline extra).Inv s ↔
    Ledger s.db ∧ ∀ l ∈ s.db.leases, extra l := by
  constructor
  · intro hinv
    have hrow (l : Lease) (hl : l ∈ s.db.leases) :=
      good_row hinv ((s.db.leases.mem_iff_get? l).mp hl)
    refine ⟨⟨fun l hl => (hrow l hl).1,fun l hl => (hrow l hl).2.1,fun b hb => ?_⟩,
      fun l hl => (hrow l hl).2.2⟩
    by_contra hno
    have hnone : s.db.leases.get? b.lease = none := by simpa using hno
    have hgood : GoodRow extra (s.db.leases.get? b.lease,charges s.db b.lease) :=
      hinv (.lease b.lease)
    rw [hnone] at hgood
    have hempty : s.db.recordsOf b.lease = [] := List.map_eq_nil_iff.mp hgood
    have hmem : b ∈ s.db.recordsOf b.lease := List.mem_filter.mpr ⟨hb,by simp⟩
    simp [hempty] at hmem
  · rintro ⟨hledger, hextra⟩ r
    cases r with
    | node d => exact rfl
    | lease id =>
      show GoodRow extra (s.db.leases.get? id,charges s.db id)
      cases hl : s.db.leases.get? id with
      | some l =>
        obtain ⟨hmem, hid⟩ := (Table.get?_eq_some _ _ _).mp hl
        exact hid ▸ ⟨hledger.status l hmem,hledger.charged l hmem,hextra l hmem⟩
      | none =>
        refine List.map_eq_nil_iff.mpr (List.filter_eq_nil_iff.mpr fun b hb hid => ?_)
        have hrow := hledger.owned b hb
        simp [of_decide_eq_true hid, hl] at hrow

end Ending

section Starting
variable {extra : Lease → Prop} {held : List Row} {redo : Store → Store} {c : Store}

/-- The save in `_mark_lease_ready`. -/
theorem clean_ready {expects : Expectations} (hw : EndsWell extra expects) (now : Instant)
    {id : Uuid} {l : Lease} (hclean : Clean (leaseDiscipline extra) held redo c)
    (hinv : (leaseDiscipline extra).Inv c) (hmem : Row.lease id ∈ held)
    (hl : (redo c).db.leases.get? id = some l) (hstart : Startable l) :
    Clean (leaseDiscipline extra) held ((fun s => s.with (s.db.updateLease id (fun row =>
      { row with startedAt := (readyLease now l).startedAt, status := .ready }))) ∘ redo) c := by
  obtain ⟨hended, hcharged, hextra⟩ := good_row (hclean.good hinv) hl
  have hopen : l.endedAt = none := by
    cases he : l.endedAt with
    | none => rfl
    | some t =>
      have hst := hended.mp (by simp [he])
      simp [Startable, hst] at hstart
  refine clean_onLease (onLease_updateLease id _ _) hclean hmem ?_ ?_
  · simp only [lookRow, hl, Prod.map, Option.map_some, GoodRow]
    exact ⟨by simp [hopen],by simpa [Charged, hopen] using hcharged,hw.ready l now hextra hopen⟩
  · intro q hq
    have hql : l = q := Option.some.inj (hl.symm.trans hq)
    subst hql
    refine ⟨{ l with startedAt := (readyLease now l).startedAt, status := .ready },
      by simp [lookRow, hl],rfl,rfl,fun u hu => by simp [readyLease, hu],fun _ h => h⟩

/-- The creation of a lease in the loop of `RentLeaseView`. -/
theorem clean_created {l : Lease} (hclean : Clean (leaseDiscipline extra) held redo c)
    (hinv : (leaseDiscipline extra).Inv c) (hmem : Row.lease l.leaseId ∈ held)
    (hopen : l.endedAt = none) (hstatus : l.status ≠ .ended) (hextra : extra l)
    (htest : ((redo c).db.createLease l).isSome) :
    Clean (leaseDiscipline extra) held
      ((fun s => s.with ((s.db.createLease l).getD s.db)) ∘ redo) c := by
  have hnone : (redo c).db.leases.get? l.leaseId = none := by
    by_contra hno
    simp [Database.createLease, Table.insert?, hno] at htest
  have hgood : GoodRow extra ((redo c).db.leases.get? l.leaseId,charges (redo c).db l.leaseId) :=
    hclean.good hinv (.lease l.leaseId)
  rw [hnone] at hgood
  refine clean_onLease (onLease_createLease l) hclean hmem ?_ ?_
  · simp only [lookRow, hnone, Prod.map, Option.getD_none, GoodRow]
    exact ⟨by simp [hopen, hstatus],by simpa [Charged, hopen, GoodRow] using hgood,hextra⟩
  · intro q hq
    exact absurd (hnone.symm.trans hq) (by simp)

end Starting

section Statements
variable {extra : Lease → Prop} {expects : Store → Bool} {k : Program}

theorem steady_saveNode {d : String} {f : Node → Node} {hf : ∀ n, (f n).deviceId = n.deviceId}
    (hk : Steady (leaseDiscipline extra) k) :
    Steady (leaseDiscipline extra) (saveNode expects d f hf k) :=
  steady_write (fun r s => @look_unseen s (s.db.updateNode d f hf) rfl rfl r) hk
    (fun _ _ _ _ _ => trivial)

theorem calm_saveNode {d : String} {f : Node → Node} {hf : ∀ n, (f n).deviceId = n.deviceId}
    (hk : Calm (leaseDiscipline extra) k) :
    Calm (leaseDiscipline extra) (saveNode expects d f hf k) :=
  calm_write (fun r s => @look_unseen s (s.db.updateNode d f hf) rfl rfl r) hk (fun _ _ => trivial)

theorem calm_query {k : Database → Program} (h : ∀ db, Calm (leaseDiscipline extra) (k db)) :
    Calm (leaseDiscipline extra) (query k) := calm_read fun s => h s.db

theorem calm_timezoneNow {k : Instant → Program}
    (h : ∀ now, Calm (leaseDiscipline extra) (k now)) :
    Calm (leaseDiscipline extra) (timezoneNow k) := calm_read fun s => h s.clock

theorem calm_answered (r : Response) : Calm (leaseDiscipline extra) (answered r) := calm_done _

theorem calm_lookup {user : User} {scope : Scope} {key : Option String}
    (h : Calm (leaseDiscipline extra) k) :
    Calm (leaseDiscipline extra) (lookup user scope key k) := by
  cases key with
  | none => exact h
  | some key =>
    unfold lookup
    refine calm_query fun db => ?_
    split
    · exact calm_answered _
    · exact h

theorem created_unseen (db : Database) (key : IdempotencyKey) :
    ((db.createIdempotencyKey key).getD db).leases = db.leases ∧
    ((db.createIdempotencyKey key).getD db).billingRecords = db.billingRecords := by
  unfold Database.createIdempotencyKey
  cases db.idempotencyKeys.insert? key <;> exact ⟨rfl,rfl⟩

theorem calm_rememberKey (user : User) (scope : Scope) (key : Option String) (body : Body) :
    Calm (leaseDiscipline extra) (rememberKey user scope key body) := by
  cases key with
  | none => exact calm_answered _
  | some key =>
    refine calm_write (fun r s => ?_) (calm_answered _) (fun _ _ => trivial)
    have hsame := created_unseen s.db ⟨user.id,scope,key,body⟩
    exact look_unseen hsame.1 hsame.2 r

theorem steady_releasingStatements {d : String} (hk : Steady (leaseDiscipline extra) k) :
    Steady (leaseDiscipline extra) (releasingStatements d k) := by
  refine steady_read fun s => ?_
  dsimp only
  split
  · exact hk
  · split
    · exact hk
    · exact steady_saveNode hk

end Statements

end CloudPlay.LeaseDiscipline
