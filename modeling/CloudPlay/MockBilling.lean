import CloudPlay.BillingSpecification
import CloudPlay.ControlPlaneClientModels
import CloudPlay.LeaseLifecycle
import CloudPlay.ControlPlaneJson

/-!
# Billing in the mock control plane

`release` of `lib/control_plane/control_plane_client_mock.dart`, with the rules it
bills by, beside `end_lease`. Prices are exact numbers on both sides, and Dart's
calendar is the one of the server, whose instants lie in the range of `datetime`, also
a zone away. The nodes of the mock, their timers and the streams are left out, and a
record's random id is a count.
-/

set_option autoImplicit false

namespace CloudPlay.MockBilling
open ControlPlaneClientModels (BillingUnit LeaseStatus EndReason billingUnitToWire)
open ControlPlaneModels (Instant Money)
open ControlPlaneJson (billingUnitValue)
open BillingRules (YearMonth localYearMonth monthIndex microseconds wholeSeconds ceilDiv)
open BillingSpecification RoundedQuotient

structure Lease where
  leaseId : String
  deviceId : String
  status : LeaseStatus
  billingUnit : BillingUnit
  unitPrice : Option ℚ := none
  billedUnits : Option ℤ := none
  amount : Option ℚ := none
  startedAt : Option Instant := none
  endedAt : Option Instant := none
  endReason : Option EndReason := none
  leaseToken : Option String := none
  deriving DecidableEq, Repr

structure BillingRecord where
  recordId : ℕ
  leaseId : String
  amount : ℚ
  billedUnits : ℤ
  billingUnit : BillingUnit
  createdAt : Instant
  endReason : Option EndReason
  deriving DecidableEq, Repr

def unitSeconds : BillingUnit → ℤ
  | .minute => 60
  | .hour => 3600
  | .day => 86400
  | .week => 604800
  | .month => 0

def calculateBilledUnits (timeZone : Instant) (unit : BillingUnit) (startedAt endedAt : Instant) :
    ℤ :=
  if ¬ startedAt < endedAt then 1
  else if unit = .month then
    let endMinusEpsilon := endedAt-1
    let startYm := localYearMonth timeZone startedAt
    let endYm := localYearMonth timeZone endMinusEpsilon
    let monthsBetween := (endYm.year-startYm.year)*12+(endYm.month-startYm.month)
    max 1 (monthsBetween+1)
  else
    let seconds := (endedAt-startedAt).tdiv microseconds
    max 1 ((seconds+unitSeconds unit-1).tdiv (unitSeconds unit))

/-- What `release` puts in the place of a lease. -/
def endedLease (timeZone endedAt : Instant) (existing : Lease) : Lease :=
  let startedAt := existing.startedAt.getD endedAt
  let billedUnits := calculateBilledUnits timeZone existing.billingUnit startedAt endedAt
  let unitPrice := existing.unitPrice.getD 0
  { existing with
    status := .ended
    endedAt := some endedAt
    endReason := some .userRelease
    billedUnits := some billedUnits
    amount := some (unitPrice*billedUnits) }

structure Mock where
  leasesById : String → Option Lease
  billingHistory : List BillingRecord

def Mock.end (c : Mock) (leaseId : String) (endedAt : Instant) (l : Lease) : Mock where
  leasesById := Function.update c.leasesById leaseId (some l)
  billingHistory := c.billingHistory ++ [⟨c.billingHistory.length,leaseId,l.amount.getD 0,
    l.billedUnits.getD 0,l.billingUnit,endedAt,some .userRelease⟩]

def Mock.release (timeZone endedAt : Instant) : List String → Mock → Mock × List Lease
  | [], c => (c,[])
  | leaseId::leaseIds, c =>
    match c.leasesById leaseId with
    | none => Mock.release timeZone endedAt leaseIds c
    | some existing =>
      if existing.status = .ended then
        let (c',results) := Mock.release timeZone endedAt leaseIds c
        (c',existing::results)
      else
        let ended := endedLease timeZone endedAt existing
        let (c',results) := Mock.release timeZone endedAt leaseIds (c.end leaseId endedAt ended)
        (c',ended::results)

/-- The value of an amount of the server, which has four decimal places. -/
def decimal (m : Money) : ℚ := m/10000

/-- One lease as the mock and the server have it. -/
structure SameLease (l : Lease) (b : ControlPlaneModels.Lease) : Prop where
  billingUnit : billingUnitToWire l.billingUnit = billingUnitValue b.billingUnit
  unitPrice : l.unitPrice = b.unitPrice.map decimal
  startedAt : l.startedAt = b.startedAt

/-- The same units at the same amount. -/
structure BilledAlike (l : Lease) (b : ControlPlaneModels.Lease) : Prop where
  billedUnits : l.billedUnits = b.billedUnits.map Nat.cast
  amount : l.amount = b.amount.map decimal

/-- A lease that has started, not after its end. Seconds that fill up the units are
not rounded to the next one in the server's double. -/
def Chargeable (startedAt : Option Instant) (endedAt : Instant)
    (unit : ControlPlaneModels.BillingUnit) : Prop :=
  ∃ s, startedAt = some s ∧ s ≤ endedAt ∧ ∀ u, BillingRules.unitSeconds unit = some u →
    ¬ (u ∣ (endedAt-s)/microseconds ∧ roundsUp (endedAt-s) microseconds)

section Units
variable {timeZone s e : ℤ} {unit : BillingUnit} {unit' : ControlPlaneModels.BillingUnit}

theorem unit_month (h : billingUnitToWire unit = billingUnitValue unit')
    (hnone : BillingRules.unitSeconds unit' = none) : unit = .month := by
  cases unit' <;> cases hnone
  cases unit <;> first | rfl | exact absurd h (by decide)

theorem unit_seconds {u : ℤ} (h : billingUnitToWire unit = billingUnitValue unit')
    (hsome : BillingRules.unitSeconds unit' = some u) : unit ≠ .month ∧ unitSeconds unit = u := by
  cases unit' <;> cases hsome <;> cases unit <;>
    first | exact absurd h (by decide) | exact ⟨by decide,rfl⟩

theorem calculate_late (h : ¬ s < e) : calculateBilledUnits timeZone unit s e = 1 := if_pos h

theorem calculate_month (h : s < e) : calculateBilledUnits timeZone .month s e =
    max 1 (monthIndex timeZone (e-1)-monthIndex timeZone s+1) := by
  unfold calculateBilledUnits monthIndex
  rw [if_neg (not_not.mpr h), if_pos rfl]
  dsimp only
  congr 1
  ring

theorem ceilDiv_nonneg {n u : ℤ} (hn : 0 ≤ n) (hu : 0 < u) : 0 ≤ ceilDiv n u := by
  unfold ceilDiv
  exact Int.ediv_nonneg (by omega) hu.le

theorem ceilDiv_zero {u : ℤ} (hu : 0 < u) : ceilDiv 0 u = 0 := by
  apply le_antisymm
  · rw [ceilDiv_le_iff hu]
    omega
  · exact ceilDiv_nonneg le_rfl hu

/-- A second more is a unit more after a number of full units. -/
theorem ceilDiv_succ {n u : ℤ} (hu : 0 < u) :
    ceilDiv (n+1) u = if u ∣ n then ceilDiv n u+1 else ceilDiv n u := by
  have hle : ceilDiv n u ≤ ceilDiv (n+1) u := by
    rw [ceilDiv_le_iff hu]
    have hcover := (ceilDiv_le_iff (n := n+1) hu).mp le_rfl
    omega
  have hcover := (ceilDiv_le_iff (n := n) hu).mp le_rfl
  split
  · rename_i hdvd
    obtain ⟨k, rfl⟩ := hdvd
    have hexact : ceilDiv (u*k) u ≤ k := (ceilDiv_le_iff hu).mpr (le_of_eq (mul_comm u k))
    have hmore : ceilDiv (u*k+1) u ≤ k+1 := by
      rw [ceilDiv_le_iff hu, add_mul, mul_comm k u]
      omega
    have hless : ¬ ceilDiv (u*k+1) u ≤ k := by
      rw [ceilDiv_le_iff hu, mul_comm k u]
      omega
    have hfull : ¬ ceilDiv (u*k) u ≤ k-1 := by
      rw [ceilDiv_le_iff hu, sub_mul, mul_comm k u]
      omega
    omega
  · rename_i hdvd
    have hne : n ≠ ceilDiv n u*u := by
      intro h
      exact hdvd ⟨ceilDiv n u,by rw [mul_comm]; exact h⟩
    have hge : ceilDiv (n+1) u ≤ ceilDiv n u := by
      rw [ceilDiv_le_iff hu]
      omega
    omega

theorem calculate_seconds {u : ℤ} (hu : 0 < u) (hunit : unit ≠ .month ∧ unitSeconds unit = u)
    (h : s ≤ e) : calculateBilledUnits timeZone unit s e =
      max 1 (ceilDiv ((e-s)/microseconds) u) := by
  rcases h.lt_or_eq with hlt | rfl
  · have hnonneg : 0 ≤ (e-s)/microseconds := Int.ediv_nonneg (by omega) (by decide)
    unfold calculateBilledUnits ceilDiv
    rw [if_neg (not_not.mpr hlt), if_neg hunit.1, hunit.2]
    dsimp only
    rw [Int.tdiv_eq_ediv_of_nonneg (Int.sub_nonneg.mpr h), Int.tdiv_eq_ediv_of_nonneg (by omega)]
  · rw [calculate_late (lt_irrefl s), sub_self, Int.zero_ediv, ceilDiv_zero hu]
    rfl

theorem not_roundsUp (h : s ≤ e) (hshort : (e-s)/microseconds = 0) :
    ¬ roundsUp (e-s) microseconds := by
  have hpos : (0 : ℤ) < microseconds := by decide
  have hlt : e-s < 2^34*microseconds := by
    have hdiv := Int.lt_ediv_add_one_mul_self (e-s) hpos
    rw [hshort] at hdiv
    calc e-s < (0+1)*microseconds := hdiv
      _ ≤ 2^34*microseconds := by decide
  have hexact := wholeSeconds_eq h hlt
  rw [← lt_truncQuotient_iff hpos]
  exact not_lt.mpr hexact.le

/-- The units of whole seconds are the mock's, but for those rounded up after full
units. -/
theorem seconds_agree {u : ℤ} (hu : 0 < u) (h : s ≤ e) :
    max 1 (ceilDiv ((e-s)/microseconds) u) =
        ((max 1 (ceilDiv (max (wholeSeconds s e) 0) u)).toNat : ℤ) ↔
      ¬ (u ∣ (e-s)/microseconds ∧ roundsUp (e-s) microseconds) := by
  have hpos : (0 : ℤ) < microseconds := by decide
  have hnonneg : 0 ≤ (e-s)/microseconds := Int.ediv_nonneg (by omega) hpos.le
  have hle : (e-s)/microseconds ≤ wholeSeconds s e := le_truncQuotient hpos
  have hge : wholeSeconds s e ≤ (e-s)/microseconds+1 := truncQuotient_le hpos
  have hround : (e-s)/microseconds < wholeSeconds s e ↔ roundsUp (e-s) microseconds :=
    lt_truncQuotient_iff hpos
  rw [Int.toNat_of_nonneg (by omega), max_eq_left (by omega : 0 ≤ wholeSeconds s e)]
  by_cases hup : roundsUp (e-s) microseconds
  · have hwhole : wholeSeconds s e = (e-s)/microseconds+1 := by
      have hlt := hround.mpr hup
      omega
    have hpast : 0 < ceilDiv ((e-s)/microseconds) u := by
      by_contra hnone
      have hzero : (e-s)/microseconds ≤ 0 := by
        have hcover := (ceilDiv_le_iff (k := 0) hu).mp (not_lt.mp hnone)
        omega
      exact not_roundsUp h (le_antisymm hzero hnonneg) hup
    rw [hwhole, ceilDiv_succ hu]
    split
    · rename_i hdvd
      exact iff_of_false (by omega) (fun hnot => hnot ⟨hdvd,hup⟩)
    · rename_i hdvd
      exact iff_of_true rfl (fun hboth => hdvd hboth.1)
  · have hwhole : wholeSeconds s e = (e-s)/microseconds := by
      have hnot := mt hround.mp hup
      omega
    rw [hwhole]
    exact iff_of_true rfl (fun hboth => hup hboth.2)

theorem month_agree (h : s ≤ e) : calculateBilledUnits timeZone .month s e =
    ((BillingRules.billedUnits timeZone .month s e : ℕ) : ℤ) := by
  have hserver : ((BillingRules.billedUnits timeZone .month s e : ℕ) : ℤ) =
      max 1 (monthIndex timeZone (e-1)-monthIndex timeZone s+1) := by
    show ((max 1 (monthIndex timeZone (e-1)-monthIndex timeZone s+1)).toNat : ℤ) = _
    omega
  rw [hserver]
  rcases h.lt_or_eq with hlt | rfl
  · exact calculate_month hlt
  · rw [calculate_late (lt_irrefl s)]
    have hmono := monthIndex_mono timeZone (Int.sub_le_self s (by decide : (0 : ℤ) ≤ 1))
    omega

theorem units_agree (hunit : billingUnitToWire unit = billingUnitValue unit') (h : s ≤ e) :
    calculateBilledUnits timeZone unit s e =
        ((BillingRules.billedUnits timeZone unit' s e : ℕ) : ℤ) ↔
      ∀ u, BillingRules.unitSeconds unit' = some u →
        ¬ (u ∣ (e-s)/microseconds ∧ roundsUp (e-s) microseconds) := by
  cases hsome : BillingRules.unitSeconds unit' with
  | none =>
    have hmonth : unit' = .month := by
      cases unit' <;> cases hsome
      rfl
    subst hmonth
    rw [unit_month hunit hsome]
    exact iff_of_true (month_agree h) (fun u hu => nomatch hu)
  | some u =>
    have hu := unitSeconds_pos hsome
    rw [calculate_seconds hu (unit_seconds hunit hsome) h]
    simp only [BillingRules.billedUnits, hsome, Option.some.injEq, forall_eq']
    exact seconds_agree hu h

end Units

section Release
variable {timeZone endedAt : Instant} {leaseId : String} {l : Lease} {c : Mock}

/-- A lease that has ended stays as it is. -/
theorem release_ended (leaseIds : List String) (hl : c.leasesById leaseId = some l)
    (hended : l.status = .ended) :
    (Mock.release timeZone endedAt leaseIds c).1.leasesById leaseId = some l := by
  induction leaseIds generalizing c with
  | nil => exact hl
  | cons id ids ih =>
    rw [Mock.release]
    cases hid : c.leasesById id with
    | none => exact ih hl
    | some existing =>
      by_cases hover : existing.status = .ended
      · simp only [hover, if_true]
        exact ih hl
      · simp only [hover, if_false]
        apply ih
        have hne : leaseId ≠ id := by
          rintro rfl
          rw [hl] at hid
          cases hid
          exact hover hended
        simpa [Mock.end, Function.update_of_ne hne] using hl

/-- A live lease among those released is ended, whatever the others are. -/
theorem release_live (leaseIds : List String) (hid : leaseId ∈ leaseIds)
    (hl : c.leasesById leaseId = some l) (hlive : l.status ≠ .ended) :
    (Mock.release timeZone endedAt leaseIds c).1.leasesById leaseId =
      some (endedLease timeZone endedAt l) := by
  induction leaseIds generalizing c with
  | nil => cases hid
  | cons id ids ih =>
    rw [Mock.release]
    by_cases hsame : leaseId = id
    · subst hsame
      simp only [hl, hlive, if_false]
      exact release_ended ids (by simp [Mock.end]) rfl
    · have hmem : leaseId ∈ ids := (List.mem_cons.mp hid).resolve_left hsame
      cases c.leasesById id with
      | none => exact ih hmem hl
      | some existing =>
        by_cases hover : existing.status = .ended
        · simp only [hover, if_true]
          exact ih hmem hl
        · simp only [hover, if_false]
          exact ih hmem (by simpa [Mock.end, Function.update_of_ne hsame] using hl)

end Release

section Agreement
variable {timeZone endedAt : ℤ} {endReason : String} {l : Lease} {b : ControlPlaneModels.Lease}

open LeaseLifecycle (charge settle finish finish_live)

/-- The server multiplies the same price, so the units decide. -/
theorem settle_alike (hsame : SameLease l b) :
    BilledAlike (endedLease timeZone endedAt l) (settle endReason endedAt timeZone b) ↔
      calculateBilledUnits timeZone l.billingUnit (b.startedAt.getD endedAt) endedAt =
        ((charge b endedAt timeZone).billedUnits : ℤ) := by
  rw [← hsame.startedAt]
  constructor
  · intro h
    exact Option.some.inj h.billedUnits
  · intro hunits
    have hprice : l.unitPrice.getD 0 = decimal (b.unitPrice.getD 0) := by
      rw [hsame.unitPrice]
      cases b.unitPrice with
      | none => simp [decimal]
      | some p => rfl
    have hamount : (charge b endedAt timeZone).amount =
        b.unitPrice.getD 0*((charge b endedAt timeZone).billedUnits : ℤ) := by
      unfold charge
      cases b.startedAt with
      | none => simp
      | some s =>
        by_cases hlate : endedAt < s
        · simp [BillingRules.computeBilling_backwards _ _ _ _ _ hlate]
        · simp [BillingRules.computeBilling, hlate]
    constructor
    · exact congrArg some hunits
    · show some (l.unitPrice.getD 0*((calculateBilledUnits timeZone l.billingUnit
        (l.startedAt.getD endedAt) endedAt : ℤ) : ℚ)) = _
      rw [hunits, hprice]
      show _ = some (decimal (charge b endedAt timeZone).amount)
      rw [hamount]
      simp only [decimal]
      push_cast
      ring_nf

theorem alike_iff (hsame : SameLease l b) :
    BilledAlike (endedLease timeZone endedAt l) (settle endReason endedAt timeZone b) ↔
      Chargeable b.startedAt endedAt b.billingUnit := by
  rw [settle_alike hsame]
  unfold Chargeable charge
  cases b.startedAt with
  | none =>
    rw [Option.getD_none, calculate_late (lt_irrefl endedAt)]
    exact iff_of_false one_ne_zero (fun ⟨_, hstart, _⟩ => nomatch hstart)
  | some s =>
    simp only [Option.getD_some, Option.some.injEq, exists_eq_left']
    by_cases hlate : endedAt < s
    · rw [calculate_late (not_lt.mpr hlate.le),
        BillingRules.computeBilling_backwards _ _ _ _ _ hlate]
      exact iff_of_false one_ne_zero (fun h => not_le.mpr hlate h.1)
    · have hle := not_lt.mp hlate
      simp only [BillingRules.computeBilling, hlate, if_false, units_agree hsame.billingUnit hle,
        hle, true_and]

end Agreement

/-- Releasing a lease through the mock bills it like the server exactly when it has
started, not after its end, and the server's double does not round full units up. -/
theorem mock_bills_alike (c : Mock) (leaseIds : List String) (leaseId : String)
    (hid : leaseId ∈ leaseIds) (l : Lease) (hl : c.leasesById leaseId = some l)
    (hlive : l.status ≠ .ended) (b : ControlPlaneModels.Lease) (hopen : b.endedAt = none)
    (hsame : SameLease l b) (timeZone endedAt : Instant) (endReason : String) :
    (∃ l', (Mock.release timeZone endedAt leaseIds c).1.leasesById leaseId = some l' ∧
        BilledAlike l' (LeaseLifecycle.finish endReason endedAt timeZone b)) ↔
      Chargeable b.startedAt endedAt b.billingUnit := by
  rw [LeaseLifecycle.finish_live endReason endedAt hopen]
  simp only [release_live leaseIds hid hl hlive, Option.some.injEq, exists_eq_left']
  exact alike_iff hsame

/-- A lease by the hour that is ready at the first instant. -/
def readyLease : Lease where
  leaseId := "1"
  deviceId := "node-1"
  status := .active
  billingUnit := .hour
  unitPrice := some 20
  startedAt := some 0

def serverLease (startedAt : Option Instant) : ControlPlaneModels.Lease where
  leaseId := 1
  user := 1
  deviceId := "node-1"
  status := .assigned
  billingUnit := .hour
  unitPrice := some 200000
  startedAt := startedAt
  createdAt := 0

def mockOf (l : Lease) : Mock := ⟨fun id => if id = l.leaseId then some l else none,[]⟩

/-- An hour and a second are two hours for both. -/
theorem ready_bills_alike : ∃ l', (Mock.release 0 3601000000 ["1"]
      (mockOf readyLease)).1.leasesById "1" = some l' ∧
    BilledAlike l' (LeaseLifecycle.finish "USER_RELEASE" 3601000000 0 (serverLease (some 0))) :=
  (mock_bills_alike (mockOf readyLease) ["1"] "1" (by decide) readyLease rfl (by decide)
    (serverLease (some 0)) rfl ⟨rfl,by simp [readyLease, serverLease, decimal]; norm_num,rfl⟩ 0
    3601000000 "USER_RELEASE").mpr
    ⟨0,rfl,by decide,fun u hu h => absurd h.1 (by cases hu; decide)⟩

/-- A lease released before it is ready costs an hour in the mock and nothing on the
server. -/
theorem unready_billed :
    SameLease { readyLease with startedAt := none } (serverLease none) ∧
    ¬ ∃ l', (Mock.release 0 0 ["1"] (mockOf { readyLease with startedAt := none })).1.leasesById
        "1" = some l' ∧
      BilledAlike l' (LeaseLifecycle.finish "USER_RELEASE" 0 0 (serverLease none)) := by
  refine ⟨⟨rfl,by simp [readyLease, serverLease, decimal]; norm_num,rfl⟩,?_⟩
  rintro ⟨l', hl', halike⟩
  have hreleased : (Mock.release 0 0 ["1"]
      (mockOf { readyLease with startedAt := none })).1.leasesById "1" =
        some (endedLease 0 0 { readyLease with startedAt := none }) := rfl
  rw [hreleased] at hl'
  cases hl'
  exact absurd halike.billedUnits (by decide)

end CloudPlay.MockBilling
