import CloudPlay.HostDisplays
import CloudPlay.RetryLoop

/-!
# Attempts on a new display

A new display is to take its resolution within ten attempts or to go. The loop of
`_createVirtualDisplay` never counts, so it goes on with a display that refuses for
ever, and a call that throws leaves the display behind. The other loop of
`StreamedManager`, which restores the configuration of the displays, counts.
-/

set_option autoImplicit false

namespace CloudPlay.DisplayAttempts
open HostDisplays RetryLoop

/-- The platform under a call. `changeDisplaySettings i` answers the i-th attempt;
`none` is a call that throws. -/
structure Platform where
  host : Host
  changeDisplaySettings : ℕ → Option Bool

inductive Change
  | success
  | thrown
  deriving DecidableEq

/-- What a call returns, after how many attempts, and the display it has made and
not removed. -/
structure Outcome where
  result : Option DisplayId
  attempts : ℕ
  present : Option DisplayId
  deriving DecidableEq

namespace Platform
variable (p : Platform) (width height : ℤ)

def changes : Loop Change where
  bound := 10
  next retry := retry
  answer i :=
    match p.changeDisplaySettings i with
    | some true => some .success
    | some false => none
    | none => some .thrown

/-- From the loop on. -/
def setResolution (d : DisplayId) (fuel : ℕ) : Option Outcome :=
  (p.changes.run fuel 0 0).map fun e =>
    match e.answer with
    | some .success => ⟨some d,e.tries,some d⟩
    | some .thrown => ⟨none,e.tries,some d⟩
    | none => ⟨none,e.tries,if p.host.removeDisplay = some true then none else some d⟩

def createVirtualDisplay (fuel : ℕ) : Option Outcome :=
  if p.host.vddReady width height then
    match p.host.createDisplay with
    | none => some ⟨none,0,none⟩
    | some d =>
      if p.host.refreshDisplays then
        if 0 ≤ d then p.setResolution d fuel else some ⟨none,0,none⟩
      else some ⟨none,0,if 0 ≤ d then some d else none⟩
  else some ⟨none,0,none⟩

/-- The call ends within ten attempts, and if it fails its display is gone. -/
def GivesUp : Prop :=
  ∃ fuel o, p.createVirtualDisplay width height fuel = some o ∧ o.attempts ≤ 10 ∧
    (o.result = none → o.present = none)

/-- The display that is made on the way. -/
def makes : Option DisplayId :=
  if p.host.vddReady width height then p.host.createDisplay.filter (0 ≤ ·) else none

/-- An attempt is accepted, and the ones before it are refused. -/
def AcceptsAt (i : ℕ) : Prop :=
  p.changeDisplaySettings i = some true ∧ ∀ j < i, p.changeDisplaySettings j = some false

/-- The host with the answers to so many attempts. -/
def within (fuel : ℕ) : Host :=
  {p.host with changeDisplaySettings := (List.range fuel).map p.changeDisplaySettings}

end Platform

section Attempts
variable {p : Platform} {width height : ℤ} {d : DisplayId} {fuel i : ℕ} {o : Outcome}

theorem refused_iff : p.changes.answer i = none ↔ p.changeDisplaySettings i = some false := by
  simp only [Platform.changes]
  split <;> simp [*]

theorem success_iff :
    p.changes.answer i = some .success ↔ p.changeDisplaySettings i = some true := by
  simp only [Platform.changes]
  split <;> simp [*]

theorem first_success_iff : p.changes.First i .success ↔ p.AcceptsAt i := by
  simp only [Loop.First, Platform.AcceptsAt, refused_iff, success_iff]

theorem run_ends {e : End Change} :
    p.changes.run fuel 0 0 = some e ↔ ∃ i < fuel, ∃ a, p.changes.First i a ∧ e = ⟨i+1,some a⟩ :=
  Loop.run_first rfl (Nat.succ_pos 9)

theorem setResolution_iff :
    (∃ fuel o, p.setResolution d fuel = some o ∧ o.attempts ≤ 10 ∧
      (o.result = none → o.present = none)) ↔ ∃ i < 10, p.AcceptsAt i := by
  constructor
  · rintro ⟨fuel, o, ho, hfew, hgone⟩
    obtain ⟨e, he, rfl⟩ := Option.map_eq_some_iff.mp ho
    obtain ⟨i, -, a, hfirst, rfl⟩ := run_ends.mp he
    cases a with
    | success => exact ⟨i,hfew,first_success_iff.mp hfirst⟩
    | thrown => cases hgone rfl
  · rintro ⟨i, hi, haccepts⟩
    have hrun : p.changes.run (i+1) 0 0 = some ⟨i+1,some .success⟩ :=
      run_ends.mpr ⟨i,Nat.lt_succ_self i,.success,first_success_iff.mpr haccepts,rfl⟩
    refine ⟨i+1,⟨some d,i+1,some d⟩,?_,hi,fun h => nomatch h⟩
    rw [Platform.setResolution, hrun]
    rfl

theorem makes_iff : p.makes width height = some d ↔
    p.host.vddReady width height = true ∧ p.host.createDisplay = some d ∧ 0 ≤ d := by
  unfold Platform.makes
  split
  · rename_i hready
    rw [Option.filter_eq_some_iff, decide_eq_true_eq]
    exact (and_iff_right hready).symm
  · rename_i hready
    exact ⟨(fun h => nomatch h),fun h => absurd h.1 hready⟩

theorem create_made (hmakes : p.makes width height = some d) :
    p.createVirtualDisplay width height fuel =
      if p.host.refreshDisplays then p.setResolution d fuel else some ⟨none,0,some d⟩ := by
  obtain ⟨hready, hcreate, hd⟩ := makes_iff.mp hmakes
  simp only [Platform.createVirtualDisplay, hready, hcreate, hd, if_true]

theorem create_nothing (hmakes : p.makes width height = none) :
    p.createVirtualDisplay width height fuel = some ⟨none,0,none⟩ := by
  unfold Platform.createVirtualDisplay
  split
  · rename_i hready
    cases hcreate : p.host.createDisplay with
    | none => rfl
    | some d =>
      have hd : ¬0 ≤ d := by
        intro hd
        rw [makes_iff.mpr ⟨hready,hcreate,hd⟩] at hmakes
        cases hmakes
      simp only [hd, if_false, ite_self]
  · rfl

/-- A display that only refuses keeps the call waiting. -/
theorem refused_waits (hmakes : p.makes width height = some d)
    (hrefresh : p.host.refreshDisplays = true)
    (hrefused : ∀ i, p.changeDisplaySettings i = some false) :
    p.createVirtualDisplay width height fuel = none := by
  have hwaits : p.changes.run fuel 0 0 = none := by
    rw [Option.eq_none_iff_forall_ne_some]
    intro e he
    obtain ⟨i, -, a, ⟨hanswer, -⟩, -⟩ := run_ends.mp he
    rw [refused_iff.mpr (hrefused i)] at hanswer
    cases hanswer
  rw [create_made hmakes, if_pos hrefresh, Platform.setResolution, hwaits]
  rfl

/-- The call keeps its promise exactly when it makes no display, or can list the
displays afterwards and has one of the first ten attempts accepted, none before it
having thrown. -/
theorem display_gives_up (p : Platform) (width height : ℤ) :
    p.GivesUp width height ↔ ((p.makes width height).isSome →
      p.host.refreshDisplays = true ∧ ∃ i < 10, p.AcceptsAt i) := by
  unfold Platform.GivesUp
  cases hmakes : p.makes width height with
  | none =>
    apply iff_of_true
    · exact ⟨0,_,create_nothing hmakes,Nat.zero_le 10,fun _ => rfl⟩
    · exact fun h => nomatch h
  | some d =>
    simp only [create_made hmakes, Option.isSome_some, forall_const]
    by_cases hrefresh : p.host.refreshDisplays = true
    · simp only [hrefresh, if_true, true_and]
      exact setResolution_iff
    · apply iff_of_false
      · rintro ⟨fuel, o, ho, -, hgone⟩
        rw [if_neg hrefresh] at ho
        obtain rfl := Option.some.inj ho
        cases hgone rfl
      · exact fun h => hrefresh h.1

end Attempts

def refusing : Platform where
  host :=
    { agent := { isHeadless := true, enabled := true }
      thisDevice := some "node"
      websocketSessionid := some "node" }
  changeDisplaySettings _ := some false

/-- The driver works, but does not take the resolution. -/
theorem refusing_never_ends :
    (∀ fuel, refusing.createVirtualDisplay 1920 1080 fuel = none) ∧
      ¬refusing.GivesUp 1920 1080 := by
  have hwaits (fuel : ℕ) : refusing.createVirtualDisplay 1920 1080 fuel = none :=
    refused_waits (makes_iff.mpr ⟨rfl,rfl,le_refl 0⟩) rfl fun _ => rfl
  refine ⟨hwaits,?_⟩
  rintro ⟨fuel, o, ho, -⟩
  rw [hwaits] at ho
  cases ho

section Coarser
variable {p : Platform} {width height : ℤ} {d : DisplayId} {fuel : ℕ} {o : Outcome}

/-- How the coarser model of the host names an outcome. -/
def Outcome.created (o : Outcome) : Created :=
  match o.result with
  | some d => .display d
  | none => .null o.present

theorem settle_run (tries : ℕ) :
    settle ((List.range' tries fuel).map p.changeDisplaySettings) =
      (p.changes.run fuel 0 tries).map (fun e => decide (e.answer = some .success)) := by
  induction fuel generalizing tries with
  | zero => rfl
  | succ fuel ih =>
    have hlt : 0 < p.changes.bound := Nat.succ_pos 9
    rw [List.range'_succ, List.map_cons, Loop.run, if_pos hlt]
    cases hanswer : p.changeDisplaySettings tries with
    | none => simp [settle, Platform.changes, hanswer]
    | some ok =>
      cases ok with
      | true => simp [settle, Platform.changes, hanswer]
      | false =>
        rw [refused_iff.mpr hanswer]
        exact ih (tries+1)

theorem within_nothing (hmakes : p.makes width height = none) :
    (p.within fuel).createVirtualDisplay width height = .null none := by
  unfold Host.createVirtualDisplay
  split
  · rename_i hready
    show (match p.host.createDisplay with
      | none => Created.null none
      | some d => _) = _
    cases hcreate : p.host.createDisplay with
    | none => rfl
    | some d =>
      have hd : ¬0 ≤ d := by
        intro hd
        rw [makes_iff.mpr ⟨hready,hcreate,hd⟩] at hmakes
        cases hmakes
      exact if_neg hd
  · rfl

theorem within_made (hmakes : p.makes width height = some d) :
    (p.within fuel).createVirtualDisplay width height =
      if p.host.refreshDisplays then
        match settle ((List.range fuel).map p.changeDisplaySettings) with
        | none => .waiting d
        | some true => .display d
        | some false => .null (some d)
      else .null (some d) := by
  obtain ⟨hready, hcreate, hd⟩ := makes_iff.mp hmakes
  have hready' : (p.within fuel).vddReady width height = true := hready
  have hcreate' : (p.within fuel).createDisplay = some d := hcreate
  simp only [Host.createVirtualDisplay, hready', hcreate', hd, if_true]
  rfl

/-- With answers to so many attempts the host says how the call has ended by then. -/
theorem within_ended (h : p.createVirtualDisplay width height fuel = some o) :
    (p.within fuel).createVirtualDisplay width height = o.created := by
  cases hmakes : p.makes width height with
  | none =>
    rw [create_nothing hmakes] at h
    rw [within_nothing hmakes, ← Option.some.inj h]
    rfl
  | some d =>
    rw [create_made hmakes] at h
    rw [within_made hmakes]
    split at h
    · rename_i hrefresh
      rw [if_pos hrefresh, List.range_eq_range', settle_run]
      obtain ⟨e, he, rfl⟩ := Option.map_eq_some_iff.mp h
      obtain ⟨i, -, a, -, rfl⟩ := run_ends.mp he
      rw [he]
      cases a <;> rfl
    · rename_i hrefresh
      rw [if_neg hrefresh, ← Option.some.inj h]
      rfl

/-- As long as the call has not ended, the host waits. -/
theorem within_waiting (h : p.createVirtualDisplay width height fuel = none) :
    ∃ d, (p.within fuel).createVirtualDisplay width height = .waiting d := by
  cases hmakes : p.makes width height with
  | none =>
    rw [create_nothing hmakes] at h
    cases h
  | some d =>
    rw [create_made hmakes] at h
    rw [within_made hmakes]
    split at h
    · rename_i hrefresh
      rw [if_pos hrefresh, List.range_eq_range', settle_run, Option.map_eq_none_iff.mp h]
      exact ⟨d,rfl⟩
    · cases h

end Coarser

section Restoring

/-- The loop of `_restoreDisplayConfigurationWithRetry`, which tries again after an
exception as well. -/
def restores (restoreDisplayConfiguration : ℕ → Option Bool) : Loop Unit where
  bound := 5
  next retryCount := retryCount+1
  answer i := if restoreDisplayConfiguration i = some true then some () else none

/-- Whatever the platform answers, there are at most five attempts. -/
theorem restore_gives_up (restoreDisplayConfiguration : ℕ → Option Bool) :
    ∃ e, (restores restoreDisplayConfiguration).run 6 0 0 = some e ∧ e.tries ≤ 5 :=
  Loop.run_counting Nat.lt_succ_self (Nat.lt_succ_self 5)

end Restoring

end CloudPlay.DisplayAttempts
