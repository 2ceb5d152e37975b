import CloudPlay.GamepadState

/-!
# A direction pad made of two hats

macOS, iOS and Android report the direction pad as two hats, one for each axis.
The two buttons of a hat are to be what it last reported. A hat at the centre
releases both of its buttons and a hat at an end presses one of them without
releasing the other, so a hat that jumps from one end to the other leaves both
pressed.
-/

set_option autoImplicit false

namespace CloudPlay.HatPad
open GamepadState TransitionRun

inductive Hat
  | x | y
  deriving DecidableEq

def Hat.negative : Hat → Button
  | .x => .dpadLeft
  | .y => .dpadDown

def Hat.positive : Hat → Button
  | .x => .dpadRight
  | .y => .dpadUp

/-- The hat that a key belongs to. -/
def hatOf (key : String) : Option Hat :=
  match buttonMapping.lookup key with
  | some .dpadLeft => some .x
  | some .dpadUp => some .y
  | _ => none

/-- An event of a gamepad whose direction pad is two hats. -/
structure HatReport extends GamepadEvent where
  noRight : buttonMapping.lookup key ≠ some .dpadRight
  noDown : buttonMapping.lookup key ≠ some .dpadDown
  inRange : hatOf key ≠ none → value = -1 ∨ value = 0 ∨ value = 1

/-- A gamepad and the value each hat last reported. -/
structure Tracked where
  state : CGamepadState := {}
  last : Hat → ℚ := fun _ => 0

def Tracked.report (t : Tracked) (key : String) (value : ℚ) : Hat → ℚ :=
  match hatOf key with
  | some hat => Function.update t.last hat value
  | none => t.last

def step (p : Platform) (e : HatReport) (t : Tracked) : Tracked :=
  ⟨(t.state.update p e.toGamepadEvent).1,t.report e.key e.value⟩

/-- The buttons of each hat are what it last reported. -/
def Reflects (t : Tracked) : Prop :=
  ∀ hat : Hat, (t.state.buttonDown hat.negative = true ↔ t.last hat = -1) ∧
    (t.state.buttonDown hat.positive = true ↔ t.last hat = 1)

structure Faithful (p : Platform) (e : HatReport) (t : Tracked) : Prop where
  reflects : Reflects (step p e t)
  consistent : ∀ hat : Hat, ¬((step p e t).state.buttonDown hat.negative = true ∧
    (step p e t).state.buttonDown hat.positive = true)
  frame : ∀ hat button, hatOf e.key = some hat → button ≠ hat.negative →
    button ≠ hat.positive → (step p e t).state.buttonDown button = t.state.buttonDown button

/-- A hat comes to one end only from the centre or from that end. -/
def Centred (e : HatReport) (t : Tracked) : Prop :=
  ∀ hat, hatOf e.key = some hat → e.value ≠ 0 → t.last hat ≠ -e.value

section Updates
variable {p : Platform} {event : GamepadEvent} {s : CGamepadState} {hat : Hat} {other : Button}

theorem Hat.negative_ne_positive (hat : Hat) : hat.negative ≠ hat.positive := by
  cases hat <;> decide

theorem press_same (mapped : Button) (down : Bool) :
    (s.press mapped down).buttonDown mapped = down := Function.update_self _ _ _

theorem press_other {mapped : Button} (down : Bool) (h : other ≠ mapped) :
    (s.press mapped down).buttonDown other = s.buttonDown other := Function.update_of_ne h _ _

theorem moveAnalog_buttons (a : Analog) (value : ℚ) :
    (s.moveAnalog p a value).1.buttonDown = s.buttonDown := by
  simp only [CGamepadState.moveAnalog]
  split <;> rfl

theorem pressAxis_other {negative positive : Button} (value : ℚ) (hn : other ≠ negative)
    (hp : other ≠ positive) :
    (s.pressAxis negative positive value).buttonDown other = s.buttonDown other := by
  simp only [CGamepadState.pressAxis]
  split_ifs <;> simp only [press_other, hn, hp, ne_eq, not_false_eq_true]

/-- A button of a hat after a report: pressed by its own end, released by the
centre only. -/
theorem pressAxis_negative {negative positive : Button} {value : ℚ} (hne : negative ≠ positive)
    (hv : value = -1 ∨ value = 0 ∨ value = 1) :
    (s.pressAxis negative positive value).buttonDown negative = true ↔
      value = -1 ∨ value = 1 ∧ s.buttonDown negative = true := by
  rcases hv with rfl | rfl | rfl
  · simp [CGamepadState.pressAxis, press_same]
  · simp [CGamepadState.pressAxis, press_other, press_same, hne]
  · norm_num [CGamepadState.pressAxis, press_other, hne]

theorem pressAxis_positive {negative positive : Button} {value : ℚ} (hne : negative ≠ positive)
    (hv : value = -1 ∨ value = 0 ∨ value = 1) :
    (s.pressAxis negative positive value).buttonDown positive = true ↔
      value = 1 ∨ value = -1 ∧ s.buttonDown positive = true := by
  rcases hv with rfl | rfl | rfl
  · norm_num [CGamepadState.pressAxis, press_other, hne.symm]
  · simp [CGamepadState.pressAxis, press_same]
  · norm_num [CGamepadState.pressAxis, press_same]

theorem hatOf_eq_some (h : hatOf event.key = some hat) :
    hat = .x ∧ buttonMapping.lookup event.key = some .dpadLeft ∨
      hat = .y ∧ buttonMapping.lookup event.key = some .dpadUp := by
  unfold hatOf at h
  split at h
  · rename_i hl
    exact Or.inl ⟨(Option.some.inj h).symm,hl⟩
  · rename_i hl
    exact Or.inr ⟨(Option.some.inj h).symm,hl⟩
  · cases h

theorem hatOf_eq_none (h : hatOf event.key = none) :
    buttonMapping.lookup event.key ≠ some .dpadLeft ∧
      buttonMapping.lookup event.key ≠ some .dpadUp := by
  constructor <;> intro hl <;> simp [hatOf, hl] at h

/-- No key is a button and an analog control. -/
theorem analog_not_button {mapped : Button} (h : buttonMapping.lookup event.key = some mapped) :
    analogMapping.lookup event.key = none := by
  have hkeys : ∀ entry ∈ buttonMapping, analogMapping.lookup entry.1 = none := by
    decide +kernel
  obtain ⟨before, after, hmem, -⟩ := List.lookup_eq_some_iff.mp h
  exact hkeys (event.key,mapped) (by rw [hmem]; simp)

theorem not_webTrigger (hp : p.hasAxes = true) (key : String) : webTrigger p key = false := by
  cases p <;> simp [Platform.hasAxes, webTrigger] at hp ⊢

/-- Analog or button, a report of a hat moves the two buttons of that hat. -/
theorem update_hat (hp : p.hasAxes = true) (h : hatOf event.key = some hat) :
    (s.update p event).1 = s.pressAxis hat.negative hat.positive event.value := by
  rcases hatOf_eq_some h with ⟨rfl, hl⟩ | ⟨rfl, hl⟩ <;> cases ht : event.type <;>
    simp [CGamepadState.update, ht, hl, analog_not_button hl, not_webTrigger hp,
      CGamepadState.pressAnalog, CGamepadState.pressButton, hp, Hat.negative, Hat.positive]

theorem pressAnalog_other {mapped : Button} (value : ℚ) (hl : mapped ≠ .dpadLeft)
    (hu : mapped ≠ .dpadUp) (hb : other ≠ mapped) :
    (s.pressAnalog p mapped value).buttonDown other = s.buttonDown other := by
  simp only [CGamepadState.pressAnalog, if_neg hl, if_neg hu, ite_self]
  exact press_other _ hb

theorem pressButton_other {mapped : Button} (value : ℚ) (hl : mapped ≠ .dpadLeft)
    (hu : mapped ≠ .dpadUp) (hb : other ≠ mapped) :
    (s.pressButton p mapped value).1.buttonDown other = s.buttonDown other := by
  simp only [CGamepadState.pressButton, if_neg hl, if_neg hu]
  split_ifs <;> first | rfl | exact press_other _ hb

/-- An event of no hat leaves the buttons that its key is not mapped to. -/
theorem update_other (hn : hatOf event.key = none)
    (hb : buttonMapping.lookup event.key ≠ some other) :
    (s.update p event).1.buttonDown other = s.buttonDown other := by
  obtain ⟨hleft, hup⟩ := hatOf_eq_none hn
  have hmapped : ∀ mapped, buttonMapping.lookup event.key = some mapped →
      mapped ≠ .dpadLeft ∧ mapped ≠ .dpadUp ∧ other ≠ mapped := by
    rintro mapped hm
    refine ⟨?_,?_,?_⟩ <;> rintro rfl
    · exact hleft hm
    · exact hup hm
    · exact hb hm
  simp only [CGamepadState.update]
  cases event.type with
  | analog =>
    dsimp only
    split
    · rw [moveAnalog_buttons]
    · split
      · rename_i mapped hm
        obtain ⟨hl, hu, hne⟩ := hmapped mapped hm
        exact pressAnalog_other _ hl hu hne
      · rfl
  | button =>
    dsimp only
    split
    · split
      · rw [moveAnalog_buttons]
      · rfl
    · split
      · rename_i mapped hm
        obtain ⟨hl, hu, hne⟩ := hmapped mapped hm
        exact pressButton_other _ hl hu hne
      · split
        · split
          · rw [moveAnalog_buttons]
          · rfl
        · rfl

end Updates

section Runs
variable {p : Platform} {e : HatReport} {t : Tracked}

theorem report_same {key : String} {hat : Hat} (value : ℚ) (h : hatOf key = some hat) :
    t.report key value hat = value := by
  simp [Tracked.report, h]

theorem report_other {key : String} {hat : Hat} (value : ℚ) (h : hatOf key ≠ some hat) :
    t.report key value hat = t.last hat := by
  cases hf : hatOf key with
  | none => simp [Tracked.report, hf]
  | some found =>
    have hne : hat ≠ found := by
      rintro rfl
      exact h hf
    simp [Tracked.report, hf, hne]

theorem hat_buttons_distinct {hat other : Hat} (h : hat ≠ other) :
    hat.negative ≠ other.negative ∧ hat.negative ≠ other.positive ∧
      hat.positive ≠ other.negative ∧ hat.positive ≠ other.positive := by
  cases hat <;> cases other <;> first | exact absurd rfl h | decide

theorem unmapped_hat (hn : hatOf e.key = none) (hat : Hat) :
    buttonMapping.lookup e.key ≠ some hat.negative ∧
      buttonMapping.lookup e.key ≠ some hat.positive := by
  obtain ⟨hleft, hup⟩ := hatOf_eq_none hn
  cases hat
  · exact ⟨hleft,e.noRight⟩
  · exact ⟨e.noDown,hup⟩

/-- A hat that an event does not report keeps its buttons and its last value. -/
theorem unreported_kept (hp : p.hasAxes = true) {hat : Hat} (h : hatOf e.key ≠ some hat) :
    (step p e t).state.buttonDown hat.negative = t.state.buttonDown hat.negative ∧
      (step p e t).state.buttonDown hat.positive = t.state.buttonDown hat.positive ∧
      (step p e t).last hat = t.last hat := by
  have hlast : (step p e t).last hat = t.last hat := report_other _ h
  cases hfound : hatOf e.key with
  | none =>
    obtain ⟨hnegative, hpositive⟩ := unmapped_hat hfound hat
    exact ⟨update_other hfound hnegative,update_other hfound hpositive,hlast⟩
  | some found =>
    have hne : hat ≠ found := by
      rintro rfl
      exact h hfound
    obtain ⟨hnn, hnp, hpn, hpp⟩ := hat_buttons_distinct hne
    simp only [step, update_hat hp hfound]
    exact ⟨pressAxis_other _ hnn hnp,pressAxis_other _ hpn hpp,hlast⟩

/-- The buttons of the reported hat are its new value exactly when the old value
was not at the other end. -/
theorem reported_reflects (hp : p.hasAxes = true) {hat : Hat} (h : hatOf e.key = some hat)
    (hr : Reflects t) :
    ((step p e t).state.buttonDown hat.negative = true ↔ (step p e t).last hat = -1) ∧
      ((step p e t).state.buttonDown hat.positive = true ↔ (step p e t).last hat = 1) ↔
    (e.value ≠ 0 → t.last hat ≠ -e.value) := by
  have hv : e.value = -1 ∨ e.value = 0 ∨ e.value = 1 := e.inRange (by rw [h]; exact nofun)
  have hlast : (step p e t).last hat = e.value := report_same _ h
  have hne := hat.negative_ne_positive
  rw [hlast]
  simp only [step, update_hat hp h, pressAxis_negative hne hv, pressAxis_positive hne hv,
    (hr hat).1, (hr hat).2]
  rcases hv with hv | hv | hv <;> norm_num [hv]

theorem reflects_step (hp : p.hasAxes = true) (hr : Reflects t) :
    Reflects (step p e t) ↔ Centred e t := by
  constructor
  · intro h hat hfound
    exact (reported_reflects hp hfound hr).mp (h hat)
  · intro h hat
    by_cases hfound : hatOf e.key = some hat
    · exact (reported_reflects hp hfound hr).mpr (h hat hfound)
    · obtain ⟨hnegative, hpositive, hlast⟩ := unreported_kept (t := t) hp hfound
      rw [hnegative, hpositive, hlast]
      exact hr hat

theorem Reflects.consistent (h : Reflects t) (hat : Hat) :
    ¬(t.state.buttonDown hat.negative = true ∧ t.state.buttonDown hat.positive = true) := by
  rw [(h hat).1, (h hat).2]
  rintro ⟨hn, hp⟩
  norm_num [hn] at hp

theorem faithful_iff (hp : p.hasAxes = true) (hr : Reflects t) :
    Faithful p e t ↔ Centred e t := by
  rw [← reflects_step hp hr]
  constructor
  · exact Faithful.reflects
  · intro h
    apply Faithful.mk h h.consistent
    intro hat button hfound hn hpos
    simp only [step, update_hat hp hfound]
    exact pressAxis_other _ hn hpos

theorem start_reflects : Reflects {} := by
  intro hat
  norm_num

end Runs

/-- After every event the direction pad is what the hats last reported, exactly
when no hat jumps from one end to the other. -/
theorem hats_faithful (p : Platform) (hp : p.hasAxes = true) (es : List HatReport) :
    Meets (step p) (Faithful p) es {} ↔ Meets (step p) Centred es {} := by
  have hstep : ∀ e t, Centred e t → Reflects t → Reflects (step p e t) :=
    fun _ _ hc hr => (reflects_step hp hr).mpr hc
  have hagree : ∀ e t, Reflects t → (Faithful p e t ↔ Centred e t) :=
    fun _ _ hr => faithful_iff hp hr
  exact meets_iff_of_invariant _ hagree hstep es {} start_reflects

theorem hat_x_not_split : buttonMapping.lookup "AXIS_HAT_X" ≠ some .dpadRight ∧
    buttonMapping.lookup "AXIS_HAT_X" ≠ some .dpadDown := by decide

def reportX (value : ℚ) (h : value = -1 ∨ value = 0 ∨ value = 1) : HatReport :=
  ⟨⟨.analog,"AXIS_HAT_X",value⟩,hat_x_not_split.1,hat_x_not_split.2,fun _ => h⟩

theorem hat_x : hatOf "AXIS_HAT_X" = some .x := by decide

section Reports
variable {value : ℚ} {h : value = -1 ∨ value = 0 ∨ value = 1} {p : Platform} {t : Tracked}

theorem centred_reportX : Centred (reportX value h) t ↔ (value ≠ 0 → t.last .x ≠ -value) := by
  constructor
  · exact fun hc => hc .x hat_x
  · intro hx hat hfound
    obtain rfl := Option.some.inj (hat_x.symm.trans hfound)
    exact hx

theorem last_reportX : (step p (reportX value h) t).last .x = value :=
  report_same (t := t) value hat_x

end Reports

theorem hats_faithful_android :
    Meets (step .android) (Faithful .android)
      [reportX (-1) (by decide), reportX 0 (by decide)] {} := by
  apply (hats_faithful .android (by decide) _).mpr
  refine ⟨centred_reportX.mpr fun _ => ?_,centred_reportX.mpr fun h => absurd rfl h,trivial⟩
  norm_num

/-- A hat that jumps from left to right leaves both buttons pressed. -/
theorem left_and_right_pressed : ¬Meets (step .android) (Faithful .android)
    [reportX (-1) (by decide), reportX 1 (by decide)] {} := by
  rintro ⟨hfirst, hsecond, -⟩
  have hcentred := (reflects_step rfl hfirst.reflects).mp hsecond.reflects
  exact centred_reportX.mp hcentred one_ne_zero last_reportX

end CloudPlay.HatPad
