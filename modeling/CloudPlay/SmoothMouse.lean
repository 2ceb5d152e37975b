import CloudPlay.RemoteMouse
import CloudPlay.TvRemote
import Mathlib.Algebra.Order.Group.Abs
import Mathlib.Tactic.NormNum
import Mathlib.Tactic.Ring

/-!
# The mouse of the direction keys

While a direction key of the remote is pressed, a timer moves the drawn mouse, and
each axis goes from rest to full speed by steps of a half. Speeds are multiples of a
half between the two extremes, which doubles have exactly.
-/

set_option autoImplicit false

namespace CloudPlay.SmoothMouse
open TransitionRun
open RemoteMouse (OnScreenRemoteMouseController command)
open TvRemote (Direction InputController KeyEvent keyboardPressedCallbackAndroid)

def maxSpeed : ℚ := 10

def acceleration : ℚ := 1/2

/-- `updateTimer` tells of the timer whether it is active. -/
structure SmoothMouseController where
  mouseController : OnScreenRemoteMouseController
  updateTimer : Option Bool := none
  currentSpeedX : ℚ := 0
  currentSpeedY : ℚ := 0
  isPressed : Direction → Bool := fun _ => false

def targetSpeed (forward backward : Bool) : ℚ :=
  let target := if forward then maxSpeed else 0
  if backward then target-maxSpeed else target

def approach (target speed : ℚ) : ℚ :=
  if target > speed then min (speed+acceleration) target
  else if target < speed then max (speed-acceleration) target
  else speed

namespace SmoothMouseController
variable (c : SmoothMouseController)

def startUpdateTimer : SmoothMouseController :=
  if c.updateTimer = some true then c else {c with updateTimer := some true}

def stopUpdateTimer : SmoothMouseController := {c with updateTimer := none}

def setPressed (d : Direction) (isDown : Bool) : SmoothMouseController :=
  {c with isPressed := Function.update c.isPressed d isDown}

def onDirectionKeyDown (keycode : ℕ) : SmoothMouseController :=
  startUpdateTimer <| match keycode with
    | 1019 => c.setPressed .up true
    | 1020 => c.setPressed .down true
    | 1021 => c.setPressed .left true
    | 1022 => c.setPressed .right true
    | _ => c

/-- The release of a key and the stop of its axis. -/
def letGo (keycode : ℕ) : SmoothMouseController :=
  match keycode with
  | 1019 => {c.setPressed .up false with currentSpeedY := 0}
  | 1020 => {c.setPressed .down false with currentSpeedY := 0}
  | 1021 => {c.setPressed .left false with currentSpeedX := 0}
  | 1022 => {c.setPressed .right false with currentSpeedX := 0}
  | _ => c

def nonePressed : Bool :=
  !c.isPressed .up && !c.isPressed .down && !c.isPressed .left && !c.isPressed .right

def onDirectionKeyUp (keycode : ℕ) : SmoothMouseController :=
  let c := c.letGo keycode
  if c.nonePressed then c.stopUpdateTimer else c

def updateMouseMovement : SmoothMouseController :=
  let x := approach (targetSpeed (c.isPressed .right) (c.isPressed .left)) c.currentSpeedX
  let y := approach (targetSpeed (c.isPressed .down) (c.isPressed .up)) c.currentSpeedY
  {c with
    currentSpeedX := x
    currentSpeedY := y
    mouseController :=
      if |x| > 1/10 ∨ |y| > 1/10 then command (.moveDelta x y) c.mouseController
      else c.mouseController}

def reset : SmoothMouseController :=
  {c with
    isPressed := fun _ => false
    currentSpeedX := 0
    currentSpeedY := 0}.stopUpdateTimer

end SmoothMouseController

inductive Event
  | keyDown (d : Direction)
  | keyUp (d : Direction)
  | tick
  | reset

/-- A timer that is not active does not tick. -/
def step : Event → SmoothMouseController → SmoothMouseController
  | .keyDown d, c => c.onDirectionKeyDown d.keycode
  | .keyUp d, c => c.onDirectionKeyUp d.keycode
  | .tick, c => if c.updateTimer = some true then c.updateMouseMovement else c
  | .reset, c => c.reset

/-- An axis with the keys of its two directions. -/
structure AxisSteady (speed : ℚ) (backward forward : Bool) : Prop where
  bounded : |speed| ≤ maxSpeed
  rest : backward = false → forward = false → speed = 0

structure Steady (c : SmoothMouseController) : Prop where
  x : AxisSteady c.currentSpeedX (c.isPressed .left) (c.isPressed .right)
  y : AxisSteady c.currentSpeedY (c.isPressed .up) (c.isPressed .down)
  timer : c.updateTimer = some true ↔ ∃ d, c.isPressed d = true

section Speeds
variable {target speed : ℚ} {backward forward : Bool}

theorem targetSpeed_bounded (forward backward : Bool) :
    |targetSpeed forward backward| ≤ maxSpeed := by
  cases forward <;> cases backward <;> norm_num [targetSpeed, maxSpeed]

/-- The next speed lies between the last one and the target. -/
theorem approach_bounded (ht : |target| ≤ maxSpeed) (hs : |speed| ≤ maxSpeed) :
    |approach target speed| ≤ maxSpeed := by
  have hpos : (0 : ℚ) < acceleration := by norm_num [acceleration]
  rw [abs_le] at ht hs ⊢
  unfold approach
  split
  · constructor
    · apply le_min _ ht.1
      linarith
    · exact (min_le_right _ _).trans ht.2
  · split
    · constructor
      · exact ht.1.trans (le_max_right _ _)
      · apply max_le _ ht.2
        linarith
    · exact hs

theorem approach_self : approach target target = target := by
  simp [approach]

theorem axis_zero (backward forward : Bool) : AxisSteady 0 backward forward := by
  constructor
  · norm_num [maxSpeed]
  · exact fun _ _ => rfl

theorem AxisSteady.press_backward (h : AxisSteady speed backward forward) :
    AxisSteady speed true forward :=
  ⟨h.bounded,fun hpressed => nomatch hpressed⟩

theorem AxisSteady.press_forward (h : AxisSteady speed backward forward) :
    AxisSteady speed backward true :=
  ⟨h.bounded,fun _ hpressed => nomatch hpressed⟩

theorem AxisSteady.approach (h : AxisSteady speed backward forward) :
    AxisSteady (approach (targetSpeed forward backward) speed) backward forward := by
  constructor
  · exact approach_bounded (targetSpeed_bounded forward backward) h.bounded
  · rintro rfl rfl
    rw [h.rest rfl rfl]
    exact approach_self

/-- A multiple of a half. -/
def Half (x : ℚ) : Prop := ∃ n : ℤ, x = n/2

theorem targetSpeed_half (forward backward : Bool) : Half (targetSpeed forward backward) := by
  cases forward <;> cases backward
  · exact ⟨0,by norm_num [targetSpeed]⟩
  · exact ⟨-20,by norm_num [targetSpeed, maxSpeed]⟩
  · exact ⟨20,by norm_num [targetSpeed, maxSpeed]⟩
  · exact ⟨0,by norm_num [targetSpeed]⟩

theorem approach_half (ht : Half target) (hs : Half speed) : Half (approach target speed) := by
  obtain ⟨n, rfl⟩ := hs
  have hup : Half ((n : ℚ)/2+acceleration) := ⟨n+1,by push_cast [acceleration]; ring⟩
  have hdown : Half ((n : ℚ)/2-acceleration) := ⟨n-1,by push_cast [acceleration]; ring⟩
  unfold approach
  split
  · rcases min_choice ((n : ℚ)/2+acceleration) target with h | h <;> rw [h] <;> assumption
  · split
    · rcases max_choice ((n : ℚ)/2-acceleration) target with h | h <;> rw [h] <;> assumption
    · exact ⟨n,rfl⟩

end Speeds

section Steps
variable {c : SmoothMouseController} {d : Direction}

/-- Starting the timer changes nothing else. -/
theorem started_eq : c.startUpdateTimer = {c with updateTimer := some true} := by
  unfold SmoothMouseController.startUpdateTimer
  split
  · rename_i hactive
    rw [← hactive]
  · rfl

theorem keyDown_eq (c : SmoothMouseController) (d : Direction) :
    step (.keyDown d) c = {c.setPressed d true with updateTimer := some true} := by
  cases d <;> exact started_eq

theorem letGo_isPressed (c : SmoothMouseController) (d : Direction) :
    (c.letGo d.keycode).isPressed = Function.update c.isPressed d false := by
  cases d <;> rfl

theorem letGo_updateTimer (c : SmoothMouseController) (d : Direction) :
    (c.letGo d.keycode).updateTimer = c.updateTimer := by
  cases d <;> rfl

theorem nonePressed_iff : c.nonePressed = true ↔ ∀ d, c.isPressed d = false := by
  simp only [SmoothMouseController.nonePressed, Bool.and_eq_true, Bool.not_eq_true']
  constructor
  · rintro ⟨⟨⟨hup, hdown⟩, hleft⟩, hright⟩ d
    cases d <;> assumption
  · exact fun h => ⟨⟨⟨h .up,h .down⟩,h .left⟩,h .right⟩

theorem keyDown_steady (d : Direction) (h : Steady c) : Steady (step (.keyDown d) c) := by
  rw [keyDown_eq]
  constructor
  · cases d with
    | left => exact h.x.press_backward
    | right => exact h.x.press_forward
    | up => exact h.x
    | down => exact h.x
  · cases d with
    | up => exact h.y.press_backward
    | down => exact h.y.press_forward
    | left => exact h.y
    | right => exact h.y
  · exact iff_of_true rfl ⟨d,Function.update_self ..⟩

theorem letGo_x (d : Direction) (h : Steady c) : AxisSteady (c.letGo d.keycode).currentSpeedX
    ((c.letGo d.keycode).isPressed .left) ((c.letGo d.keycode).isPressed .right) := by
  cases d with
  | left => exact axis_zero _ _
  | right => exact axis_zero _ _
  | up => exact h.x
  | down => exact h.x

theorem letGo_y (d : Direction) (h : Steady c) : AxisSteady (c.letGo d.keycode).currentSpeedY
    ((c.letGo d.keycode).isPressed .up) ((c.letGo d.keycode).isPressed .down) := by
  cases d with
  | up => exact axis_zero _ _
  | down => exact axis_zero _ _
  | left => exact h.y
  | right => exact h.y

/-- A key that is still pressed after a release was pressed before it. -/
theorem pressed_before {d' : Direction} (h : (c.letGo d.keycode).isPressed d' = true) :
    c.isPressed d' = true := by
  rw [letGo_isPressed] at h
  by_cases hd : d' = d
  · subst hd
    rw [Function.update_self] at h
    cases h
  · rwa [Function.update_of_ne hd] at h

theorem keyUp_steady (d : Direction) (h : Steady c) : Steady (step (.keyUp d) c) := by
  show Steady (if (c.letGo d.keycode).nonePressed then _ else _)
  by_cases hnone : (c.letGo d.keycode).nonePressed = true
  · rw [if_pos hnone]
    constructor
    · exact letGo_x d h
    · exact letGo_y d h
    · apply iff_of_false
      · exact fun hactive => nomatch hactive
      · rintro ⟨d', hpressed⟩
        have hreleased : (c.letGo d.keycode).isPressed d' = false := nonePressed_iff.mp hnone d'
        exact Bool.false_ne_true (hreleased.symm.trans hpressed)
  · rw [if_neg hnone]
    constructor
    · exact letGo_x d h
    · exact letGo_y d h
    · rw [nonePressed_iff, not_forall] at hnone
      obtain ⟨d', hreleased⟩ := hnone
      have hpressed : (c.letGo d.keycode).isPressed d' = true :=
        Bool.eq_true_of_not_eq_false hreleased
      rw [letGo_updateTimer]
      exact iff_of_true (h.timer.mpr ⟨d',pressed_before hpressed⟩) ⟨d',hpressed⟩

theorem start_steady (mouse : OnScreenRemoteMouseController) :
    Steady {mouseController := mouse} := by
  constructor
  · exact axis_zero _ _
  · exact axis_zero _ _
  · apply iff_of_false
    · exact fun hactive => nomatch hactive
    · rintro ⟨d, hpressed⟩
      cases hpressed

theorem step_steady (e : Event) (c : SmoothMouseController) (h : Steady c) :
    Steady (step e c) := by
  cases e with
  | keyDown d => exact keyDown_steady d h
  | keyUp d => exact keyUp_steady d h
  | tick =>
    simp only [step]
    split
    · exact ⟨h.x.approach,h.y.approach,h.timer⟩
    · exact h
  | reset => exact start_steady c.mouseController

end Steps

/-- A key is held: the last of its events since the last reset is a press. -/
def Held (d : Direction) (events : List Event) : Prop :=
  ∃ before after, events = before ++ .keyDown d :: after ∧
    Event.keyUp d ∉ after ∧ Event.reset ∉ after

/-- The mouse after the events, by the keys that they leave held. -/
structure Follows (events : List Event) (c : SmoothMouseController) : Prop where
  boundedX : |c.currentSpeedX| ≤ maxSpeed
  boundedY : |c.currentSpeedY| ≤ maxSpeed
  restX : ¬Held .left events → ¬Held .right events → c.currentSpeedX = 0
  restY : ¬Held .up events → ¬Held .down events → c.currentSpeedY = 0
  timer : c.updateTimer = some true ↔ ∃ d, Held d events
  pressed : ∀ d, c.isPressed d = true ↔ Held d events

section Holding
variable {d : Direction} {events : List Event} {e : Event}

theorem held_nil (d : Direction) : ¬Held d [] := by
  rintro ⟨before, after, h, -⟩
  cases before <;> cases h

theorem held_press (d : Direction) (events : List Event) : Held d (events ++ [.keyDown d]) :=
  ⟨events,[],rfl,List.not_mem_nil,List.not_mem_nil⟩

/-- An event that is no press of the key leaves it held when it neither lifts the key
nor resets. -/
theorem held_snoc (h : e ≠ .keyDown d) :
    Held d (events ++ [e]) ↔ e ≠ .keyUp d ∧ e ≠ .reset ∧ Held d events := by
  constructor
  · rintro ⟨before, after, hevents, hup, hreset⟩
    induction after using List.reverseRecOn with
    | nil => exact absurd (List.append_inj_right' hevents rfl) (by simpa using h)
    | append_singleton after e' _ =>
      rw [← List.cons_append, ← List.append_assoc] at hevents
      obtain ⟨rfl, he⟩ := List.append_inj' hevents rfl
      cases he
      simp only [List.mem_append, List.mem_singleton, not_or] at hup hreset
      exact ⟨Ne.symm hup.2,Ne.symm hreset.2,before,after,rfl,hup.1,hreset.1⟩
  · rintro ⟨hup, hreset, before, after, rfl, hlast, hrest⟩
    refine ⟨before,after ++ [e],by simp,?_,?_⟩
    · simp only [List.mem_append, List.mem_singleton, not_or]
      exact ⟨hlast,Ne.symm hup⟩
    · simp only [List.mem_append, List.mem_singleton, not_or]
      exact ⟨hrest,Ne.symm hreset⟩

theorem keyUp_isPressed (c : SmoothMouseController) (d : Direction) :
    (step (.keyUp d) c).isPressed = Function.update c.isPressed d false := by
  simp only [step, SmoothMouseController.onDirectionKeyUp]
  split <;> exact letGo_isPressed c d

theorem tick_isPressed (c : SmoothMouseController) : (step .tick c).isPressed = c.isPressed := by
  simp only [step]
  split <;> rfl

/-- The flags are those of the keys held. -/
theorem isPressed_iff_held (mouse : OnScreenRemoteMouseController) (d : Direction)
    (events : List Event) :
    (run step events {mouseController := mouse}).isPressed d = true ↔ Held d events := by
  induction events using List.reverseRecOn with
  | nil => exact iff_of_false Bool.false_ne_true (held_nil d)
  | append_singleton events e ih =>
    rw [run_append, run, run]
    cases e with
    | keyDown d' =>
      rw [keyDown_eq]
      by_cases hd : d = d'
      · subst hd
        exact iff_of_true (Function.update_self ..) (held_press d events)
      · rw [held_snoc (by simpa using Ne.symm hd), ← ih]
        simp [SmoothMouseController.setPressed, Function.update_of_ne hd]
    | keyUp d' =>
      rw [keyUp_isPressed, held_snoc (by simp), ← ih]
      by_cases hd : d = d'
      · subst hd
        simp
      · simp [Function.update_of_ne hd, Ne.symm hd]
    | tick =>
      rw [tick_isPressed, held_snoc (by simp), ← ih]
      simp
    | reset =>
      rw [held_snoc (by simp)]
      simp [step, SmoothMouseController.reset, SmoothMouseController.stopUpdateTimer]

end Holding

/-- After any events, each axis is within the full speed and at rest when none of its
keys is held, and the timer is active exactly while a key is. -/
theorem smooth_mouse (mouse : OnScreenRemoteMouseController) (events : List Event) :
    Follows events (run step events {mouseController := mouse}) := by
  have hsteady : Steady (run step events {mouseController := mouse}) :=
    reachable_invariant step step_steady (start_steady mouse) ⟨events,rfl⟩
  have hheld (d : Direction) := isPressed_iff_held mouse d events
  have hfree (d : Direction) (h : ¬Held d events) :
      (run step events {mouseController := mouse}).isPressed d = false := by
    rwa [← hheld d, Bool.not_eq_true] at h
  constructor
  · exact hsteady.x.bounded
  · exact hsteady.y.bounded
  · exact fun hleft hright => hsteady.x.rest (hfree .left hleft) (hfree .right hright)
  · exact fun hup hdown => hsteady.y.rest (hfree .up hup) (hfree .down hdown)
  · rw [hsteady.timer]
    exact exists_congr hheld
  · exact hheld

/-- What doubles compute here is exact. -/
theorem speeds_half (mouse : OnScreenRemoteMouseController) (events : List Event) :
    Half (run step events {mouseController := mouse}).currentSpeedX ∧
      Half (run step events {mouseController := mouse}).currentSpeedY := by
  have hzero : Half 0 := ⟨0,by norm_num⟩
  have hstep (e : Event) (c : SmoothMouseController)
      (h : Half c.currentSpeedX ∧ Half c.currentSpeedY) :
      Half (step e c).currentSpeedX ∧ Half (step e c).currentSpeedY := by
    cases e with
    | keyDown d =>
      rw [keyDown_eq]
      exact h
    | keyUp d =>
      simp only [step, SmoothMouseController.onDirectionKeyUp]
      have hlet : Half (c.letGo d.keycode).currentSpeedX ∧
          Half (c.letGo d.keycode).currentSpeedY := by
        cases d with
        | left => exact ⟨hzero,h.2⟩
        | right => exact ⟨hzero,h.2⟩
        | up => exact ⟨h.1,hzero⟩
        | down => exact ⟨h.1,hzero⟩
      split <;> exact hlet
    | tick =>
      simp only [step]
      split
      · exact ⟨approach_half (targetSpeed_half _ _) h.1,approach_half (targetSpeed_half _ _) h.2⟩
      · exact h
    | reset => exact ⟨hzero,hzero⟩
  exact reachable_invariant step hstep ⟨hzero,hzero⟩ ⟨events,rfl⟩

section Remote

def directionOf : ℕ → Option Direction
  | 1019 => some .up
  | 1020 => some .down
  | 1021 => some .left
  | 1022 => some .right
  | _ => none

/-- What a key of the remote asks of the mouse. -/
def directionEvents (e : KeyEvent) (s : InputController) : List Event :=
  if s.controllerMode = .mouse then
    (directionOf e.keycode).toList.map (if e.isDown then .keyDown else .keyUp)
  else []

/-- The remote and the mouse it moves. -/
structure Pointer where
  remote : TvRemote.Watched
  mouse : SmoothMouseController

inductive Input
  | key (e : KeyEvent)
  | tick

def move : Input → Pointer → Pointer
  | .key e, p => ⟨TvRemote.step e p.remote,
      run step (directionEvents e p.remote.controller) p.mouse⟩
  | .tick, p => ⟨p.remote,step .tick p.mouse⟩

def Orderly : Input → Pointer → Prop
  | .key e, p => TvRemote.Guard e p.remote
  | .tick, _ => True

structure Joint (p : Pointer) : Prop where
  steady : Steady p.mouse
  pressed : p.mouse.isPressed = p.remote.controller.isPressed
  accounted : TvRemote.Accounted p.remote

variable {e : KeyEvent} {s : InputController} {c : SmoothMouseController}

theorem direction_isPressed {d : Direction} (hk : directionOf e.keycode = some d) :
    (run step (directionEvents e s) c).isPressed =
      if s.controllerMode = .mouse then Function.update c.isPressed d e.isDown
      else c.isPressed := by
  unfold directionEvents
  split
  · rw [hk]
    cases hdown : e.isDown with
    | true =>
      show (step (.keyDown d) c).isPressed = _
      rw [keyDown_eq]
      rfl
    | false => exact keyUp_isPressed c d
  · rfl

theorem other_isPressed (hk : directionOf e.keycode = none) :
    (run step (directionEvents e s) c).isPressed = c.isPressed := by
  unfold directionEvents
  rw [hk]
  split <;> rfl

theorem directionKey_isPressed (d : Direction) (isDown : Bool) :
    (s.directionKey d isDown).isPressed =
      if s.controllerMode = .mouse then Function.update s.isPressed d isDown
      else s.isPressed := by
  unfold InputController.directionKey
  split <;> rfl

theorem menuKey_isPressed (isDown : Bool) : (s.menuKey isDown).isPressed = s.isPressed := by
  unfold InputController.menuKey
  split
  · rfl
  · split <;> rfl

theorem clickOk_isPressed (isDown : Bool) : (s.clickOk isDown).isPressed = s.isPressed := by
  unfold InputController.clickOk
  split <;> rfl

theorem okKey_isPressed (now : ℤ) (isDown : Bool) :
    (s.okKey now isDown).isPressed = s.isPressed := by
  rcases TvRemote.okKey_cases now isDown s with ⟨hok, -⟩ | ⟨hok, -⟩ | ⟨-, hpressed, -⟩
  · rw [hok, clickOk_isPressed]
  · rw [hok, clickOk_isPressed]
    rfl
  · exact hpressed

theorem mappedKey_isPressed (keycode : ℕ) (isDown : Bool) :
    (s.mappedKey keycode isDown).isPressed = s.isPressed := by
  unfold InputController.mappedKey
  split <;> rfl

/-- The keys that the remote takes to be pressed are those of the mouse. -/
theorem callback_isPressed (h : c.isPressed = s.isPressed) :
    (run step (directionEvents e s) c).isPressed =
      (keyboardPressedCallbackAndroid e s).isPressed := by
  have hdirection (d : Direction) (hk : directionOf e.keycode = some d) :
      (run step (directionEvents e s) c).isPressed = (s.directionKey d e.isDown).isPressed := by
    rw [direction_isPressed hk, directionKey_isPressed, h]
  unfold keyboardPressedCallbackAndroid
  split
  · rename_i hk
    rw [other_isPressed (by rw [hk]; rfl), h]
  · rename_i hk
    rw [other_isPressed (by rw [hk]; rfl), menuKey_isPressed, h]
  · rename_i hk
    rw [other_isPressed (by rw [hk]; rfl), h]
    rfl
  · rename_i hk
    rw [other_isPressed (by rw [hk]; rfl), h]
    rfl
  · rename_i hk
    exact hdirection .up (by rw [hk]; rfl)
  · rename_i hk
    exact hdirection .down (by rw [hk]; rfl)
  · rename_i hk
    exact hdirection .left (by rw [hk]; rfl)
  · rename_i hk
    exact hdirection .right (by rw [hk]; rfl)
  · rename_i hk
    rw [other_isPressed (by rw [hk]; rfl), okKey_isPressed, h]
  · have hk : directionOf e.keycode = none := by
      unfold directionOf
      split <;> first | contradiction | rfl
    rw [other_isPressed hk, mappedKey_isPressed, h]

theorem joint_step (i : Input) (p : Pointer) (hg : Orderly i p) (h : Joint p) :
    Joint (move i p) := by
  cases i with
  | key e =>
    constructor
    · exact reachable_invariant step step_steady h.steady ⟨_,rfl⟩
    · exact callback_isPressed h.pressed
    · exact TvRemote.accounted_step e p.remote hg h.accounted
  | tick =>
    constructor
    · exact step_steady .tick p.mouse h.steady
    · exact (tick_isPressed p.mouse).trans h.pressed
    · exact h.accounted

/-- Once all keys of the remote are up, the pointer stands still. -/
theorem Joint.rests {p : Pointer} (h : Joint p) (hup : p.remote.down = []) :
    move .tick p = p ∧ p.mouse.currentSpeedX = 0 ∧ p.mouse.currentSpeedY = 0 := by
  have hnone (d : Direction) : p.mouse.isPressed d = false := by
    rw [← Bool.not_eq_true, h.pressed]
    intro hpressed
    have hdown := (h.accounted.directions d hpressed).2
    rw [hup] at hdown
    cases hdown
  have hstopped : p.mouse.updateTimer ≠ some true := by
    rw [Ne, h.steady.timer]
    rintro ⟨d, hpressed⟩
    rw [hnone d] at hpressed
    cases hpressed
  refine ⟨?_,h.steady.x.rest (hnone .left) (hnone .right),
    h.steady.y.rest (hnone .up) (hnone .down)⟩
  rw [move, step, if_neg hstopped]

theorem pointer_joint (mode : TvRemote.TVControllerMode) (mouse : OnScreenRemoteMouseController)
    (inputs : List Input)
    (h : Meets move Orderly inputs ⟨TvRemote.start mode,{mouseController := mouse}⟩) :
    Joint (run move inputs ⟨TvRemote.start mode,{mouseController := mouse}⟩) := by
  apply run_invariant move joint_step inputs _ h
  constructor
  · exact start_steady mouse
  · rfl
  · exact TvRemote.start_accounted mode

end Remote

end CloudPlay.SmoothMouse
