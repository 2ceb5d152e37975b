import CloudPlay.OnScreenControls
import CloudPlay.TransitionRun

/-!
# The pad the host sees

The host has always been told the state of the on-screen pad. A stick at rest is at rest
there, and a stick held is where it is drawn, up to what is too little to be sent.
-/

set_option autoImplicit false

namespace CloudPlay.ShownSticks
open GamepadState OnScreenControls TransitionRun
open TouchInput (Offset)
open VirtualControls (JoystickType)

def padText : Request → Option String
  | .gamePad _ event => some event
  | _ => none

/-- The pad as the host was told of it last. -/
def Renderer.told (r : Renderer) : String :=
  (r.sent.filterMap padText).getLastD (CGamepadState.getStateString {})

def Reported (r : Renderer) : Prop := Renderer.told r = r.gamepadState.getStateString

section Told
variable {r : Renderer}

theorem told_start : Reported {} := rfl

theorem told_gamePad : Reported r.requestGamePadEvent := by
  simp [Reported, Renderer.told, Renderer.requestGamePadEvent, Renderer.request, padText]

theorem told_other {q : Request} (hq : padText q = none) (h : Reported r) :
    Reported (r.request q) := by
  simpa [Reported, Renderer.told, Renderer.request, hq] using h

theorem button_reported (keyCode : ℤ) (isDown : Bool) (h : Reported r) :
    Reported (r.handleButton keyCode isDown) := by
  rw [Renderer.handleButton]
  split
  · exact told_gamePad
  · exact h

theorem axes_reported (t : JoystickType) (x y : ℚ) : Reported (sendAxes t x y r) := by
  cases t <;> exact told_gamePad

/-- The events of the buttons leave the host with the state of the pad. -/
theorem key_reported (sensitivity : ℚ) (k : VirtualControls.ButtonKeys) (isDown : Bool)
    (h : Reported r) : Reported (r.handleControlEvent sensitivity (keyEvent k isDown)) := by
  rw [keyEvent]
  split_ifs
  · exact told_other rfl h
  · exact button_reported _ _ h
  · exact told_other rfl h

end Told

section Reports
variable {ι κ : Type} {layout : Layout ι κ}

theorem onEvent_reported {s : Overlay ι κ} (k : VirtualControls.ButtonKeys) (isDown : Bool)
    (h : Reported s.renderer) :
    Reported (s.onEvent layout (some (keyEvent k isDown))).renderer :=
  key_reported _ k isDown h

theorem updatePosition_reported {stick : Stick} {j : Joystick} {r : Renderer} {offset : Offset}
    (h : Reported r) : Reported (updatePosition stick offset j r).2 := by
  rw [updatePosition]
  split
  · exact h
  · exact axes_reported _ _ _

theorem reset_reported {stick : Stick} {j : Joystick} {r : Renderer} (h : Reported r) :
    Reported (reset stick j r).2 := by
  rw [reset]
  split
  · exact axes_reported _ _ _
  · exact h

/-- Whatever changes the pad also tells the host of it. -/
theorem reported_step [DecidableEq ι] [DecidableEq κ] (e : Event ι κ) (s : Overlay ι κ)
    (h : Reported s.renderer) : Reported (step layout e s).renderer := by
  cases e with
  | down k position => exact onEvent_reported _ _ h
  | move k position =>
    rw [step, Overlay.move]
    split
    · exact h
    · simp only [ButtonWidget.handleMove]
      split
      · exact h
      · split_ifs
        · exact told_other rfl h
        · exact h
        · exact h
  | up k =>
    rw [step, Overlay.up]
    split
    · exact h
    · rw [ButtonWidget.handleUp]
      split
      · exact h
      · exact onEvent_reported _ _ h
  | panStart i localPosition =>
    rw [step, Overlay.panStart]
    split
    · exact h
    · exact updatePosition_reported h
  | panUpdate i localPosition =>
    rw [step, Overlay.panUpdate]
    split
    · exact updatePosition_reported h
    · exact h
  | panEnd i =>
    rw [step, Overlay.panEnd]
    split
    · apply reset_reported
      split
      · exact button_reported _ _ h
      · exact h
    · exact h
  | clickButtonDelay n =>
    rw [step, Overlay.clickButtonDelay]
    split
    · exact h
    · exact button_reported _ _ h

end Reports

def xAxis : JoystickType → Analog
  | .left => .sThumbLX
  | .right => .sThumbRX

def yAxis : JoystickType → Analog
  | .left => .sThumbLY
  | .right => .sThumbRY

/-- The axes of a stick on a pad. -/
def axes (t : JoystickType) (r : Renderer) : ℤ × ℤ :=
  (r.gamepadState.analogs (xAxis t),r.gamepadState.analogs (yAxis t))

section Axes
variable (r : Renderer) (t t' : JoystickType)

theorem sendAxes_axes (x y : ℚ) : axes t' (sendAxes t x y r) =
    if t' = t then (scaled x 32767,scaled y 32767) else axes t' r := by
  cases t <;> cases t' <;> rfl

theorem button_axes (keyCode : ℤ) (isDown : Bool) :
    axes t (r.handleButton keyCode isDown) = axes t r := by
  rw [Renderer.handleButton, padControl]
  split_ifs
  · cases t <;> rfl
  · cases t <;> rfl
  · cases gampadToCGamepad.lookup keyCode <;> rfl

theorem key_axes (sensitivity : ℚ) (k : VirtualControls.ButtonKeys) (isDown : Bool) :
    axes t (r.handleControlEvent sensitivity (keyEvent k isDown)) = axes t r := by
  rw [keyEvent]
  split_ifs
  · rfl
  · exact button_axes r t _ _
  · rfl

end Axes

/-- The axes of a stick that was last sent an offset, or none since it was let go. -/
def sentAxes (stick : Stick) : Option Offset → ℤ × ℤ
  | none => (0,0)
  | some last =>
      (scaled (last.dx/stick.radius) 32767,scaled (-last.dy/stick.radius) 32767)

/-- A stick that is held is at the host where it was sent last, which is near to where it is
drawn; one that is not is drawn at rest and is at rest there. -/
structure Shown (stick : Stick) (j : Joystick) (r : Renderer) : Prop where
  axes_sent : axes stick.joystickType r = sentAxes stick j.lastSentOffset
  held : j.dragging = true → isNear j.lastSentOffset j.offset = true
  rest : j.dragging = false → j.offset = ⟨0,0⟩ ∧ j.lastSentOffset = none

section Sticks
variable {stick : Stick} {j : Joystick} {r : Renderer} {offset : Offset}

theorem isNear_self (offset : Offset) : isNear (some offset) offset = true := by
  simp [isNear]

theorem updatePosition_dragging :
    (updatePosition stick offset j r).1.dragging = j.dragging := by
  rw [updatePosition]
  split <;> rfl

theorem updatePosition_active : (updatePosition stick offset j r).1.isActive = true := by
  rw [updatePosition]
  split <;> rfl

theorem updatePosition_other {t : JoystickType} (ht : t ≠ stick.joystickType) :
    axes t (updatePosition stick offset j r).2 = axes t r := by
  rw [updatePosition]
  split
  · rfl
  · rw [sendAxes_axes, if_neg ht]

theorem updatePosition_shown (hj : j.dragging = true)
    (h : axes stick.joystickType r = sentAxes stick j.lastSentOffset) :
    Shown stick (updatePosition stick offset j r).1 (updatePosition stick offset j r).2 := by
  have hdrag : (updatePosition stick offset j r).1.dragging = true :=
    updatePosition_dragging.trans hj
  rw [updatePosition] at hdrag ⊢
  split at hdrag
  · rename_i hnear
    simp only [if_pos hnear]
    exact ⟨h,fun _ => hnear,fun hf => absurd (hdrag.symm.trans hf) (by simp)⟩
  · rename_i hfar
    simp only [if_neg hfar]
    refine ⟨?_,fun _ => isNear_self offset,fun hf => absurd (hdrag.symm.trans hf) (by simp)⟩
    rw [sendAxes_axes, if_pos rfl]
    rfl

theorem reset_shown (hj : j.isActive = true) :
    Shown stick (reset stick {j with dragging := false} r).1
      (reset stick {j with dragging := false} r).2 := by
  simp only [reset, hj, if_true]
  refine ⟨?_,(fun hf => nomatch hf),fun _ => ⟨rfl,rfl⟩⟩
  rw [sendAxes_axes, if_pos rfl]
  rfl

theorem reset_other {t : JoystickType} (ht : t ≠ stick.joystickType) :
    axes t (reset stick j r).2 = axes t r := by
  rw [reset]
  split
  · rw [sendAxes_axes, if_neg ht]
  · rfl

end Sticks

section System
variable {ι κ : Type} {layout : Layout ι κ} {s s' : Overlay ι κ}

/-- No two sticks have the same type. -/
def OneEach (layout : Layout ι κ) : Prop :=
  ∀ i i', (layout.sticks i').joystickType = (layout.sticks i).joystickType → i' = i

structure AllShown (layout : Layout ι κ) (s : Overlay ι κ) : Prop where
  reported : Reported s.renderer
  active : ∀ i, (s.stick i).isActive = (s.stick i).dragging
  shown : ∀ i, Shown (layout.sticks i) (s.stick i) s.renderer

/-- A step that leaves the sticks and their axes alone. -/
theorem AllShown.aside (h : AllShown layout s) (hstick : s'.stick = s.stick)
    (hr : Reported s'.renderer) (ha : ∀ t, axes t s'.renderer = axes t s.renderer) :
    AllShown layout s' := by
  refine ⟨hr,fun i => ?_,fun i => ?_⟩
  · rw [hstick]
    exact h.active i
  · have hi := h.shown i
    rw [hstick]
    exact ⟨(ha _).trans hi.axes_sent,hi.held,hi.rest⟩

/-! A button moves no axis, and a stick only its own. -/

theorem button_shown (h : AllShown layout s) (hstick : s'.stick = s.stick)
    (hr : s'.renderer = s.renderer) {k : VirtualControls.ButtonKeys} {isDown : Bool} :
    AllShown layout (s'.onEvent layout (some (keyEvent k isDown))) := by
  refine h.aside hstick ?_ fun t => ?_
  · exact key_reported _ k isDown (hr ▸ h.reported)
  · rw [← hr]
    exact key_axes _ t _ k isDown

theorem performClick_shown (h : AllShown layout s) (i : ι) :
    AllShown layout (s.performClick layout i) :=
  h.aside rfl (button_reported _ _ h.reported) fun t => button_axes _ t _ _

theorem clickButtonDelay_shown (h : AllShown layout s) (n : ℕ) :
    AllShown layout (s.clickButtonDelay layout n) := by
  rw [Overlay.clickButtonDelay]
  split
  · exact h
  · exact h.aside rfl (button_reported _ _ h.reported) fun t => button_axes _ t _ _

theorem shown_start : AllShown layout {} := by
  refine ⟨told_start,fun _ => rfl,fun i => ⟨?_,(fun h => nomatch h),fun _ => ⟨rfl,rfl⟩⟩⟩
  cases (layout.sticks i).joystickType <;> rfl

section Buttons
variable [DecidableEq κ]

theorem down_shown (h : AllShown layout s) (k : κ) (position : Offset) :
    AllShown layout (s.down layout k position) := button_shown h (by rfl) (by rfl)

theorem up_shown (h : AllShown layout s) (k : κ) : AllShown layout (s.up layout k) := by
  rw [Overlay.up]
  split
  · exact h
  · cases ht : (layout.buttons k).isToggleMode
    · simp only [ButtonWidget.handleUp, ht, Bool.false_eq_true, if_false]
      exact button_shown h (by rfl) (by rfl)
    · simp only [ButtonWidget.handleUp, ht, if_true]
      exact h.aside rfl h.reported fun _ => rfl

theorem move_shown (h : AllShown layout s) (k : κ) (position : Offset) :
    AllShown layout (s.move layout k position) := by
  rw [Overlay.move]
  split
  · exact h
  · simp only [ButtonWidget.handleMove]
    split
    · exact h.aside rfl h.reported fun _ => rfl
    · split_ifs
      · exact h.aside rfl (told_other rfl h.reported) fun _ => rfl
      · exact h.aside rfl h.reported fun _ => rfl
      · exact h.aside rfl h.reported fun _ => rfl

end Buttons

section Pans
variable [DecidableEq ι]

/-- A step of one stick, when no other stick has its type. -/
theorem AllShown.stick (h : AllShown layout s) {i : ι} {j : Joystick × Renderer}
    (hone : ∀ i', (layout.sticks i').joystickType = (layout.sticks i).joystickType → i' = i)
    (hr : Reported j.2) (hactive : j.1.isActive = j.1.dragging)
    (hj : Shown (layout.sticks i) j.1 j.2)
    (ho : ∀ t, t ≠ (layout.sticks i).joystickType → axes t j.2 = axes t s.renderer) :
    AllShown layout (s.setStick i j) := by
  refine ⟨hr,fun i' => ?_,fun i' => ?_⟩
  · by_cases hi : i' = i
    · subst hi
      simpa [Overlay.setStick] using hactive
    · simpa [Overlay.setStick, Function.update_of_ne hi] using h.active i'
  · by_cases hi : i' = i
    · subst hi
      simpa [Overlay.setStick] using hj
    · have hshown := h.shown i'
      have ht := ho _ (fun ht => hi (hone i' ht))
      simp only [Overlay.setStick, Function.update_of_ne hi]
      exact ⟨ht.trans hshown.axes_sent,hshown.held,hshown.rest⟩

theorem panStart_shown (hone : OneEach layout) (h : AllShown layout s) (i : ι)
    (localPosition : Offset) : AllShown layout (s.panStart layout i localPosition) := by
  rw [Overlay.panStart]
  split
  · exact h
  · apply h.stick (hone i) (updatePosition_reported h.reported)
    · rw [updatePosition_active, updatePosition_dragging]
    · exact updatePosition_shown rfl (h.shown i).axes_sent
    · exact fun t ht => updatePosition_other ht

theorem panUpdate_shown (hone : OneEach layout) (h : AllShown layout s) (i : ι)
    (localPosition : Offset) : AllShown layout (s.panUpdate layout i localPosition) := by
  rw [Overlay.panUpdate]
  split
  · rename_i hdrag
    apply h.stick (hone i) (updatePosition_reported h.reported)
    · rw [updatePosition_active, updatePosition_dragging]
      split <;> exact hdrag.symm
    · apply updatePosition_shown
      · split <;> exact hdrag
      · split <;> exact (h.shown i).axes_sent
    · exact fun t ht => updatePosition_other ht
  · exact h

theorem panEnd_shown (hone : OneEach layout) (h : AllShown layout s) (i : ι) :
    AllShown layout (s.panEnd layout i) := by
  rw [Overlay.panEnd]
  split
  · rename_i hdrag
    have hclick : AllShown layout
        (if (s.stick i).isClick then s.performClick layout i else s) := by
      split
      · exact performClick_shown h i
      · exact h
    have hactive : ((if (s.stick i).isClick then s.performClick layout i else s).stick i).isActive =
        true := by
      rw [hclick.active]
      split <;> exact hdrag
    apply hclick.stick (hone i) (reset_reported hclick.reported)
    · rw [reset, if_pos hactive]
    · exact reset_shown hactive
    · exact fun t ht => reset_other ht
  · exact h

end Pans

variable [DecidableEq ι] [DecidableEq κ]

theorem shown_step (hone : OneEach layout) (e : Event ι κ) (s : Overlay ι κ)
    (h : AllShown layout s) : AllShown layout (step layout e s) := by
  cases e with
  | down k position => exact down_shown h k position
  | move k position => exact move_shown h k position
  | up k => exact up_shown h k
  | panStart i localPosition => exact panStart_shown hone h i localPosition
  | panUpdate i localPosition => exact panUpdate_shown hone h i localPosition
  | panEnd i => exact panEnd_shown hone h i
  | clickButtonDelay n => exact clickButtonDelay_shown h n

/-- With one stick of each type, the host always has the pad as it is, and each stick where it
is drawn. -/
theorem sticks_shown (hone : OneEach layout) {s : Overlay ι κ}
    (hs : Reachable (step layout) {} s) : AllShown layout s :=
  reachable_invariant _ (shown_step hone) shown_start hs

end System

/-- A stick of each type and a fire button, on a screen where the length of an offset along
an axis is exact. -/
def twoSticks : Layout JoystickType Unit where
  buttons _ := ⟨"fire",1,false,true,.circle,true,false⟩
  sticks t := ⟨t,50,by norm_num⟩
  touchpadSensitivity := 1/10
  distance o := |o.dx|+|o.dy|

theorem pulled_shown : AllShown twoSticks
    (run (step twoSticks) [.panStart .left ⟨80,50⟩, .down () ⟨0,0⟩, .panEnd .left] {}) :=
  sticks_shown (fun _ _ h => h) ⟨_,rfl⟩

end CloudPlay.ShownSticks
