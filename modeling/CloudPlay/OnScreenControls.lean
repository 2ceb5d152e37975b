import CloudPlay.GamepadState
import CloudPlay.TouchInput
import CloudPlay.VirtualControls

/-!
# The on-screen gamepad at work

The buttons and joysticks over the picture turn fingers into key, mouse and gamepad events,
and the renderer turns these into requests to the host. A gamepad event changes the state of
the on-screen pad, which is sent as a whole. The directions that move the cursor and the keys
of the WASD joystick are left out, and so is what the length of an offset and its quotient by
the radius are rounded to.
-/

set_option autoImplicit false

namespace CloudPlay.OnScreenControls
open GamepadState
open TouchInput (Offset)
open VirtualControls (ButtonKeys JoystickType)

inductive GamepadKey
  | leftStickX | leftStickY | rightStickX | rightStickY

inductive ControlEvent
  | keyboard (keyCode : ℤ) (isDown : Bool)
  | analog (key : GamepadKey) (value : ℚ)
  | button (keyCode : ℤ) (isDown : Bool)
  | mouseButton (buttonId : ℤ) (isDown : Bool)
  | mouseMove (deltaX deltaY : ℚ)

abbrev Byte := BitVec 8

/-- A request to the host; a code is sent as one byte. -/
inductive Request
  | key (keyCode : Byte) (isDown : Bool)
  | gamePad (id event : String)
  | mouseClick (buttonId : Byte) (isDown : Bool)
  | moveMouseRelative (x y : ℚ)
  deriving DecidableEq

namespace GamepadKeys

def LEFT_STICK_BUTTON : ℤ := 0x1003
def RIGHT_STICK_BUTTON : ℤ := 0x2003
def LEFT_TRIGGER : ℤ := 0x0101
def RIGHT_TRIGGER : ℤ := 0x0201

end GamepadKeys

def gampadToCGamepad : List (ℤ × Button) :=
  [(0x0001, .dpadUp), (0x0002, .dpadDown), (0x0004, .dpadLeft), (0x0008, .dpadRight),
    (0x0010, .start), (0x0020, .back), (0x1003, .leftThumb), (0x2003, .rightThumb),
    (0x0100, .leftShoulder), (0x0200, .rightShoulder), (0x1004, .a), (0x1005, .b),
    (0x1006, .x), (0x1007, .y)]

/-- What a code of a gamepad button moves. -/
inductive PadControl
  | leftTrigger | rightTrigger
  | button (mapped : Button)
  deriving DecidableEq

def padControl (keyCode : ℤ) : Option PadControl :=
  if keyCode = GamepadKeys.LEFT_TRIGGER then some .leftTrigger
  else if keyCode = GamepadKeys.RIGHT_TRIGGER then some .rightTrigger
  else (gampadToCGamepad.lookup keyCode).map .button

structure Renderer where
  gamepadState : CGamepadState := {}
  sent : List Request := []

namespace Renderer

def request (q : Request) (r : Renderer) : Renderer := {r with sent := r.sent ++ [q]}

def requestGamePadEvent (r : Renderer) : Renderer :=
  r.request (.gamePad "0" r.gamepadState.getStateString)

def setAnalog (a : Analog) (v : ℤ) (r : Renderer) : Renderer :=
  {r with gamepadState := r.gamepadState.setAnalog a v}

/-- Only the Y axes are sent at once. -/
def handleAnalog (key : GamepadKey) (value : ℚ) (r : Renderer) : Renderer :=
  match key with
  | .leftStickX => r.setAnalog .sThumbLX (scaled value 32767)
  | .leftStickY => (r.setAnalog .sThumbLY (scaled value 32767)).requestGamePadEvent
  | .rightStickX => r.setAnalog .sThumbRX (scaled value 32767)
  | .rightStickY => (r.setAnalog .sThumbRY (scaled value 32767)).requestGamePadEvent

def moveControl (c : PadControl) (isDown : Bool) (r : Renderer) : Renderer :=
  match c with
  | .leftTrigger => r.setAnalog .bLeftTrigger (if isDown then 255 else 0)
  | .rightTrigger => r.setAnalog .bRightTrigger (if isDown then 255 else 0)
  | .button mapped => {r with gamepadState := r.gamepadState.press mapped isDown}

/-- A code that is not in the map throws. -/
def handleButton (keyCode : ℤ) (isDown : Bool) (r : Renderer) : Renderer :=
  match padControl keyCode with
  | some c => (r.moveControl c isDown).requestGamePadEvent
  | none => r

def handleControlEvent (touchpadSensitivity : ℚ) (event : ControlEvent) (r : Renderer) :
    Renderer :=
  match event with
  | .keyboard keyCode isDown => r.request (.key (BitVec.ofInt 8 keyCode) isDown)
  | .analog key value => r.handleAnalog key value
  | .button keyCode isDown => r.handleButton keyCode isDown
  | .mouseButton buttonId isDown => r.request (.mouseClick (BitVec.ofInt 8 buttonId) isDown)
  | .mouseMove deltaX deltaY =>
      let sensitivity := touchpadSensitivity*10
      r.request (.moveMouseRelative (deltaX*sensitivity) (deltaY*sensitivity))

end Renderer

def ControlEvent.throws : ControlEvent → Bool
  | .button keyCode _ => (padControl keyCode).isNone
  | _ => false

/-- A button: how it is shown, whether its key is down, and where a finger last moved the
cursor from. -/
structure ButtonWidget where
  isPressed : Bool := false
  isKeyDown : Bool := false
  lastPosition : Option Offset := none
  deriving DecidableEq

section Buttons
variable (k : ButtonKeys)

def keyEvent (isDown : Bool) : ControlEvent :=
  if k.isMouseButton then .mouseButton k.keyCode isDown
  else if k.isGamepadButton then .button k.keyCode isDown
  else .keyboard k.keyCode isDown

namespace ButtonWidget

/-- The button after a finger has come down, and what it sends. An event that throws leaves
the position as it is. -/
def handleDown (position : Offset) (w : ButtonWidget) : ButtonWidget × ControlEvent :=
  let isKeyDown := if k.isToggleMode then !w.isKeyDown else true
  let event := keyEvent k isKeyDown
  ({ isPressed := isKeyDown
     isKeyDown := isKeyDown
     lastPosition := if k.isFpsFireButton ∧ ¬event.throws then some position
       else w.lastPosition }, event)

def handleUp (w : ButtonWidget) : ButtonWidget × Option ControlEvent :=
  if k.isToggleMode then ({w with isPressed := w.isKeyDown, lastPosition := none}, none)
  else
    let event := keyEvent k false
    ({ isPressed := false
       isKeyDown := false
       lastPosition := if event.throws then w.lastPosition else none }, some event)

def handleMove (position : Offset) (w : ButtonWidget) : ButtonWidget × Option ControlEvent :=
  match w.lastPosition with
  | none => (w, none)
  | some last =>
      if w.isPressed ∧ k.isFpsFireButton then
        let deltaX := position.dx-last.dx
        let deltaY := position.dy-last.dy
        if |deltaX| > 1/2 ∨ |deltaY| > 1/2 then
          ({w with lastPosition := some position}, some (.mouseMove deltaX deltaY))
        else (w, none)
      else (w, none)

end ButtonWidget

end Buttons

/-- The type of a joystick and its radius on the screen. -/
structure Stick where
  joystickType : JoystickType
  radius : ℚ
  radius_pos : 0 < radius

/-- A joystick with its controller. A drag of it begins and ends once. -/
structure Joystick where
  dragging : Bool := false
  offset : Offset := ⟨0,0⟩
  lastSentOffset : Option Offset := none
  isActive : Bool := false
  isClick : Bool := false
  deriving DecidableEq

def xKey : JoystickType → GamepadKey
  | .left => .leftStickX
  | .right => .rightStickX

def yKey : JoystickType → GamepadKey
  | .left => .leftStickY
  | .right => .rightStickY

def stickButton : JoystickType → ℤ
  | .left => GamepadKeys.LEFT_STICK_BUTTON
  | .right => GamepadKeys.RIGHT_STICK_BUTTON

/-- The two events of a joystick. -/
def sendAxes (t : JoystickType) (x y : ℚ) (r : Renderer) : Renderer :=
  (r.handleAnalog (xKey t) x).handleAnalog (yKey t) y

/-- `_sendJoystickEvent` leaves out an offset that is nearly the one sent last. -/
def isNear (last : Option Offset) (offset : Offset) : Bool :=
  match last with
  | none => false
  | some last => |last.dx-offset.dx| < 1/1000 && |last.dy-offset.dy| < 1/1000

def updatePosition (stick : Stick) (offset : Offset) (j : Joystick) (r : Renderer) :
    Joystick × Renderer :=
  let j := {j with offset := offset, isActive := true}
  if isNear j.lastSentOffset offset then (j, r)
  else
    ({j with lastSentOffset := some offset},
      sendAxes stick.joystickType (offset.dx/stick.radius) (-offset.dy/stick.radius) r)

def reset (stick : Stick) (j : Joystick) (r : Renderer) : Joystick × Renderer :=
  let j := {j with offset := ⟨0,0⟩}
  if j.isActive then
    ({j with isActive := false, lastSentOffset := none}, sendAxes stick.joystickType 0 0 r)
  else (j, r)

/-- The controls on the screen, and what the settings and the length of an offset are. -/
structure Layout (ι κ : Type) where
  buttons : κ → ButtonKeys
  sticks : ι → Stick
  touchpadSensitivity : ℚ
  distance : Offset → ℚ

/-- The controls with the fingers on each button, the clicks of a stick whose release is
delayed by 32 ms, and the renderer. -/
structure Overlay (ι κ : Type) where
  renderer : Renderer := {}
  button : κ → ButtonWidget := fun _ => {}
  fingers : κ → ℕ := fun _ => 0
  stick : ι → Joystick := fun _ => {}
  clicks : List ℤ := []

inductive Event (ι κ : Type)
  | down (k : κ) (position : Offset)
  | move (k : κ) (position : Offset)
  | up (k : κ)
  | panStart (i : ι) (localPosition : Offset)
  | panUpdate (i : ι) (localPosition : Offset)
  | panEnd (i : ι)
  | clickButtonDelay (n : ℕ)

section System
variable {ι κ : Type} (layout : Layout ι κ)

def constrainOffset (i : ι) (offset : Offset) : Offset :=
  let radius := (layout.sticks i).radius
  let distance := layout.distance offset
  if distance > radius then ⟨offset.dx*radius/distance,offset.dy*radius/distance⟩ else offset

/-- The offset of a finger from the centre of a joystick. -/
def fromCentre (i : ι) (localPosition : Offset) : Offset :=
  let radius := (layout.sticks i).radius
  constrainOffset layout i ⟨localPosition.dx-radius,localPosition.dy-radius⟩

variable [DecidableEq ι] [DecidableEq κ]

namespace Overlay

def onEvent (event : Option ControlEvent) (s : Overlay ι κ) : Overlay ι κ :=
  match event with
  | none => s
  | some event =>
      {s with renderer := s.renderer.handleControlEvent layout.touchpadSensitivity event}

def setButton (k : κ) (w : ButtonWidget) (s : Overlay ι κ) : Overlay ι κ :=
  {s with button := Function.update s.button k w}

def setFingers (k : κ) (n : ℕ) (s : Overlay ι κ) : Overlay ι κ :=
  {s with fingers := Function.update s.fingers k n}

def setStick (i : ι) (j : Joystick × Renderer) (s : Overlay ι κ) : Overlay ι κ :=
  {s with stick := Function.update s.stick i j.1, renderer := j.2}

def down (k : κ) (position : Offset) (s : Overlay ι κ) : Overlay ι κ :=
  let w := (s.button k).handleDown (layout.buttons k) position
  ((s.setFingers k (s.fingers k+1)).setButton k w.1).onEvent layout w.2

def move (k : κ) (position : Offset) (s : Overlay ι κ) : Overlay ι κ :=
  if s.fingers k = 0 then s
  else
    let w := (s.button k).handleMove (layout.buttons k) position
    (s.setButton k w.1).onEvent layout w.2

def up (k : κ) (s : Overlay ι κ) : Overlay ι κ :=
  if s.fingers k = 0 then s
  else
    let w := (s.button k).handleUp (layout.buttons k)
    ((s.setFingers k (s.fingers k-1)).setButton k w.1).onEvent layout w.2

def panStart (i : ι) (localPosition : Offset) (s : Overlay ι κ) : Overlay ι κ :=
  if (s.stick i).dragging then s
  else
    let j := {s.stick i with dragging := true, isClick := true}
    s.setStick i
      (updatePosition (layout.sticks i) (fromCentre layout i localPosition) j s.renderer)

def panUpdate (i : ι) (localPosition : Offset) (s : Overlay ι κ) : Overlay ι κ :=
  if (s.stick i).dragging then
    let offset := fromCentre layout i localPosition
    let radius := (layout.sticks i).radius
    let normalized : Offset := ⟨offset.dx/radius,offset.dy/radius⟩
    let j := s.stick i
    let j := if layout.distance normalized > 1/100 then {j with isClick := false} else j
    s.setStick i (updatePosition (layout.sticks i) offset j s.renderer)
  else s

/-- `performClick`, whose release comes later. -/
def performClick (i : ι) (s : Overlay ι κ) : Overlay ι κ :=
  let button := stickButton (layout.sticks i).joystickType
  {s.onEvent layout (some (.button button true)) with clicks := s.clicks ++ [button]}

def panEnd (i : ι) (s : Overlay ι κ) : Overlay ι κ :=
  if (s.stick i).dragging then
    let s := if (s.stick i).isClick then s.performClick layout i else s
    s.setStick i (reset (layout.sticks i) {s.stick i with dragging := false} s.renderer)
  else s

def clickButtonDelay (n : ℕ) (s : Overlay ι κ) : Overlay ι κ :=
  match s.clicks[n]? with
  | none => s
  | some button =>
      {s.onEvent layout (some (.button button false)) with clicks := s.clicks.eraseIdx n}

end Overlay

def step : Event ι κ → Overlay ι κ → Overlay ι κ
  | .down k position, s => s.down layout k position
  | .move k position, s => s.move layout k position
  | .up k, s => s.up layout k
  | .panStart i localPosition, s => s.panStart layout i localPosition
  | .panUpdate i localPosition, s => s.panUpdate layout i localPosition
  | .panEnd i, s => s.panEnd layout i
  | .clickButtonDelay n, s => s.clickButtonDelay layout n

end System

end CloudPlay.OnScreenControls
