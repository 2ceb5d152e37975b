import CloudPlay.RoundedQuotient
import CloudPlay.TransitionRun
import Mathlib.Data.Rat.Floor

/-!
# The state of a gamepad

Events of the gamepad plugin move the buttons and the analog controls of one
gamepad, and a change is sent to the host as the text of the whole state. The
analog controls move by at least a deadband. What the platforms do differently
is kept: the web reports triggers as buttons and inverts the Y axes, macOS, iOS
and Android report the direction pad as two axes.
-/

set_option autoImplicit false

namespace CloudPlay.GamepadState
open RoundedQuotient TransitionRun

inductive Platform
  | web | android | ios | windows | macos | linux
  deriving DecidableEq

inductive KeyType
  | analog | button
  deriving DecidableEq

inductive Button
  | dpadUp | dpadDown | dpadLeft | dpadRight | start | back | leftThumb | rightThumb
  | leftShoulder | rightShoulder | a | b | x | y
  deriving DecidableEq

inductive Analog
  | bLeftTrigger | bRightTrigger | sThumbLX | sThumbLY | sThumbRX | sThumbRY
  deriving DecidableEq

structure GamepadEvent where
  type : KeyType
  key : String
  value : ℚ

structure CGamepadState where
  buttonDown : Button → Bool := fun _ => false
  analogs : Analog → ℤ := fun _ => 0

def buttonMapping : List (String × Button) :=
  [("button 0", .a), ("button 1", .b), ("button 2", .x), ("button 3", .y),
    ("button 4", .leftShoulder), ("button 5", .rightShoulder), ("button 8", .back),
    ("button 9", .start), ("button 10", .leftThumb), ("button 11", .rightThumb),
    ("button 12", .dpadUp), ("button 13", .dpadDown), ("button 14", .dpadLeft),
    ("button 15", .dpadRight), ("a", .a), ("b", .b), ("x", .x), ("y", .y),
    ("leftShoulder", .leftShoulder), ("rightShoulder", .rightShoulder), ("view", .back),
    ("menu", .start), ("leftThumbstick", .leftThumb), ("rightThumbstick", .rightThumb),
    ("dpadUp", .dpadUp), ("dpadDown", .dpadDown), ("dpadLeft", .dpadLeft),
    ("dpadRight", .dpadRight), ("a.circle", .a), ("b.circle", .b), ("x.circle", .x),
    ("y.circle", .y), ("xmark.circle", .a), ("circle.circle", .b), ("square.circle", .x),
    ("triangle.circle", .y), ("plus.rectangle", .back), ("capsule.portrait", .start),
    ("lb.rectangle.roundedbottom", .leftShoulder),
    ("rb.rectangle.roundedbottom", .rightShoulder),
    ("rectangle.fill.on.rectangle.fill.circle", .back), ("line.horizontal.3.circle", .start),
    ("l.joystick.down", .leftThumb), ("r.joystick.press.down", .rightThumb),
    ("dpad - xAxis", .dpadLeft), ("dpad - yAxis", .dpadUp), ("r.joystick.down", .rightThumb),
    ("l1.rectangle.roundedbottom", .leftShoulder),
    ("r1.rectangle.roundedbottom", .rightShoulder), ("ellipsis.circle", .back),
    ("KEYCODE_BUTTON_A", .a), ("KEYCODE_BUTTON_B", .b), ("KEYCODE_BUTTON_X", .x),
    ("KEYCODE_BUTTON_Y", .y), ("KEYCODE_BUTTON_SELECT", .back), ("KEYCODE_BUTTON_START", .start),
    ("KEYCODE_BUTTON_THUMBL", .leftThumb), ("KEYCODE_BUTTON_THUMBR", .rightThumb),
    ("KEYCODE_BUTTON_L1", .leftShoulder), ("KEYCODE_BUTTON_R1", .rightShoulder),
    ("AXIS_HAT_X", .dpadLeft), ("AXIS_HAT_Y", .dpadUp)]

def analogMapping : List (String × Analog) :=
  [("button 6", .bLeftTrigger), ("button 7", .bRightTrigger), ("analog 0", .sThumbLX),
    ("analog 1", .sThumbLY), ("analog 2", .sThumbRX), ("analog 3", .sThumbRY),
    ("leftTrigger", .bLeftTrigger), ("rightTrigger", .bRightTrigger),
    ("leftThumbstickX", .sThumbLX), ("leftThumbstickY", .sThumbLY),
    ("rightThumbstickX", .sThumbRX), ("rightThumbstickY", .sThumbRY),
    ("lt.rectangle.roundedtop", .bLeftTrigger), ("rt.rectangle.roundedtop", .bRightTrigger),
    ("l.joystick - xAxis", .sThumbLX), ("l.joystick - yAxis", .sThumbLY),
    ("r.joystick - xAxis", .sThumbRX), ("r.joystick - yAxis", .sThumbRY),
    ("l2.rectangle.roundedtop", .bLeftTrigger), ("r2.rectangle.roundedtop", .bRightTrigger),
    ("AXIS_Y", .sThumbLY), ("AXIS_X", .sThumbLX), ("AXIS_Z", .sThumbRX), ("AXIS_RZ", .sThumbRY),
    ("AXIS_BRAKE", .bLeftTrigger), ("AXIS_LTRIGGER", .bLeftTrigger),
    ("AXIS_GAS", .bRightTrigger), ("AXIS_RTRIGGER", .bRightTrigger)]

/-- The bits of the buttons in the word that is sent. -/
def buttonBits : List (Button × ℕ) :=
  [(.dpadUp, 0x0001), (.dpadDown, 0x0002), (.dpadLeft, 0x0004), (.dpadRight, 0x0008),
    (.start, 0x0010), (.back, 0x0020), (.leftThumb, 0x0040), (.rightThumb, 0x0080),
    (.leftShoulder, 0x0100), (.rightShoulder, 0x0200), (.a, 0x1000), (.b, 0x2000),
    (.x, 0x4000), (.y, 0x8000)]

def CGamepadState.word (s : CGamepadState) : ℕ :=
  buttonBits.foldl (fun word bit => if s.buttonDown bit.1 then word ||| bit.2 else word) 0

def CGamepadState.getStateString (s : CGamepadState) : String :=
  " ".intercalate [toString s.word, toString (s.analogs .bLeftTrigger),
    toString (s.analogs .bRightTrigger), toString (s.analogs .sThumbLX),
    toString (s.analogs .sThumbLY), toString (s.analogs .sThumbRX),
    toString (s.analogs .sThumbRY)]

def Analog.isTrigger (a : Analog) : Bool := a = .bLeftTrigger || a = .bRightTrigger

def Analog.deadband (a : Analog) : ℤ := if a.isTrigger then 8 else 100

def Analog.fullScale (a : Analog) : ℕ := if a.isTrigger then 255 else 32767

/-- `(value * factor).toInt()`: the product in floating point, cut off toward
zero. -/
def scaled (value : ℚ) (factor : ℕ) : ℤ :=
  value.num.sign*truncQuotient (value.num.natAbs*factor) value.den

def inverted (p : Platform) (a : Analog) : Bool :=
  p = .web && (a = .sThumbLY || a = .sThumbRY)

def CGamepadState.press (s : CGamepadState) (mapped : Button) (down : Bool) : CGamepadState :=
  { s with buttonDown := Function.update s.buttonDown mapped down }

def CGamepadState.setAnalog (s : CGamepadState) (a : Analog) (v : ℤ) : CGamepadState :=
  { s with analogs := Function.update s.analogs a v }

/-- The old value is compared with the new one before the sign of a Y axis is
turned. -/
def CGamepadState.moveAnalog (s : CGamepadState) (p : Platform) (a : Analog) (value : ℚ) :
    CGamepadState × Bool :=
  let newValue := scaled value a.fullScale
  if |newValue-s.analogs a| < a.deadband then (s, false)
  else (s.setAnalog a (if inverted p a then -newValue else newValue), true)

/-- Two opposite buttons of the direction pad reported as one axis. -/
def CGamepadState.pressAxis (s : CGamepadState) (negative positive : Button) (value : ℚ) :
    CGamepadState :=
  if value = -1 then s.press negative true
  else if value = 0 then (s.press negative false).press positive false
  else if value = 1 then s.press positive true
  else s

def Platform.hasAxes (p : Platform) : Bool := p = .macos || p = .ios || p = .android

def CGamepadState.pressAnalog (s : CGamepadState) (p : Platform) (mapped : Button) (value : ℚ) :
    CGamepadState :=
  if p.hasAxes then
    if mapped = .dpadLeft then s.pressAxis .dpadLeft .dpadRight value
    else if mapped = .dpadUp then s.pressAxis .dpadDown .dpadUp value
    else s.press mapped (value ≠ 0)
  else s.press mapped (value ≠ 0)

/-- Android reports a button that is down with the value zero, and repeats it. -/
def CGamepadState.pressButton (s : CGamepadState) (p : Platform) (mapped : Button) (value : ℚ) :
    CGamepadState × Bool :=
  if p.hasAxes then
    if mapped = .dpadLeft then (s.pressAxis .dpadLeft .dpadRight value, true)
    else if mapped = .dpadUp then (s.pressAxis .dpadDown .dpadUp value, true)
    else if p = .android then
      if s.buttonDown mapped = decide (value = 0) then (s, false)
      else (s.press mapped (value = 0), true)
    else (s.press mapped (value ≠ 0), true)
  else (s.press mapped (value ≠ 0), true)

/-- The key of a trigger that the web reports as a button. -/
def webTrigger (p : Platform) (key : String) : Bool :=
  p = .web && (key = "button 6" || key = "button 7")

/-- The new state, and whether it is to be sent. -/
def CGamepadState.update (s : CGamepadState) (p : Platform) (event : GamepadEvent) :
    CGamepadState × Bool :=
  match event.type with
  | .analog =>
    match analogMapping.lookup event.key with
    | some mapped => s.moveAnalog p mapped event.value
    | none =>
      match buttonMapping.lookup event.key with
      | some mapped => (s.pressAnalog p mapped event.value, true)
      | none => (s, true)
  | .button =>
    if webTrigger p event.key then
      match analogMapping.lookup event.key with
      | some mapped => s.moveAnalog p mapped event.value
      | none => (s, true)
    else
      match buttonMapping.lookup event.key with
      | some mapped => s.pressButton p mapped event.value
      | none =>
        match analogMapping.lookup event.key with
        | some mapped =>
          if mapped.isTrigger then s.moveAnalog p mapped event.value else (s, true)
        | none => (s, true)

/-- A gamepad and the texts sent to the host for it, the last one first. -/
structure Gamepad where
  state : CGamepadState := {}
  sent : List String := []

def onEvent (p : Platform) (event : GamepadEvent) (g : Gamepad) : Gamepad :=
  let updated := g.state.update p event
  if updated.2 then ⟨updated.1,updated.1.getStateString::g.sent⟩ else ⟨updated.1,g.sent⟩

/-- The analog control that an event moves. -/
def movedControl (p : Platform) (event : GamepadEvent) : Option Analog :=
  match event.type with
  | .analog => analogMapping.lookup event.key
  | .button =>
    if webTrigger p event.key then analogMapping.lookup event.key
    else if (buttonMapping.lookup event.key).isSome then none
    else (analogMapping.lookup event.key).filter Analog.isTrigger

end CloudPlay.GamepadState
