import CloudPlay.PressLog
import CloudPlay.TransitionRun
import Mathlib.Data.Int.Notation
import Mathlib.Data.List.Nodup

/-!
# The WASD joystick

The stick of a virtual gamepad holds the keys of the directions it points to. A
sneak key is held near the centre and a sprint key far from it, a long pull
latches the stick, and the arcade mode lets go of a key for a moment: its press
is sent again from a microtask.
-/

set_option autoImplicit false

namespace CloudPlay.WasdJoystick

structure Offset where
  dx : Float
  dy : Float

def Offset.distance (o : Offset) : Float := (o.dx*o.dx+o.dy*o.dy).sqrt

structure Config where
  keyMapping : List (String × ℤ)
  enableLongPull : Bool
  sneakKeyCode : Option ℤ := none
  sprintKeyCode : Option ℤ := none
  sneakThreshold : Float := 0.3
  sprintThreshold : Float := 0.8
  enableArcadeMode : Bool := false
  arcadeThreshold : Float := 0.5

/-- The controller, the key events it has sent and the presses it has put off. -/
structure WASDJoystickController where
  pressedDirections : List String := []
  isLongPulled : Bool := false
  isSneakPressed : Bool := false
  isSprintPressed : Bool := false
  arcadeTriggered : Bool := false
  sent : List (ℤ × Bool) := []
  microtasks : List (ℤ × Bool) := []

namespace WASDJoystickController

def onEvent (s : WASDJoystickController) (keyCode : ℤ) (isDown : Bool) : WASDJoystickController :=
  {s with sent := s.sent ++ [(keyCode,isDown)]}

def microtask (s : WASDJoystickController) (keyCode : ℤ) (isDown : Bool) :
    WASDJoystickController :=
  {s with microtasks := s.microtasks ++ [(keyCode,isDown)]}

def runMicrotasks (s : WASDJoystickController) : WASDJoystickController :=
  {s with sent := s.sent ++ s.microtasks, microtasks := []}

/-- One key event for the key of a direction, if the direction has one. -/
def sendDirection (c : Config) (isDown : Bool) (s : WASDJoystickController)
    (direction : String) : WASDJoystickController :=
  match c.keyMapping.lookup direction with
  | some keyCode => s.onEvent keyCode isDown
  | none => s

def sendDirections (c : Config) (isDown : Bool) (directions : List String)
    (s : WASDJoystickController) : WASDJoystickController :=
  directions.foldl (sendDirection c isDown) s

/-- The flag of a threshold key and the key event that moves it there. -/
def moveKey (keyCode : Option ℤ) (pressed shouldPress : Bool) : Bool × List (ℤ × Bool) :=
  match keyCode with
  | some keyCode =>
    if shouldPress ≠ pressed then (shouldPress, [(keyCode,shouldPress)]) else (pressed, [])
  | none => (pressed, [])

/-- The sneak key before the sprint key. -/
def moveKeys (c : Config) (shouldPressSneak shouldPressSprint : Bool)
    (s : WASDJoystickController) : WASDJoystickController :=
  let sneak := moveKey c.sneakKeyCode s.isSneakPressed shouldPressSneak
  let sprint := moveKey c.sprintKeyCode s.isSprintPressed shouldPressSprint
  {s with
    isSneakPressed := sneak.1
    isSprintPressed := sprint.1
    sent := s.sent ++ sneak.2 ++ sprint.2}

def updateSneakSprintKeys (c : Config) (distanceRatio : Float) (s : WASDJoystickController) :
    WASDJoystickController :=
  moveKeys c (distanceRatio < c.sneakThreshold) (distanceRatio > c.sprintThreshold) s

def releaseSneakSprintKeys (c : Config) (s : WASDJoystickController) : WASDJoystickController :=
  moveKeys c false false s

/-- Lets go of the key of a direction and presses it again from a microtask. -/
def tapAgain (c : Config) (directions : List String) (direction : String)
    (s : WASDJoystickController) : WASDJoystickController :=
  match c.keyMapping.lookup direction with
  | some keyCode =>
    if direction ∈ directions then (s.onEvent keyCode false).microtask keyCode true else s
  | none => s

def handleArcadeMode (c : Config) (directions : List String) (s : WASDJoystickController) :
    WASDJoystickController :=
  let hasLeftOrRight := "left" ∈ directions ∨ "right" ∈ directions
  if hasLeftOrRight ∧ s.arcadeTriggered = false then
    tapAgain c directions "right" (tapAgain c directions "left" {s with arcadeTriggered := true})
  else if ¬hasLeftOrRight then {s with arcadeTriggered := false}
  else s

def updatePressedKeys (c : Config) (newDirections : List String) (s : WASDJoystickController) :
    WASDJoystickController :=
  let toRelease := s.pressedDirections.filter (· ∉ newDirections)
  let toPress := newDirections.filter (· ∉ s.pressedDirections)
  {sendDirections c true toPress (sendDirections c false toRelease s) with
    pressedDirections := newDirections}

def releaseAllKeys (c : Config) (s : WASDJoystickController) : WASDJoystickController :=
  {sendDirections c false s.pressedDirections s with pressedDirections := []}

end WASDJoystickController
open WASDJoystickController

def longPullThresholdRatio : Float := 1.5

/-- The remainder of a division that rounds down. -/
def floorMod (a b : Float) : Float := a-b*(a/b).floor

/-- Degrees counter-clockwise from the right. -/
def angle (offset : Offset) : Float :=
  floorMod (Float.atan2 (-offset.dy) offset.dx*180/3.141592653589793+360) 360

def directionsFromOffset (offset : Offset) (radius : Float) : List String :=
  let threshold := radius*0.3
  if offset.distance < threshold then []
  else
    let angle := angle offset
    if angle ≥ 337.5 ∨ angle < 22.5 then ["right"]
    else if angle ≥ 22.5 ∧ angle < 67.5 then ["up", "right"]
    else if angle ≥ 67.5 ∧ angle < 112.5 then ["up"]
    else if angle ≥ 112.5 ∧ angle < 157.5 then ["up", "left"]
    else if angle ≥ 157.5 ∧ angle < 202.5 then ["left"]
    else if angle ≥ 202.5 ∧ angle < 247.5 then ["down", "left"]
    else if angle ≥ 247.5 ∧ angle < 292.5 then ["down"]
    else if angle ≥ 292.5 ∧ angle < 337.5 then ["down", "right"]
    else []

namespace WASDJoystickController

def pull (c : Config) (distance radius : Float) (s : WASDJoystickController) :
    WASDJoystickController :=
  if c.enableLongPull ∧ distance > radius*longPullThresholdRatio then {s with isLongPulled := true}
  else s

def updatePosition (c : Config) (offset : Offset) (radius : Float) (touchPosition : Offset)
    (s : WASDJoystickController) : WASDJoystickController :=
  let distance := touchPosition.distance
  let distanceRatio := distance/radius
  let s := updateSneakSprintKeys c distanceRatio (pull c distance radius s)
  let newDirections := directionsFromOffset offset radius
  let s :=
    if c.enableArcadeMode ∧ distanceRatio > c.arcadeThreshold then
      handleArcadeMode c newDirections s
    else s
  updatePressedKeys c newDirections s

def latched (c : Config) (s : WASDJoystickController) : Prop := s.isLongPulled ∧ c.enableLongPull

instance (c : Config) (s : WASDJoystickController) : Decidable (s.latched c) :=
  inferInstanceAs (Decidable (_ ∧ _))

def reset (c : Config) (s : WASDJoystickController) : WASDJoystickController :=
  if s.latched c then s
  else {releaseSneakSprintKeys c (releaseAllKeys c s) with arcadeTriggered := false}

def forceReset (c : Config) (s : WASDJoystickController) : WASDJoystickController :=
  {releaseSneakSprintKeys c (releaseAllKeys c {s with isLongPulled := false}) with
    arcadeTriggered := false}

def dispose (c : Config) (s : WASDJoystickController) : WASDJoystickController :=
  releaseSneakSprintKeys c (releaseAllKeys c s)

end WASDJoystickController

inductive Call
  | updatePosition (offset : Offset) (radius : Float) (touchPosition : Offset)
  | reset
  | forceReset
  | dispose

def Call.moves : Call → Bool
  | .updatePosition _ _ _ => true
  | _ => false

def perform (c : Config) : Call → WASDJoystickController → WASDJoystickController
  | .updatePosition offset radius touchPosition, s => s.updatePosition c offset radius touchPosition
  | .reset, s => s.reset c
  | .forceReset, s => s.forceReset c
  | .dispose, s => s.dispose c

/-- A call and the microtasks it leaves. -/
def step (c : Config) (call : Call) (s : WASDJoystickController) : WASDJoystickController :=
  (perform c call s).runMicrotasks

end CloudPlay.WasdJoystick
