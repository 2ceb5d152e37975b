import CloudPlay.CursorUpdates

/-!
# Input events across the channel

The requests of the controller write an input event as bytes, and the host
session takes the bytes apart and calls the platform. A request answers with
the messages it sends, the event's own first and then the empty ones that hurry
it along. Coordinates are doubles at the controller and floats of single
precision in the messages.
-/

set_option autoImplicit false

namespace CloudPlay.RemoteInput
open ByteViews CursorMessages CursorUpdates

def LP_PING : ℤ := 0
def RP_PING : ℤ := 0
def LP_MOUSEMOVE_ABSL : ℤ := 2
def LP_MOUSEMOVE_RELATIVE : ℤ := 4
def LP_MOUSE_SCROLL : ℤ := 5
def LP_MOUSEBUTTON : ℤ := 8
def LP_TOUCH_BUTTON : ℤ := 11
def LP_TOUCH_MOVE_ABSL : ℤ := 12
def LP_PEN_EVENT : ℤ := 14
def LP_PEN_MOVE : ℤ := 15
def LP_KEYPRESSED : ℤ := 16
def LP_EMPTY : ℤ := 64
def LP_AUDIO_CONNECT : ℤ := 65
def LP_DISCONNECT : ℤ := 128

def float32 (x : Float) : Coordinate := x.toFloat32.toBits

/-- The controller with what its requests read besides. -/
structure Sender where
  controller : InputController
  reliable : Bool
  lastx : Float
  lasty : Float
  revertCursorWheel : Bool
  sendEmptyPacket : Bool
  resendCount : ℕ

/-- No request writes it. -/
def outSequenceID : ℤ := 0

def emptyMessage : List UInt8 := [64]

/-- The messages of a request. -/
abbrev Sent := Option (Sender × List (List UInt8))

section
variable (s : Sender)

def emptyMessages (n : ℕ) : List (List UInt8) :=
  if s.sendEmptyPacket then List.replicate n emptyMessage else []

/-- The rounds of a loop up to half of `resendCount`. -/
def halfCount : ℕ := (s.resendCount+1)/2

def send (buffer : List UInt8) (n : ℕ) : Sent := some (s,buffer::emptyMessages s n)

/-- Where a cursor leaves the video: at the edge it was close to. -/
def edgePosition : Option (Float × Float) :=
  let x := if s.lastx > 0.85 then 1 else if s.lastx < 0.15 then 0 else s.lastx
  let y := if s.lasty > 0.85 then 1 else if s.lasty < 0.15 then 0 else s.lasty
  if s.lasty < 0.15 ∨ s.lasty > 0.85 ∨ s.lastx < 0.15 ∨ s.lastx > 0.85 then some (x,y)
  else none

def sendMoveAbsl (x y : Float) : Sent :=
  if s.reliable then do
    let byteData ← setUint8 (newByteData 10) 0 LP_MOUSEMOVE_ABSL
    let byteData ← setUint8 byteData 1 s.controller.screenId
    let byteData ← setFloat32 byteData 2 (float32 x) .little
    let byteData ← setFloat32 byteData 6 (float32 y) .little
    send s byteData (halfCount s)
  else do
    let byteData ← setUint8 (newByteData 14) 0 LP_MOUSEMOVE_ABSL
    let byteData ← setInt32 byteData 1 outSequenceID .big
    let byteData ← setUint8 byteData 5 s.controller.screenId
    let byteData ← setFloat32 byteData 6 (float32 x) .little
    let byteData ← setFloat32 byteData 10 (float32 y) .little
    send s byteData (halfCount s)

def requestMoveMouseAbsl (now : ℤ) (x y : Float) (tempScreenId : ℤ) : Sent :=
  if s.controller.blockCursorMove then some (s,[])
  else if 0 < s.controller.blockNextAbsl then
    some ({s with controller.blockNextAbsl := s.controller.blockNextAbsl-1},[])
  else
    let s := {s with controller.lastAbslMoveTime := now}
    if tempScreenId = -1 then
      match edgePosition s with
      | none => some (s,[])
      | some (x, y) => sendMoveAbsl s x y
    else sendMoveAbsl {s with lastx := x, lasty := y} x y

def requestMoveMouseRelative (x y : Float) (screenId : ℤ) : Sent :=
  if s.controller.blockCursorMove then some (s,[])
  else do
    let byteData ← setUint8 (newByteData 10) 0 LP_MOUSEMOVE_RELATIVE
    let byteData ← setUint8 byteData 1 screenId
    let byteData ← setFloat32 byteData 2 (float32 x) .little
    let byteData ← setFloat32 byteData 6 (float32 y) .little
    send s byteData (halfCount s)

def flag (b : Bool) : ℤ := if b then 1 else 0

def requestMouseClick (buttonId : ℤ) (isDown : Bool) : Sent := do
  let byteData ← setUint8 (newByteData 3) 0 LP_MOUSEBUTTON
  let byteData ← setUint8 byteData 1 buttonId
  let byteData ← setUint8 byteData 2 (flag isDown)
  send s byteData s.resendCount

/-- The wheel's turn with the direction that the settings ask for. -/
def wheel (dy : Float) : Float := if s.revertCursorWheel then -dy else dy

def requestMouseScroll (dx dy : Option Float) : Sent := do
  let byteData ← setUint8 (newByteData 9) 0 LP_MOUSE_SCROLL
  let byteData ← setFloat32 byteData 1 (float32 (dx.getD 0)) .little
  let byteData ← setFloat32 byteData 5 (float32 (wheel s (dy.getD 0))) .little
  send s byteData 0

def requestTouchButton (x y : Float) (touchId : ℤ) (isDown : Bool) : Sent := do
  let byteData ← setUint8 (newByteData 15) 0 LP_TOUCH_BUTTON
  let byteData ← setUint8 byteData 1 0
  let byteData ← setFloat32 byteData 2 (float32 x) .little
  let byteData ← setFloat32 byteData 6 (float32 y) .little
  let byteData ← setInt32 byteData 10 touchId .little
  let byteData ← setUint8 byteData 14 (flag isDown)
  send s byteData s.resendCount

def requestTouchMove (x y : Float) (touchId : ℤ) : Sent := do
  let byteData ← setUint8 (newByteData 13) 0 LP_TOUCH_MOVE_ABSL
  let byteData ← setFloat32 byteData 1 (float32 x) .little
  let byteData ← setFloat32 byteData 5 (float32 y) .little
  let byteData ← setInt32 byteData 9 touchId .little
  send s byteData (halfCount s)

def requestPenEvent (x y : Float) (isDown hasButton : Bool) (pressure rotation tilt : Float) :
    Sent := do
  let byteData ← setUint8 (newByteData 23) 0 LP_PEN_EVENT
  let byteData ← setFloat32 byteData 1 (float32 x) .little
  let byteData ← setFloat32 byteData 5 (float32 y) .little
  let byteData ← setUint8 byteData 9 (flag isDown)
  let byteData ← setUint8 byteData 10 (flag hasButton)
  let byteData ← setFloat32 byteData 11 (float32 pressure) .little
  let byteData ← setFloat32 byteData 15 (float32 rotation) .little
  let byteData ← setFloat32 byteData 19 (float32 tilt) .little
  send s byteData s.resendCount

def requestPenMove (x y : Float) (hasButton : Bool) (pressure rotation tilt : Float) : Sent := do
  let byteData ← setUint8 (newByteData 22) 0 LP_PEN_MOVE
  let byteData ← setFloat32 byteData 1 (float32 x) .little
  let byteData ← setFloat32 byteData 5 (float32 y) .little
  let byteData ← setUint8 byteData 9 (flag hasButton)
  let byteData ← setFloat32 byteData 10 (float32 pressure) .little
  let byteData ← setFloat32 byteData 14 (float32 rotation) .little
  let byteData ← setFloat32 byteData 18 (float32 tilt) .little
  send s byteData (halfCount s)

def requestKeyEvent (keyCode : Option ℤ) (isDown : Bool) : Sent :=
  match keyCode with
  | none => some (s,[])
  | some keyCode => do
    let byteData ← setUint8 (newByteData 3) 0 LP_KEYPRESSED
    let byteData ← setUint8 byteData 1 keyCode
    let byteData ← setUint8 byteData 2 (flag isDown)
    send s byteData s.resendCount

end

/-! The host. -/

inductive Action where
  | performMouseMoveAbsl (x y : Coordinate) (screenId : ℤ)
  | performMouseMoveRelative (dx dy : Coordinate) (screenId : ℤ)
  | performMouseClick (buttonId : ℤ) (isDown : Bool)
  | performMouseScroll (dx dy : Coordinate)
  | performTouchEvent (x y : Coordinate) (id : ℤ) (isDown : Bool) (screenId : ℤ)
  | performTouchMove (x y : Coordinate) (id : ℤ) (screenId : ℤ)
  | performPenEvent (x y : Coordinate) (isDown hasButton : Bool)
      (pressure rotation tilt : Coordinate) (screenId : ℤ)
  | performPenMove (x y : Coordinate) (hasButton : Bool) (pressure rotation tilt : Coordinate)
      (screenId : ℤ)
  | performKeyEvent (keyCode : ℤ) (isDown : Bool)
  | answerPing
  | close
  | audioRequested
  deriving DecidableEq, Repr

/-- The host's platform and the screen of its own controller. -/
structure Host where
  platform : AppPlatform
  screenId : ℤ
  deriving DecidableEq, Repr

def Host.isWindows (host : Host) : Bool := host.platform = .windows

section
variable (host : Host) (buffer : List UInt8)

def handleMoveMouseAbsl : Option (List Action) :=
  if !host.platform.isDeskTop then some [] else do
    let screenId ← getUint8 buffer 1
    let x ← getFloat32 buffer 2 .little
    let y ← getFloat32 buffer 6 .little
    some [.performMouseMoveAbsl x y screenId]

def handleMoveMouseRelative : Option (List Action) :=
  if !host.platform.isDeskTop then some [] else do
    let screenId ← getUint8 buffer 1
    let dx ← getFloat32 buffer 2 .little
    let dy ← getFloat32 buffer 6 .little
    some [.performMouseMoveRelative dx dy screenId]

def handleMouseClick : Option (List Action) :=
  if !host.platform.isDeskTop then some [] else do
    let buttonId ← getUint8 buffer 1
    let isDown ← getUint8 buffer 2
    some [.performMouseClick buttonId (isDown = 1)]

def handleMouseScroll : Option (List Action) :=
  if !host.platform.isDeskTop then some [] else do
    let dx ← getFloat32 buffer 1 .little
    let dy ← getFloat32 buffer 5 .little
    some [.performMouseScroll dx dy]

def handleTouchButton : Option (List Action) :=
  if !host.isWindows then some [] else do
    let x ← getFloat32 buffer 2 .little
    let y ← getFloat32 buffer 6 .little
    let id ← getInt32 buffer 10 .little
    let isDown ← getUint8 buffer 14
    some [.performTouchEvent x y id (isDown = 1) host.screenId]

def handleTouchMove : Option (List Action) :=
  if !host.isWindows then some [] else do
    let x ← getFloat32 buffer 1 .little
    let y ← getFloat32 buffer 5 .little
    let id ← getInt32 buffer 9 .little
    some [.performTouchMove x y id host.screenId]

def handlePenEvent : Option (List Action) :=
  if !host.isWindows then some [] else do
    let x ← getFloat32 buffer 1 .little
    let y ← getFloat32 buffer 5 .little
    let isDown ← getUint8 buffer 9
    let hasButton ← getUint8 buffer 10
    let pressure ← getFloat32 buffer 11 .little
    let rotation ← getFloat32 buffer 15 .little
    let tilt ← getFloat32 buffer 19 .little
    some [.performPenEvent x y (isDown = 1) (hasButton = 1) pressure rotation tilt host.screenId]

def handlePenMove : Option (List Action) :=
  if !host.isWindows then some [] else do
    let x ← getFloat32 buffer 1 .little
    let y ← getFloat32 buffer 5 .little
    let hasButton ← getUint8 buffer 9
    let pressure ← getFloat32 buffer 10 .little
    let rotation ← getFloat32 buffer 14 .little
    let tilt ← getFloat32 buffer 18 .little
    some [.performPenMove x y (hasButton = 1) pressure rotation tilt host.screenId]

def handleKeyEvent : Option (List Action) :=
  if !host.platform.isDeskTop then some [] else do
    let keyCode ← getUint8 buffer 1
    let isDown ← getUint8 buffer 2
    some [.performKeyEvent keyCode (isDown = 1)]

def processDataChannelMessageFromClient : Option (List Action) := do
  let tag ← getUint8 buffer 0
  if tag = LP_PING then
    if buffer.length = 2 then
      let kind ← getUint8 buffer 1
      if kind = RP_PING then some [.answerPing] else some []
    else some []
  else if tag = LP_MOUSEMOVE_ABSL then handleMoveMouseAbsl host buffer
  else if tag = LP_MOUSEMOVE_RELATIVE then handleMoveMouseRelative host buffer
  else if tag = LP_MOUSEBUTTON then handleMouseClick host buffer
  else if tag = LP_MOUSE_SCROLL then handleMouseScroll host buffer
  else if tag = LP_TOUCH_MOVE_ABSL then handleTouchMove host buffer
  else if tag = LP_TOUCH_BUTTON then handleTouchButton host buffer
  else if tag = LP_PEN_EVENT then handlePenEvent host buffer
  else if tag = LP_PEN_MOVE then handlePenMove host buffer
  else if tag = LP_KEYPRESSED then handleKeyEvent host buffer
  else if tag = LP_DISCONNECT then some [.close]
  else if tag = LP_EMPTY then some []
  else if tag = LP_AUDIO_CONNECT then some [.audioRequested]
  else some []

/-- The actions of several messages, one behind the other. -/
def processAll : List (List UInt8) → Option (List Action)
  | [] => some []
  | buffer::buffers => do
    let first ← processDataChannelMessageFromClient host buffer
    let rest ← processAll buffers
    some (first ++ rest)

end
end CloudPlay.RemoteInput
