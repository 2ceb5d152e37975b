import CloudPlay.CursorMessages
import Mathlib.Data.Rat.Init
import Mathlib.Algebra.Order.Ring.Unbundled.Rat

/-!
# Cursor updates at the controller

`handleCursorUpdate` takes a message of the host apart and moves the local
cursor. The plugin's calls are returned in their order beside the controller's
own state. What follows `unlockCursor` runs later: its closure keeps the buffer
and reads the coordinates only then. A read outside the buffer ends a handler
or a closure without a result.
-/

set_option autoImplicit false

namespace CloudPlay.CursorUpdates
open ByteViews CursorMessages

inductive AppPlatform where
  | windows
  | macos
  | linux
  | android
  | ios
  | web
  deriving DecidableEq, Repr

def AppPlatform.isDeskTop (p : AppPlatform) : Bool := p = .windows ∨ p = .macos ∨ p = .linux

def AppPlatform.isMobile (p : AppPlatform) : Bool := p = .android ∨ p = .ios

def AppPlatform.isWeb (p : AppPlatform) : Bool := p = .web

def AppPlatform.isMacos (p : AppPlatform) : Bool := p = .macos

inductive SystemMouseCursor where
  | grabbing | grab | resizeUp | resizeDown | resizeLeft | resizeRight | disappearing
  | contextMenu | alias | copy | verticalText | basic | text | wait | precise | resizeUpDown
  | resizeUpLeftDownRight | resizeUpRightDownLeft | resizeLeftRight | allScroll | forbidden
  | click | progress | help
  deriving DecidableEq, Repr

/-- A custom cursor is known by its key in `cachedCursors`. -/
inductive MouseCursor where
  | system (cursor : SystemMouseCursor)
  | custom (key : ℤ)
  deriving DecidableEq, Repr

def systemMouseCursors : List (ℤ × SystemMouseCursor) :=
  [(32401, .grabbing), (32402, .grab), (32403, .resizeUp), (32404, .resizeDown),
    (32405, .resizeLeft), (32406, .resizeRight), (32407, .disappearing), (32408, .contextMenu),
    (32409, .alias), (32410, .copy), (32411, .verticalText), (32512, .basic), (32513, .text),
    (32514, .wait), (32515, .precise), (32516, .resizeUpDown), (32640, .basic),
    (32642, .resizeUpLeftDownRight), (32643, .resizeUpRightDownLeft), (32644, .resizeLeftRight),
    (32645, .resizeUpDown), (32646, .allScroll), (32648, .forbidden), (32649, .click),
    (32650, .progress), (32651, .help), (32671, .basic), (32672, .basic)]

/-- The shapes that macOS has no cursor for: they are loaded as assets. -/
def isAsset (p : AppPlatform) (msgInfo : ℤ) : Bool :=
  p.isMacos ∧ (msgInfo = 32642 ∨ msgInfo = 32643)

def remoteCursor (p : AppPlatform) (msgInfo : ℤ) : MouseCursor :=
  if isAsset p msgInfo then .custom msgInfo
  else .system ((systemMouseCursors.lookup msgInfo).getD .basic)

/-- The mouse drawn on the screen of a phone. -/
structure OnScreenRemoteMouse where
  cursorImages : List ℤ
  hash : ℤ
  deriving DecidableEq, Repr

/-- The controller with the static fields it shares with the others. -/
structure InputController where
  screenId : ℤ
  isCursorLocked : Bool
  isCursorLockedbySyncMouse : Bool
  blockCursorMove : Bool
  blockNextAbsl : ℕ
  lastAbslMoveTime : ℤ
  cachedCursors : List ℤ
  mouse : OnScreenRemoteMouse
  autoHideLocalCursor : Bool
  canControlOtherMonitors : Bool
  deriving DecidableEq, Repr

inductive Effect where
  | setCursor (cursor : MouseCursor)
  | registerIncomingCursor (width height hotx hoty hash : ℤ) (data : List UInt8)
  | lockCursor
  | unlockCursor
  | addCursorMoved
  | removeCursorMoved
  | addCursorPressed
  | removeCursorPressed
  | addCursorWheel
  | removeCursorWheel
  | cursorPosition (x y : Coordinate)
  | setShowCursor (shown : Bool)
  | setAbsolutePosition (x y : Coordinate)
  | moveAbsl (x y : Coordinate)
  /-- A timer of 200 ms sets `blockCursorMove` back. -/
  | unblockCursorMove
  deriving DecidableEq, Repr

/-- The closure that `unlockCursor` is followed by. -/
structure Continuation where
  buffer : List UInt8
  msgInfo : ℤ
  deriving DecidableEq, Repr

/-- What a handler leaves behind and the calls it makes. -/
structure Change where
  controller : InputController
  effects : List Effect
  deriving DecidableEq, Repr

structure Outcome (κ : Type) extends Change where
  later : Option κ
  deriving DecidableEq, Repr

def done {κ : Type} (c : Change) : Outcome κ := ⟨c,none⟩

/-! Coordinates are compared with 0.02 and 0.98, both as doubles. -/

/-- The number that the bits stand for, none for an infinity or no number. -/
def float32Value (x : Coordinate) : Option ℚ :=
  let exponent := x.toNat/2^23%2^8
  let fraction : ℚ := (x.toNat%2^23 : ℕ)/2^23
  let sign : ℚ := if x.toNat/2^31 = 0 then 1 else -1
  if exponent = 255 then none
  else if exponent = 0 then some (sign*fraction/2^126)
  else some (sign*(1+fraction)*2^exponent/2^127)

def inner (x : Coordinate) : Bool :=
  match float32Value x with
  | none => false
  | some q => q < 8827055269646172/2^53 ∧ 5764607523034235/2^58 < q

/-- The exact float for one half. -/
def half : Coordinate := 0x3F000000

section
variable (p : AppPlatform) (s : InputController)

def ignored : Change := ⟨s,[]⟩

/-! The cursor drawn on the screen of a phone. -/

def hideDrawn : Change := ⟨{s with isCursorLocked := true},[.setShowCursor false]⟩

/-- The cursor appears at a position of this screen, or on another screen. -/
def showDrawn (position : Option (Coordinate × Coordinate)) : Change :=
  ⟨{s with isCursorLocked := false, blockCursorMove := true},
    (match position with
      | some (x, y) => [.setAbsolutePosition x y, .setShowCursor true]
      | none => [.setShowCursor false])++[.unblockCursorMove]⟩

def moveDrawn (msgscreenId : ℤ) (x y : Coordinate) : Change :=
  if s.screenId = msgscreenId then ⟨s,[.setShowCursor true, .moveAbsl x y]⟩
  else if inner x && inner y then ⟨s,[.setShowCursor false]⟩
  else ignored s

/-- `_decodeCursorBuffer` on a shape known by its hash. -/
def chooseDrawn (msgInfo : ℤ) : Change :=
  ⟨if msgInfo ∈ s.mouse.cursorImages then {s with mouse.hash := msgInfo} else s,[]⟩

/-! The cursor of a desktop or a browser. -/

def chooseCached (msgInfo : ℤ) : Change :=
  ⟨s,if msgInfo ∈ s.cachedCursors then [.setCursor (.custom msgInfo)] else []⟩

def chooseDefault (msgInfo : ℤ) : Change :=
  ⟨if isAsset p msgInfo ∧ msgInfo ∉ s.cachedCursors then
      {s with cachedCursors := msgInfo::s.cachedCursors} else s,
    [.setCursor (remoteCursor p msgInfo)]⟩

def hide : Change :=
  if s.isCursorLocked then ignored s
  else ⟨{s with isCursorLocked := true},[.lockCursor, .addCursorMoved]++
    (if p.isWeb then [.addCursorPressed, .addCursorWheel] else [])⟩

def startShowing {κ : Type} (later : κ) : Outcome κ :=
  if s.isCursorLocked then
    ⟨⟨{s with isCursorLocked := false, blockCursorMove := true},[.unlockCursor]⟩,some later⟩
  else done (ignored s)

def afterUnlock (position : Option (Coordinate × Coordinate)) : List Effect :=
  (match position with
    | some (x, y) => if p.isDeskTop then [.cursorPosition x y] else []
    | none => [])++[.unblockCursorMove, .removeCursorMoved]++
    (if p.isWeb then [.removeCursorPressed, .removeCursorWheel] else [])

def moveCursor (now msgscreenId : ℤ) (x y : Coordinate) : Change :=
  if s.screenId = msgscreenId then
    if p.isDeskTop && (!s.isCursorLocked || s.isCursorLockedbySyncMouse) &&
        1000 < now-s.lastAbslMoveTime then
      -- the mouse comes back from another screen
      if s.isCursorLocked then
        ⟨{s with isCursorLockedbySyncMouse := false, isCursorLocked := false,
                 blockNextAbsl := s.blockNextAbsl+1},
          [.unlockCursor, .removeCursorMoved, .cursorPosition x y]⟩
      else ⟨{s with blockNextAbsl := s.blockNextAbsl+1},[.cursorPosition x y]⟩
    else ignored s
  else if s.canControlOtherMonitors && p.isDeskTop && !s.isCursorLocked &&
      !s.isCursorLockedbySyncMouse && (inner x && inner y) then
    ⟨{s with isCursorLockedbySyncMouse := true, isCursorLocked := true,
             blockNextAbsl := s.blockNextAbsl+1},
      [.cursorPosition half half, .lockCursor, .addCursorMoved]⟩
  else ignored s

end

/-- The loops over the bytes of a raw image's header. -/
def number (buffer : List UInt8) (i : ℕ) : Option ℤ :=
  (read buffer i 4).map fun bs => (bs.foldl (fun n b => n*256+b.toNat) 0 : ℕ)

/-- The setter of the drawn mouse's buffer, an image being decoded at once. -/
def decodeCursorBuffer (sim : HardwareSimulator) (s : InputController) (buffer : List UInt8) :
    Option (Outcome Continuation) := do
  let kind ← getUint8 buffer 0
  if kind = LP_MOUSECURSOR_CHANGED then
    let message ← getInt32 buffer 1 .big
    let msgInfo ← getInt32 buffer 5 .big
    if message = sim.code .CURSOR_UPDATED_CACHED then some (done (chooseDrawn s msgInfo))
    else some (done (ignored s))
  else if kind = LP_MOUSECURSOR_CHANGED_WITHBUFFER then
    let _ ← number buffer 1
    let _ ← number buffer 5
    let _ ← number buffer 9
    let _ ← number buffer 13
    let hash ← number buffer 17
    some (done ⟨{s with mouse := ⟨hash::s.mouse.cursorImages,hash⟩},[]⟩)
  else some (done (ignored s))

def handleCursorUpdateMobile (sim : HardwareSimulator) (now : ℤ) (s : InputController)
    (buffer : List UInt8) : Option (Outcome Continuation) := do
  let message ← getInt32 buffer 1 .big
  if message = sim.code .CURSOR_INVISIBLE ∧ s.autoHideLocalCursor then some (done (hideDrawn s))
  else if message = sim.code .CURSOR_VISIBLE ∧ s.autoHideLocalCursor then
    if !s.isCursorLocked then some (done (ignored s))
    else if 10 < buffer.length then
      let msgscreenId ← getInt32 buffer 5 .big
      if s.screenId = msgscreenId then
        let xPercent ← getFloat32 buffer 9 .little
        let yPercent ← getFloat32 buffer 13 .little
        some (done (showDrawn s (some (xPercent,yPercent))))
      else some (done (showDrawn s none))
    else some (done ⟨{s with isCursorLocked := false},[.setShowCursor true]⟩)
  else if message = sim.code .CURSOR_POSITION_CHANGED then
    if !s.isCursorLocked && 1000 < now-s.lastAbslMoveTime then
      let msgscreenId ← getInt32 buffer 5 .big
      let xPercent ← getFloat32 buffer 9 .little
      let yPercent ← getFloat32 buffer 13 .little
      some (done (moveDrawn s msgscreenId xPercent yPercent))
    else some (done (ignored s))
  else decodeCursorBuffer sim s buffer

def handleCursorUpdateDesktop (sim : HardwareSimulator) (p : AppPlatform) (now : ℤ)
    (s : InputController) (buffer : List UInt8) : Option (Outcome Continuation) := do
  let kind ← getUint8 buffer 0
  if kind = LP_MOUSECURSOR_CHANGED_WITHBUFFER then
    let width ← number buffer 1
    let height ← number buffer 5
    let hotx ← number buffer 9
    let hoty ← number buffer 13
    let hash ← number buffer 17
    some (done ⟨{s with cachedCursors := hash::s.cachedCursors},
      [.registerIncomingCursor width height hotx hoty hash (buffer.drop 21),
        .setCursor (.custom hash)]⟩)
  else
    let message ← getInt32 buffer 1 .big
    let msgInfo ← getInt32 buffer 5 .big
    if message = sim.code .CURSOR_UPDATED_CACHED then some (done (chooseCached s msgInfo))
    else if message = sim.code .CURSOR_UPDATED_DEFAULT then some (done (chooseDefault p s msgInfo))
    else if message = sim.code .CURSOR_INVISIBLE ∧ s.autoHideLocalCursor then some (done (hide p s))
    else if message = sim.code .CURSOR_VISIBLE ∧ s.autoHideLocalCursor then
      some (startShowing s ⟨buffer,msgInfo⟩)
    else if message = sim.code .CURSOR_POSITION_CHANGED then
      let msgscreenId ← getInt32 buffer 5 .big
      let xPercent ← getFloat32 buffer 9 .little
      let yPercent ← getFloat32 buffer 13 .little
      some (done (moveCursor p s now msgscreenId xPercent yPercent))
    else some (done (ignored s))

def handleCursorUpdate (sim : HardwareSimulator) (p : AppPlatform) (now : ℤ)
    (s : InputController) (buffer : List UInt8) : Option (Outcome Continuation) :=
  if p.isMobile then handleCursorUpdateMobile sim now s buffer
  else handleCursorUpdateDesktop sim p now s buffer

/-- The closure runs once the cursor is free. -/
def resume (p : AppPlatform) (screenId : ℤ) (k : Continuation) : Option (List Effect) :=
  if 10 < k.buffer.length ∧ screenId = k.msgInfo then do
    let xPercent ← getFloat32 k.buffer 9 .little
    let yPercent ← getFloat32 k.buffer 13 .little
    some (afterUnlock p (some (xPercent,yPercent)))
  else some (afterUnlock p none)

end CloudPlay.CursorUpdates
