import CloudPlay.ScaledView
import CloudPlay.TouchInput
import Mathlib.Algebra.Order.Field.Basic
import Mathlib.Algebra.Order.Field.Rat
import Mathlib.Tactic.Linarith

/-!
# Two fingers on the remote screen

Two fingers on the touchpad scroll the host or zoom the picture, whichever they do first.
The picture is zoomed around the point between the fingers and moves along with it, and a
position on the screen is turned into one of the picture. A scroll that ends fast goes on
by itself. What the distance of two points is rounded to is left open.
-/

set_option autoImplicit false

namespace CloudPlay.TwoFingerGestures
open TouchInput TransitionRun ScaledView

inductive TwoFingerGestureType
  | undecided | zoom | scroll
  deriving DecidableEq

/-- What has been scrolled since the scroll began, and the tickers that run; one that is
replaced runs on. -/
structure SmoothScrollController where
  accumulatedx : ℤ := 0
  accumulatedy : ℤ := 0
  scrollStartTime : ℤ := 0
  ticker : Bool := false
  running : ℕ := 0
  scrolled : List Offset := []

namespace SmoothScrollController

def stopFling (c : SmoothScrollController) : SmoothScrollController :=
  if c.ticker then {c with ticker := false, running := c.running-1} else c

def startScroll (now : ℤ) (c : SmoothScrollController) : SmoothScrollController :=
  {c.stopFling with accumulatedx := 0, accumulatedy := 0, scrollStartTime := now}

/-- `toInt`, which cuts off toward zero. -/
def toInt (q : ℚ) : ℤ := q.num.tdiv q.den

def doScroll (dx dy : ℚ) (c : SmoothScrollController) : SmoothScrollController :=
  let dx := if |dx| < 2 then 0 else dx
  let dy := if |dy| < 1 then 0 else dy
  let dy := if |dy| < 2 then dy/2 else dy
  { c with
    accumulatedx := c.accumulatedx+toInt dx
    accumulatedy := c.accumulatedy+toInt dy
    scrolled := c.scrolled ++ [⟨dx/2,dy⟩] }

/-- The times are in milliseconds and the speeds in pixels a second. -/
def startFling (now : ℤ) (c : SmoothScrollController) : SmoothScrollController :=
  let elapsed := now-c.scrollStartTime
  if elapsed = 0 then c
  else if |1000*c.accumulatedx| < 50*|elapsed| ∧ |1000*c.accumulatedy| < 50*|elapsed| then c
  else {c with ticker := true, running := c.running+1}

end SmoothScrollController

/-- The box of the picture, and where a point of the screen lies in it. -/
structure RenderBox where
  globalToLocal : Offset → Offset
  width : ℚ
  height : ℚ

structure StreamingSettings where
  touchpadTwoFingerScroll : Bool
  touchpadTwoFingerZoom : Bool

/-- The fields of the renderer that two fingers change, beside those of the buttons. -/
structure Renderer where
  screen : VideoScreen := {}
  lastPinchDistance : Option ℚ := none
  initialPinchDistance : Option ℚ := none
  initialTwoFingerCenter : Option Offset := none
  pinchFocalPoint : Option Offset := none
  lastPinchFocalPoint : Option Offset := none
  twoFingerGestureType : TwoFingerGestureType := .undecided
  isTwoFingerScrolling : Bool := false
  videoScale : ℚ := 1
  videoOffset : Offset := ⟨0,0⟩
  scrollController : SmoothScrollController := {}

def Renderer.withScreen (screen : VideoScreen) (s : Renderer) : Renderer :=
  {s with screen := screen}

def clamp (q low high : ℚ) : ℚ := max low (min q high)

section Positions
variable (box : RenderBox) (s : Renderer)

def toVideo (p : Offset) : Offset where
  dx := locate (box.width/2) s.videoOffset.dx s.videoScale p.dx
  dy := locate (box.height/2) s.videoOffset.dy s.videoScale p.dy

/-- Where the video view draws a point of the picture: scaled about its centre, then
moved. -/
def drawn (v : Offset) : Offset where
  dx := place (box.width/2) s.videoOffset.dx s.videoScale v.dx
  dy := place (box.height/2) s.videoOffset.dy s.videoScale v.dy

def calculatePositionPercent (globalPosition : Offset) : Offset :=
  let localPosition := box.globalToLocal globalPosition
  let localPosition :=
    if s.videoScale ≠ 1 ∨ s.videoOffset ≠ ⟨0,0⟩ then toVideo box s localPosition
    else localPosition
  ⟨clamp (localPosition.dx/box.width) 0 1,clamp (localPosition.dy/box.height) 0 1⟩

end Positions

section Handlers
variable (settings : StreamingSettings) (distance : Offset → Offset → ℚ) (box : RenderBox)

def pinchDistance (s : Renderer) : ℚ :=
  match s.screen.touchpadPointers with
  | [a, b] => distance a.2 b.2
  | _ => 0

def handleTouchpadDown (event : PointerEvent) (s : Renderer) : Renderer :=
  let s := s.withScreen (TouchInput.handleTouchpadDown s.screen event).screen
  match s.screen.touchpadPointers with
  | [a, b] =>
    { s with
      initialTwoFingerCenter := some (middle a.2 b.2)
      initialPinchDistance := some (distance a.2 b.2)
      lastPinchDistance := some (distance a.2 b.2)
      pinchFocalPoint := some (middle a.2 b.2)
      lastPinchFocalPoint := none
      twoFingerGestureType := .undecided
      scrollController := s.scrollController.startScroll event.now
      isTwoFingerScrolling := true }
  | _ => s

/-- The scale and the offset that a change of the scale leads to. -/
def zoomed (newScale : ℚ) (s : Renderer) : Renderer :=
  if newScale = 1 then {s with videoScale := 1, videoOffset := ⟨0,0⟩}
  else
    match s.pinchFocalPoint with
    | some focal =>
      let localFocal := box.globalToLocal focal
      let delta : Offset :=
        match s.lastPinchFocalPoint with
        | some last => ⟨localFocal.dx-(box.globalToLocal last).dx,
            localFocal.dy-(box.globalToLocal last).dy⟩
        | none => ⟨0,0⟩
      { s with
        videoOffset :=
          ⟨refocused (box.width/2) s.videoOffset.dx s.videoScale newScale localFocal.dx+delta.dx,
            refocused (box.height/2) s.videoOffset.dy s.videoScale newScale localFocal.dy+delta.dy⟩
        videoScale := newScale }
    | none => {s with videoScale := newScale}

def handlePinchZoom (s : Renderer) : Renderer :=
  if settings.touchpadTwoFingerZoom then
    match s.lastPinchDistance with
    | none => s
    | some last =>
      if last = 0 then s
      else
        let scaleChange := pinchDistance distance s/last
        let s' := zoomed box (clamp (s.videoScale*scaleChange) 1 5) s
        {s' with lastPinchFocalPoint := s.pinchFocalPoint}
  else s

def handleTwoFingerScroll (deltaX deltaY : ℚ) (s : Renderer) : Renderer :=
  if settings.touchpadTwoFingerScroll then
    {s with scrollController := s.scrollController.doScroll (-deltaX) deltaY}
  else s

/-- A ratio to an initial distance of zero is infinite unless the distance is zero too. -/
def decided (currentDistance initial : ℚ) (center initialCenter : Offset) :
    TwoFingerGestureType :=
  if (if initial = 0 then currentDistance ≠ 0
    else 1/5 < |currentDistance-initial|/initial) then .zoom
  else if 15 < distance center initialCenter then .scroll
  else .undecided

/-- The renderer when two fingers have moved, before it scrolls or zooms. -/
def moved (center : Offset) (gesture : TwoFingerGestureType) (s : Renderer) : Renderer :=
  {s with pinchFocalPoint := some center, twoFingerGestureType := gesture}

def measured (currentDistance : ℚ) (s : Renderer) : Renderer :=
  {s with lastPinchDistance := some currentDistance}

/-- What two fingers do once they have a last position. -/
def handleTwoFingerGesture (a b : Offset) (s : Renderer) : Renderer :=
  let center := middle a b
  let currentDistance := distance a b
  measured currentDistance
    (match s.screen.lastTouchpadPosition, s.lastPinchDistance, s.initialPinchDistance,
        s.initialTwoFingerCenter with
    | some last, some _, some initial, some initialCenter =>
      let gesture :=
        if s.twoFingerGestureType = .undecided then
          decided distance currentDistance initial center initialCenter
        else s.twoFingerGestureType
      let s := moved center gesture s
      match gesture with
      | .zoom => handlePinchZoom settings distance box s
      | .scroll => handleTwoFingerScroll settings (center.dx-last.dx) (center.dy-last.dy) s
      | .undecided => s
    | _, _, _, _ => moved center s.twoFingerGestureType s)

/-- The renderer keeps the new place of the finger, and the place between two fingers only
after the gesture. -/
def handleTouchpadMove (event : PointerEvent) (s : Renderer) : Renderer :=
  let touchpadPointers := s.screen.touchpadPointers.insert event.pointer event.position
  let handled :=
    match touchpadPointers with
    | [a, b] => handleTwoFingerGesture settings distance box a.2 b.2
        (s.withScreen {s.screen with touchpadPointers := touchpadPointers})
    | _ => s
  handled.withScreen (TouchInput.handleTouchpadMove s.screen event).screen

def forgetGesture (s : Renderer) : Renderer :=
  { s with
    lastPinchDistance := none
    initialPinchDistance := none
    initialTwoFingerCenter := none
    pinchFocalPoint := none
    lastPinchFocalPoint := none
    twoFingerGestureType := .undecided }

/-- The scroll ends under some condition, if there is one. -/
def endScroll (condition : Bool) (now : ℤ) (s : Renderer) : Renderer :=
  if condition && s.isTwoFingerScrolling then
    { s with
      scrollController := s.scrollController.startFling now
      isTwoFingerScrolling := false }
  else s

def handleTouchpadUp (event : PointerEvent) (s : Renderer) : Renderer :=
  let quick := isQuickTap s.screen event
  let tapped := endScroll (quick && s.screen.touchpadPointers.length = 2) event.now s
  let left := tapped.withScreen (TouchInput.handleTouchpadUp s.screen event).screen
  let ended := endScroll (!quick && left.screen.touchpadPointers.length < 2) event.now left
  if ended.screen.touchpadPointers.length < 2 then forgetGesture ended else ended

end Handlers

inductive Event
  | down (event : PointerEvent) (box : Option RenderBox)
  | move (event : PointerEvent) (box : Option RenderBox)
  | up (event : PointerEvent)
  | cancel (event : PointerEvent)
  | settled

/-- Without a render box a finger that comes down or moves is ignored. -/
def step (settings : StreamingSettings) (distance : Offset → Offset → ℚ) :
    Event → Renderer → Renderer
  | .down event box, s => if box.isSome then handleTouchpadDown distance event s else s
  | .move event box, s =>
    match box with
    | some box => handleTouchpadMove settings distance box event s
    | none => s
  | .up event, s => handleTouchpadUp event s
  | .cancel event, s =>
    let s := handleTouchpadUp event s
    s.withScreen {s.screen with lastTouchpadPosition := none}
  | .settled, s => {s with scrollController := s.scrollController.stopFling}

section Gestures
variable {settings : StreamingSettings} {distance : Offset → Offset → ℚ} {box : RenderBox}
  {s : Renderer}

variable (settings distance box) in
/-- Two fingers that move zoom, scroll or only leave their place behind. -/
theorem gesture_cases (a b : Offset) (s : Renderer) : ∃ gesture,
    handleTwoFingerGesture settings distance box a b s =
        measured (distance a b) (moved (middle a b) gesture s) ∨
      handleTwoFingerGesture settings distance box a b s =
        measured (distance a b)
          (handlePinchZoom settings distance box (moved (middle a b) gesture s)) ∨
      s.initialPinchDistance.isSome ∧ ∃ deltaX deltaY,
        handleTwoFingerGesture settings distance box a b s =
          measured (distance a b)
            (handleTwoFingerScroll settings deltaX deltaY (moved (middle a b) gesture s)) := by
  unfold handleTwoFingerGesture
  simp only
  split
  · rename_i last pinch initial initialCenter hlast hpinch hinitial hcenter
    generalize (if s.twoFingerGestureType = .undecided then
      decided distance (distance a b) initial (middle a b) initialCenter
      else s.twoFingerGestureType) = gesture
    refine ⟨gesture,?_⟩
    cases gesture with
    | undecided => exact Or.inl rfl
    | zoom => exact Or.inr (Or.inl rfl)
    | scroll => exact Or.inr (Or.inr ⟨by rw [hinitial]; rfl,_,_,rfl⟩)
  · exact ⟨s.twoFingerGestureType,Or.inl rfl⟩

/-- What the parts of the handler keep, the handler keeps. -/
theorem up_preserves {P : Renderer → Prop}
    (hscroll : ∀ condition now s, P s → P (endScroll condition now s))
    (hscreen : ∀ screen s, P s → P (s.withScreen screen)) (hforget : ∀ s, P s → P (forgetGesture s))
    (event : PointerEvent) (h : P s) : P (handleTouchpadUp event s) := by
  have hended (condition : Bool) : P (endScroll condition event.now
      ((endScroll (isQuickTap s.screen event && s.screen.touchpadPointers.length = 2) event.now
        s).withScreen (TouchInput.handleTouchpadUp s.screen event).screen)) :=
    hscroll _ _ _ (hscreen _ _ (hscroll _ _ _ h))
  unfold handleTouchpadUp
  simp only
  split
  · exact hforget _ (hended _)
  · exact hended _

end Gestures

end CloudPlay.TwoFingerGestures
