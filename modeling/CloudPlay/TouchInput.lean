import CloudPlay.PressLog
import CloudPlay.TransitionRun
import Mathlib.Algebra.Order.Ring.Unbundled.Rat

/-!
# Touches on the remote screen

The renderer turns touches into mouse buttons of the host. In mouse mode a
finger presses the button of the current mouse mode and lifting it releases the
button of the mode then current. In touchpad mode a quick tap clicks, with its
release delayed, and a long press starts a drag. Buttons are numbered as in the
requests, 1 for the left and 3 for the right one. Moves of the cursor, scrolling
and zooming press no button and are left out.
-/

set_option autoImplicit false

namespace CloudPlay.TouchInput
open PressLog TransitionRun

inductive TouchInputMode where
  | touch
  | touchpad
  | mouse
  deriving DecidableEq, Repr

inductive MouseMode where
  | leftClick
  | rightClick
  | move
  deriving DecidableEq, Repr

structure Offset where
  dx : ℚ
  dy : ℚ
  deriving DecidableEq, Repr

/-- The two offsets are less than `d` apart. -/
def within (a b : Offset) (d : ℚ) : Bool := (a.dx-b.dx)^2+(a.dy-b.dy)^2 < d^2

/-- A map with keys in the order of their first insertion. -/
abbrev PointerMap (α : Type) := List (ℕ × α)

section
variable {α : Type} (m : PointerMap α) (pointer : ℕ)

def PointerMap.keys : List ℕ := m.map Prod.fst

def PointerMap.insert (value : α) : PointerMap α :=
  if pointer ∈ m.keys then m.map fun e => if e.1 = pointer then (pointer,value) else e
  else m ++ [(pointer,value)]

def PointerMap.remove : PointerMap α := m.filter fun e => e.1 ≠ pointer

theorem PointerMap.insert_keys (value : α) (h : pointer ∈ m.keys) :
    (m.insert pointer value).keys = m.keys := by
  rw [insert, if_pos h, keys, keys, List.map_map]
  apply List.map_congr_left
  intro e _
  by_cases he : e.1 = pointer <;> simp [he]

theorem PointerMap.insert_new (value : α) (h : pointer ∉ m.keys) :
    m.insert pointer value = m ++ [(pointer,value)] := if_neg h

theorem PointerMap.mem_keys_insert (value : α) (p : ℕ) :
    p ∈ (m.insert pointer value).keys ↔ p ∈ m.keys ∨ p = pointer := by
  by_cases h : pointer ∈ m.keys
  · rw [insert_keys m pointer value h]
    constructor
    · exact Or.inl
    · rintro (hp | rfl)
      · exact hp
      · exact h
  · rw [insert_new m pointer value h]
    simp [keys]

theorem PointerMap.insert_ne_nil (value : α) : m.insert pointer value ≠ [] := by
  intro h
  have hmem := (mem_keys_insert m pointer value pointer).mpr (Or.inr rfl)
  rw [h] at hmem
  cases hmem

theorem PointerMap.mem_keys_remove (p : ℕ) :
    p ∈ (m.remove pointer).keys ↔ p ∈ m.keys ∧ p ≠ pointer := by
  simp only [keys, remove, List.mem_map, List.mem_filter, decide_eq_true_eq]
  constructor
  · rintro ⟨e, ⟨he, hne⟩, rfl⟩
    exact ⟨⟨e,he,rfl⟩,hne⟩
  · rintro ⟨⟨e, he, rfl⟩, hne⟩
    exact ⟨e,⟨he,hne⟩,rfl⟩

end

/-- The fields of the renderer that decide about buttons. -/
structure VideoScreen where
  mouseTouchMode : MouseMode := .leftClick
  lastTouchMode : MouseMode := .leftClick
  leftButtonDown : Bool := false
  rightButtonDown : Bool := false
  lastTouchpadPosition : Option Offset := none
  touchpadPointers : PointerMap Offset := []
  touchpadPointerDownTime : PointerMap ℤ := []
  touchpadPointerDownPosition : PointerMap Offset := []
  isDragging : Bool := false
  draggingPointerId : Option ℕ := none
  deriving DecidableEq, Repr

/-- What a handler leaves behind: the clicks requested, and the buttons whose
release is delayed by 50 ms. -/
structure Handled where
  screen : VideoScreen
  clicks : List (ℕ × Bool) := []
  delayed : List ℕ := []
  deriving DecidableEq, Repr

/-- A touch on the screen at a time in milliseconds. -/
structure PointerEvent where
  pointer : ℕ
  position : Offset
  now : ℤ
  deriving DecidableEq, Repr

structure MouseModeEvent where
  currentMode : MouseMode
  isUnique : Bool
  isDown : Bool
  deriving DecidableEq, Repr

section
variable (s : VideoScreen) (event : PointerEvent)

def handleMouseModeDown : Handled :=
  match s.mouseTouchMode with
  | .leftClick => {screen := {s with leftButtonDown := true}, clicks := [(1,true)]}
  | .rightClick => {screen := {s with rightButtonDown := true}, clicks := [(3,true)]}
  | .move => {screen := s}

def handleMouseModeUp : Handled :=
  match s.mouseTouchMode with
  | .leftClick => {screen := {s with leftButtonDown := false}, clicks := [(1,false)]}
  | .rightClick => {screen := {s with rightButtonDown := false}, clicks := [(3,false)]}
  | .move => {screen := s}

def middle (a b : Offset) : Offset := ⟨(a.dx+b.dx)/2,(a.dy+b.dy)/2⟩

def handleTouchpadDown : Handled :=
  let s := {s with
    touchpadPointers := s.touchpadPointers.insert event.pointer event.position
    touchpadPointerDownTime := s.touchpadPointerDownTime.insert event.pointer event.now
    touchpadPointerDownPosition :=
      s.touchpadPointerDownPosition.insert event.pointer event.position}
  match s.touchpadPointers with
  | [_] => {screen := {s with
      lastTouchpadPosition := some event.position, isDragging := false, draggingPointerId := none}}
  | [a, b] => {screen := {s with lastTouchpadPosition := some (middle a.2 b.2)}}
  | _ => {screen := s}

def isQuickTap : Bool :=
  match s.touchpadPointerDownTime.lookup event.pointer,
      s.touchpadPointerDownPosition.lookup event.pointer with
  | some downTime, some downPosition =>
      event.now-downTime < 300 && within event.position downPosition 10
  | _, _ => false

/-- The button that a quick tap clicks, by the number of fingers. -/
def tappedButton : Option ℕ :=
  if isQuickTap s event then
    match s.touchpadPointers.length with
    | 1 => some 1
    | 2 => some 3
    | _ => none
  else none

def endDrag : Handled :=
  { screen := {s with leftButtonDown := false, isDragging := false, draggingPointerId := none}
    clicks := [(1,false)] }

/-- The finger that drags is lifted as the last one. -/
def endOwnDrag : Handled :=
  if s.isDragging && s.draggingPointerId = some event.pointer &&
      s.touchpadPointers.length = 1 then endDrag s
  else {screen := s}

def forgetPointer : VideoScreen :=
  {s with
    touchpadPointerDownTime := s.touchpadPointerDownTime.remove event.pointer
    touchpadPointerDownPosition := s.touchpadPointerDownPosition.remove event.pointer
    touchpadPointers := s.touchpadPointers.remove event.pointer}

def afterLift : Handled :=
  match s.touchpadPointers with
  | [] =>
      let s := {s with lastTouchpadPosition := none}
      if s.isDragging then endDrag s else {screen := s}
  | [e] => {screen := {s with lastTouchpadPosition := some e.2}}
  | _ => {screen := s}

def handleTouchpadUp : Handled :=
  let own := endOwnDrag s event
  let rest := afterLift (forgetPointer own.screen event)
  { screen := rest.screen
    clicks := (tappedButton s event).toList.map (fun button => (button,true)) ++
      own.clicks ++ rest.clicks
    delayed := (tappedButton s event).toList }

/-- The finger has been down for long and has not moved. -/
def startsDrag : Bool :=
  !s.isDragging && s.touchpadPointers.length = 1 &&
    match s.touchpadPointerDownTime.lookup event.pointer,
        s.touchpadPointerDownPosition.lookup event.pointer with
    | some downTime, some downPosition =>
        500 ≤ event.now-downTime && within event.position downPosition 5
    | _, _ => false

def handleSingleFingerMove : Handled :=
  match s.lastTouchpadPosition with
  | none => {screen := {s with lastTouchpadPosition := some event.position}}
  | some _ =>
      if startsDrag s event then
        { screen := {s with isDragging := true, draggingPointerId := some event.pointer,
                            leftButtonDown := true,
                            lastTouchpadPosition := some event.position}
          clicks := [(1,true)] }
      else {screen := {s with lastTouchpadPosition := some event.position}}

def handleTouchpadMove : Handled :=
  let s := {s with touchpadPointers := s.touchpadPointers.insert event.pointer event.position}
  match s.touchpadPointers with
  | [_] => handleSingleFingerMove s event
  | [a, b] => {screen := {s with lastTouchpadPosition := some (middle a.2 b.2)}}
  | _ => {screen := s}

/-! The handlers of the listener. Without a render box there is no position in
the video, and a finger that comes down or moves is ignored. -/

def handleTouchDown (mode : TouchInputMode) (hasRenderBox : Bool) : Handled :=
  if !hasRenderBox then {screen := s}
  else match mode with
    | .touch => {screen := {s with leftButtonDown := true}}
    | .touchpad => handleTouchpadDown s event
    | .mouse => handleMouseModeDown s

def handleTouchUp (mode : TouchInputMode) : Handled :=
  match mode with
  | .touch => {screen := {s with leftButtonDown := false}}
  | .touchpad => handleTouchpadUp s event
  | .mouse => handleMouseModeUp s

def handleTouchMove (mode : TouchInputMode) (hasRenderBox : Bool) : Handled :=
  if !hasRenderBox then {screen := s}
  else match mode with
    | .touchpad => handleTouchpadMove s event
    | _ => {screen := s}

def handleTouchCancel (mode : TouchInputMode) : Handled :=
  let handled := handleTouchUp s event mode
  if mode = .touchpad then
    {handled with screen := {handled.screen with lastTouchpadPosition := none}}
  else handled

def handleMouseModeEvent (event : MouseModeEvent) : VideoScreen :=
  if event.isUnique then
    if event.isDown then
      {s with lastTouchMode := s.mouseTouchMode, mouseTouchMode := event.currentMode}
    else {s with mouseTouchMode := s.lastTouchMode}
  else if event.isDown then {s with mouseTouchMode := event.currentMode}
  else s

end

/-- The renderer with the fingers on the screen, the delayed releases and the
clicks sent to the host, the oldest first. -/
structure State where
  screen : VideoScreen := {}
  fingers : List ℕ := []
  delayed : List ℕ := []
  sent : List (ℕ × Bool) := []
  deriving DecidableEq, Repr

inductive Event where
  | down (event : PointerEvent) (hasRenderBox : Bool)
  | move (event : PointerEvent) (hasRenderBox : Bool)
  | up (event : PointerEvent)
  | cancel (event : PointerEvent)
  | mouseMode (event : MouseModeEvent)
  | timer (i : ℕ)
  deriving DecidableEq, Repr

def State.after (c : State) (fingers : List ℕ) (handled : Handled) : State where
  screen := handled.screen
  fingers := fingers
  delayed := c.delayed ++ handled.delayed
  sent := c.sent ++ handled.clicks

/-- A finger comes down once, and moves and leaves only while it is down: other
events of a finger do not occur. -/
def step (mode : TouchInputMode) : Event → State → State
  | .down event hasRenderBox, c =>
      if event.pointer ∈ c.fingers then c
      else c.after (event.pointer::c.fingers) (handleTouchDown c.screen event mode hasRenderBox)
  | .move event hasRenderBox, c =>
      if event.pointer ∈ c.fingers then
        c.after c.fingers (handleTouchMove c.screen event mode hasRenderBox)
      else c
  | .up event, c =>
      if event.pointer ∈ c.fingers then
        c.after (c.fingers.erase event.pointer) (handleTouchUp c.screen event mode)
      else c
  | .cancel event, c =>
      if event.pointer ∈ c.fingers then
        c.after (c.fingers.erase event.pointer) (handleTouchCancel c.screen event mode)
      else c
  | .mouseMode event, c => {c with screen := handleMouseModeEvent c.screen event}
  | .timer i, c =>
      match c.delayed[i]? with
      | none => c
      | some button => {c with delayed := c.delayed.eraseIdx i, sent := c.sent ++ [(button,false)]}

end CloudPlay.TouchInput
