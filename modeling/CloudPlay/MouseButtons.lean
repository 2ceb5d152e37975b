import CloudPlay.StuckButtons

/-!
# Mouse buttons beside the fingers

The renderer keeps a flag for each mouse button and tells the host when an event of the
mouse disagrees with it. The fingers and the mouse on the screen use the flags of the left
and the right button too. A mobile system reports the mouse only when a button is let go,
and iOS names the middle button by none at all.
-/

set_option autoImplicit false

namespace CloudPlay.MouseButtons
open PressLog TransitionRun TouchInput

inductive AppPlatform
  | desktop | web | android | ios
  deriving DecidableEq

def AppPlatform.isMobile : AppPlatform → Bool
  | .android | .ios => true
  | _ => false

def AppPlatform.isIOS : AppPlatform → Bool
  | .ios => true
  | _ => false

inductive Button
  | left | middle | right | back | forward
  deriving DecidableEq

/-- The number of the button in a request. -/
def Button.id : Button → ℕ
  | .left => 1
  | .middle => 2
  | .right => 3
  | .back => 4
  | .forward => 5

/-- The bit of the button in an event, as in `kPrimaryMouseButton`. -/
def Button.mask : Button → ℕ
  | .left => 0x01
  | .right => 0x02
  | .middle => 0x04
  | .back => 0x08
  | .forward => 0x10

def has (buttons : ℕ) (b : Button) : Bool := buttons &&& b.mask ≠ 0

/-- The renderer with the flags that the fingers do not use. -/
structure Renderer where
  touch : TouchInput.State := {}
  middleButtonDown : Bool := false
  backButtonDown : Bool := false
  forwardButtonDown : Bool := false
  deriving DecidableEq

namespace Renderer

def down (r : Renderer) : Button → Bool
  | .left => r.touch.screen.leftButtonDown
  | .middle => r.middleButtonDown
  | .right => r.touch.screen.rightButtonDown
  | .back => r.backButtonDown
  | .forward => r.forwardButtonDown

def setScreen (s : VideoScreen) (r : Renderer) : Renderer :=
  {r with touch := {r.touch with screen := s}}

def setDown (v : Bool) (r : Renderer) : Button → Renderer
  | .left => r.setScreen {r.touch.screen with leftButtonDown := v}
  | .middle => {r with middleButtonDown := v}
  | .right => r.setScreen {r.touch.screen with rightButtonDown := v}
  | .back => {r with backButtonDown := v}
  | .forward => {r with forwardButtonDown := v}

def requestMouseClick (b : Button) (v : Bool) (r : Renderer) : Renderer :=
  {r with touch := {r.touch with sent := r.touch.sent ++ [(b.id,v)]}}

def press (b : Button) (v : Bool) (r : Renderer) : Renderer :=
  (r.setDown v b).requestMouseClick b v

/-- One comparison of an event with a flag. -/
def toggle (b : Button) (wanted : Bool) (r : Renderer) : Renderer :=
  if wanted ≠ r.down b then r.press b (!r.down b) else r

def letGo (b : Button) (named : Bool) (r : Renderer) : Renderer :=
  if named then r.press b false else r

def syncMouseButtonState (platform : AppPlatform) (buttons : ℕ) (r : Renderer) : Renderer :=
  let r := r.toggle .left (has buttons .left)
  let r := r.toggle .right (has buttons .right)
  let r := if platform.isIOS then r.toggle .middle (buttons = 0) else r
  let r := r.toggle .middle (has buttons .middle)
  let r := r.toggle .back (has buttons .back)
  r.toggle .forward (has buttons .forward)

def syncMouseButtonStateUP (buttons : ℕ) (r : Renderer) : Renderer :=
  let r := r.letGo .left (has buttons .left)
  let r := r.letGo .right (has buttons .right)
  let r := r.letGo .middle (buttons = 0)
  let r := r.letGo .middle (has buttons .middle)
  let r := r.letGo .back (has buttons .back)
  r.letGo .forward (has buttons .forward)

def mouseDown (platform : AppPlatform) (buttons : ℕ) (r : Renderer) : Renderer :=
  if platform.isMobile then r else r.syncMouseButtonState platform buttons

def mouseUp (platform : AppPlatform) (buttons : ℕ) (r : Renderer) : Renderer :=
  if platform.isMobile then r.syncMouseButtonStateUP buttons
  else r.syncMouseButtonState platform buttons

def mouseMove (platform : AppPlatform) (buttons : ℕ) (r : Renderer) : Renderer :=
  if r.touch.screen.mouseTouchMode = .leftClick then r.syncMouseButtonState platform buttons
  else r

/-- A button that is down is released when the mouse is cancelled. -/
def release (b : Button) (r : Renderer) : Renderer :=
  if r.down b then r.press b false else r

def forgetPosition (r : Renderer) : Renderer :=
  r.setScreen {r.touch.screen with lastTouchpadPosition := none}

def mouseCancel (mode : TouchInputMode) (r : Renderer) : Renderer :=
  let r := r.release .left
  let r := r.release .right
  let r := r.release .middle
  let r := r.release .back
  let r := r.release .forward
  if mode = .touchpad then r.forgetPosition else r

def pressed (b : Button) (r : Renderer) : Renderer :=
  if r.down b = false then r.press b (!r.down b) else r

def released (b : Button) (r : Renderer) : Renderer :=
  if r.down b = true then r.press b (!r.down b) else r

def onLeftPressed : Renderer → Renderer := pressed .left
def onLeftReleased : Renderer → Renderer := released .left
def onRightPressed : Renderer → Renderer := pressed .right
def onRightReleased : Renderer → Renderer := released .right

/-- What the requests sent so far make of a button at the host. -/
def holds (r : Renderer) (b : Button) : Bool := held b.id r.touch.sent

end Renderer

/-- An event of the mouse with the buttons it reports, or a press or release of a button of
the mouse on the screen. -/
inductive MouseEvent
  | down (buttons : ℕ)
  | up (buttons : ℕ)
  | move (buttons : ℕ)
  | cancel
  | leftPressed
  | leftReleased
  | rightPressed
  | rightReleased

inductive Input
  | touch (e : TouchInput.Event)
  | mouse (e : MouseEvent)

def Renderer.handle (platform : AppPlatform) (mode : TouchInputMode) (r : Renderer) :
    MouseEvent → Renderer
  | .down buttons => r.mouseDown platform buttons
  | .up buttons => r.mouseUp platform buttons
  | .move buttons => r.mouseMove platform buttons
  | .cancel => r.mouseCancel mode
  | .leftPressed => r.onLeftPressed
  | .leftReleased => r.onLeftReleased
  | .rightPressed => r.onRightPressed
  | .rightReleased => r.onRightReleased

def step (platform : AppPlatform) (mode : TouchInputMode) : Input → Renderer → Renderer
  | .touch e, r => {r with touch := TouchInput.step mode e r.touch}
  | .mouse e, r => r.handle platform mode e

/-- A mobile system names the button as one let go. -/
def named (buttons : ℕ) (b : Button) : Bool := has buttons b || (b = .middle && buttons = 0)

/-- How a flag is set: by a finger, after a comparison with it, or without one. -/
inductive Teller
  | finger | report | release
  deriving DecidableEq

def teller (platform : AppPlatform) : MouseEvent → Teller
  | .up _ => if platform.isMobile then .release else .report
  | _ => .report

/-- What an event of the mouse says about a button. -/
def said (platform : AppPlatform) (r : Renderer) (b : Button) : MouseEvent → Option Bool
  | .down buttons => if platform.isMobile then none else some (has buttons b)
  | .up buttons =>
      if platform.isMobile then if named buttons b then some false else none
      else some (has buttons b)
  | .move buttons =>
      if r.touch.screen.mouseTouchMode = .leftClick then some (has buttons b) else none
  | .cancel => some false
  | .leftPressed => if b = .left then some true else none
  | .leftReleased => if b = .left then some false else none
  | .rightPressed => if b = .right then some true else none
  | .rightReleased => if b = .right then some false else none

def modeButton : MouseMode → Option Button
  | .leftClick => some .left
  | .rightClick => some .right
  | .move => none

/-- What a touch says about a button in mouse mode. In touch mode it says nothing. -/
def fingered (mode : TouchInputMode) (c : TouchInput.State) :
    TouchInput.Event → Option (Button × Bool)
  | .down event hasRenderBox =>
      if mode = .mouse ∧ event.pointer ∉ c.fingers ∧ hasRenderBox then
        (modeButton c.screen.mouseTouchMode).map fun b => (b,true)
      else none
  | .up event =>
      if mode = .mouse ∧ event.pointer ∈ c.fingers then
        (modeButton c.screen.mouseTouchMode).map fun b => (b,false)
      else none
  | .cancel event =>
      if mode = .mouse ∧ event.pointer ∈ c.fingers then
        (modeButton c.screen.mouseTouchMode).map fun b => (b,false)
      else none
  | _ => none

def Renderer.point (c : Option (Button × Bool)) (r : Renderer) : Renderer :=
  match c with
  | none => r
  | some (b, v) => r.press b v

/-- The host does as the mouse and the fingers say, and nothing else. -/
def Followed (platform : AppPlatform) (mode : TouchInputMode) : Input → Renderer → Prop
  | .touch e, r => ∀ b,
      (step platform mode (.touch e) r).holds b = (r.point (fingered mode r.touch e)).holds b
  | .mouse e, r => ∀ b, (r.handle platform mode e).holds b = (said platform r b e).getD (r.holds b)

theorem teller_mouse (platform : AppPlatform) (e : MouseEvent) :
    teller platform e = .report ∨ teller platform e = .release := by
  unfold teller
  split
  · split
    · exact Or.inr rfl
    · exact Or.inl rfl
  · exact Or.inl rfl

section Flags
variable (r : Renderer) (b b' : Button) (v : Bool)

theorem Button.id_injective : Function.Injective Button.id := by
  intro b b' h
  cases b <;> cases b' <;> first | rfl | cases h

@[simp] theorem press_down : (r.press b v).down b' = if b' = b then v else r.down b' := by
  cases b <;> cases b' <;> rfl

@[simp] theorem press_sent : (r.press b v).touch.sent = r.touch.sent ++ [(b.id,v)] := by
  cases b <;> rfl

@[simp] theorem press_holds : (r.press b v).holds b' = if b' = b then v else r.holds b' := by
  rw [Renderer.holds, press_sent, held_concat, touch]
  by_cases h : b' = b
  · subst h
    simp
  · have hid : b.id ≠ b'.id := fun hid => h (Button.id_injective hid).symm
    rw [if_neg hid, if_neg h, Renderer.holds]

/-- The fingers and their delayed releases stay. -/
structure Framed (r r' : Renderer) : Prop where
  fingers : r'.touch.fingers = r.touch.fingers
  delayed : r'.touch.delayed = r.touch.delayed

theorem Framed.trans {r r' r'' : Renderer} (h : Framed r r') (h' : Framed r' r'') :
    Framed r r'' := ⟨h'.fingers.trans h.fingers,h'.delayed.trans h.delayed⟩

theorem press_framed : Framed r (r.press b v) := by cases b <;> exact ⟨rfl,rfl⟩

@[simp] theorem toggle_down :
    (r.toggle b v).down b' = if b' = b then v else r.down b' := by
  rw [Renderer.toggle]
  by_cases hv : v = r.down b
  · rw [if_neg (not_not_intro hv)]
    by_cases h : b' = b
    · rw [if_pos h, h, hv]
    · rw [if_neg h]
  · rw [if_pos hv, press_down, Bool.eq_not_of_ne hv]

theorem toggle_holds : (r.toggle b v).holds b' =
    if b' = b ∧ v ≠ r.down b then v else r.holds b' := by
  rw [Renderer.toggle]
  by_cases hv : v = r.down b
  · rw [if_neg (not_not_intro hv), if_neg (fun h => h.2 hv)]
  · rw [if_pos hv, press_holds, ← Bool.eq_not_of_ne hv]
    simp [hv]

@[simp] theorem letGo_down :
    (r.letGo b v).down b' = if v = true ∧ b' = b then false else r.down b' := by
  cases v
  · simp [Renderer.letGo]
  · simp [Renderer.letGo]

theorem letGo_holds :
    (r.letGo b v).holds b' = if v = true ∧ b' = b then false else r.holds b' := by
  cases v
  · simp [Renderer.letGo]
  · simp [Renderer.letGo]

theorem toggle_agrees (h : r.holds b' = r.down b') :
    (r.toggle b v).holds b' = (r.toggle b v).down b' := by
  rw [toggle_holds, toggle_down, h]
  split_ifs <;> simp_all

theorem toggle_framed : Framed r (r.toggle b v) := by
  rw [Renderer.toggle]
  split
  · exact press_framed r b _
  · exact ⟨rfl,rfl⟩

theorem letGo_framed : Framed r (r.letGo b v) := by
  rw [Renderer.letGo]
  split
  · exact press_framed r b _
  · exact ⟨rfl,rfl⟩

@[simp] theorem forgetPosition_down : r.forgetPosition.down b = r.down b := by cases b <;> rfl

theorem release_eq : r.release b = r.toggle b false := by
  rw [Renderer.release, Renderer.toggle]
  cases r.down b <;> rfl

theorem pressed_eq : r.pressed b = r.toggle b true := by
  rw [Renderer.pressed, Renderer.toggle]
  cases r.down b <;> rfl

theorem released_eq : r.released b = r.toggle b false := by
  rw [Renderer.released, Renderer.toggle]
  cases r.down b <;> rfl

end Flags

/-! What each comparison and each release keeps, every event of the mouse keeps. -/

section Events
variable {r : Renderer} {platform : AppPlatform} {mode : TouchInputMode} {P : Renderer → Prop}

theorem sync_preserves (ht : ∀ b v r, P r → P (r.toggle b v)) (buttons : ℕ) (h : P r) :
    P (r.syncMouseButtonState platform buttons) := by
  apply ht
  apply ht
  apply ht
  cases hios : platform.isIOS
  · exact ht _ _ _ (ht _ _ _ h)
  · exact ht _ _ _ (ht _ _ _ (ht _ _ _ h))

theorem syncUP_preserves (hl : ∀ b v r, P r → P (r.letGo b v)) (buttons : ℕ) (h : P r) :
    P (r.syncMouseButtonStateUP buttons) :=
  hl _ _ _ (hl _ _ _ (hl _ _ _ (hl _ _ _ (hl _ _ _ (hl _ _ _ h)))))

theorem handle_preserves (ht : ∀ b v r, P r → P (r.toggle b v))
    (e : MouseEvent) (hl : teller platform e = .release → ∀ b v r, P r → P (r.letGo b v))
    (hs : ∀ r, P r → P r.forgetPosition) (h : P r) : P (r.handle platform mode e) := by
  cases e with
  | down buttons =>
    simp only [Renderer.handle, Renderer.mouseDown]
    split
    · exact h
    · exact sync_preserves ht buttons h
  | up buttons =>
    simp only [Renderer.handle, Renderer.mouseUp]
    split
    · rename_i hm
      exact syncUP_preserves (hl (if_pos hm)) buttons h
    · exact sync_preserves ht buttons h
  | move buttons =>
    simp only [Renderer.handle, Renderer.mouseMove]
    split
    · exact sync_preserves ht buttons h
    · exact h
  | cancel =>
    simp only [Renderer.handle, Renderer.mouseCancel, release_eq]
    have hall := ht .forward false _ (ht .back false _ (ht .middle false _
      (ht .right false _ (ht .left false _ h))))
    split
    · exact hs _ hall
    · exact hall
  | leftPressed =>
    rw [Renderer.handle, Renderer.onLeftPressed, pressed_eq]
    exact ht _ _ r h
  | leftReleased =>
    rw [Renderer.handle, Renderer.onLeftReleased, released_eq]
    exact ht _ _ r h
  | rightPressed =>
    rw [Renderer.handle, Renderer.onRightPressed, pressed_eq]
    exact ht _ _ r h
  | rightReleased =>
    rw [Renderer.handle, Renderer.onRightReleased, released_eq]
    exact ht _ _ r h

theorem handle_framed (e : MouseEvent) : Framed r (r.handle platform mode e) :=
  handle_preserves (fun b v r' h => h.trans (toggle_framed r' b v)) e
    (fun _ b v r' h => h.trans (letGo_framed r' b v)) (fun _ h => ⟨h.1,h.2⟩) ⟨rfl,rfl⟩

/-- A flag that says what the host holds goes on to. -/
theorem handle_agrees {b : Button} (e : MouseEvent) (h : r.holds b = r.down b) :
    (r.handle platform mode e).holds b = (r.handle platform mode e).down b := by
  refine handle_preserves (P := fun r => r.holds b = r.down b) ?_ e ?_ ?_ h
  · exact fun b' v r h => toggle_agrees r b' b v h
  · intro _ b' v r h
    rw [letGo_holds, letGo_down, h]
  · intro r h
    rwa [forgetPosition_down]

@[simp] theorem has_zero (b : Button) : has 0 b = false := by
  rw [has, Nat.zero_and]
  rfl

theorem sync_down (buttons : ℕ) (b : Button) :
    (r.syncMouseButtonState platform buttons).down b = has buttons b := by
  cases b <;> cases hios : platform.isIOS <;> simp [Renderer.syncMouseButtonState, hios]

theorem syncUP_down (buttons : ℕ) (b : Button) :
    (r.syncMouseButtonStateUP buttons).down b =
      if named buttons b then false else r.down b := by
  cases b <;> simp [Renderer.syncMouseButtonStateUP, named, Bool.and_assoc]

/-- After an event the flags are what it says. -/
theorem handle_down (e : MouseEvent) (b : Button) :
    (r.handle platform mode e).down b = (said platform r b e).getD (r.down b) := by
  cases e with
  | down buttons =>
    simp only [Renderer.handle, Renderer.mouseDown, said]
    split
    · rfl
    · exact sync_down buttons b
  | up buttons =>
    simp only [Renderer.handle, Renderer.mouseUp, said]
    split
    · rw [syncUP_down]
      split <;> rfl
    · exact sync_down buttons b
  | move buttons =>
    simp only [Renderer.handle, Renderer.mouseMove, said]
    split
    · exact sync_down buttons b
    · rfl
  | cancel =>
    simp only [Renderer.handle, Renderer.mouseCancel, said, release_eq]
    split <;> cases b <;> simp
  | leftPressed =>
    rw [Renderer.handle, Renderer.onLeftPressed, pressed_eq, toggle_down, said]
    split <;> rfl
  | leftReleased =>
    rw [Renderer.handle, Renderer.onLeftReleased, released_eq, toggle_down, said]
    split <;> rfl
  | rightPressed =>
    rw [Renderer.handle, Renderer.onRightPressed, pressed_eq, toggle_down, said]
    split <;> rfl
  | rightReleased =>
    rw [Renderer.handle, Renderer.onRightReleased, released_eq, toggle_down, said]
    split <;> rfl

end Events

end CloudPlay.MouseButtons
