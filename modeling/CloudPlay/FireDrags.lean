import CloudPlay.OnScreenControls
import CloudPlay.RunTally
import Mathlib.Algebra.Group.Prod
import Mathlib.Tactic.Linarith
import Mathlib.Tactic.Ring

/-!
# Aiming with a fire button

A finger that moves on a fire button it holds moves the cursor. Moves of up to half a pixel
wait for more, so that the cursor keeps up with the finger however slowly it moves.
-/

set_option autoImplicit false

namespace CloudPlay.FireDrags
open OnScreenControls RunTally TransitionRun
open TouchInput (Offset)
open VirtualControls (ButtonKeys)

def moveOf : Request → Option (ℚ × ℚ)
  | .moveMouseRelative x y => some (x,y)
  | _ => none

/-- How far the requests have moved the cursor. -/
def cursor (r : Renderer) : ℚ × ℚ := (r.sent.filterMap moveOf).sum

section Moves
variable {ι κ : Type} (layout : Layout ι κ) (k : κ)

/-- How far a pixel of the button moves the cursor. -/
def sensitivity : ℚ := layout.touchpadSensitivity*10

/-- No finger comes down on the button or leaves it. -/
def Held : Event ι κ → Overlay ι κ → Prop
  | .down k' _, _ => k' ≠ k
  | .up k', _ => k' ≠ k
  | _, _ => True

/-- Where the button has moved the cursor to. -/
def level (s : Overlay ι κ) : ℚ × ℚ :=
  let last := ((s.button k).lastPosition).getD ⟨0,0⟩
  (sensitivity layout*last.dx,sensitivity layout*last.dy)

/-- The button is held, and a finger on it is near to where the button has last been told
of one. -/
structure Aiming (s : Overlay ι κ) (position : Offset) : Prop where
  pressed : (s.button k).isPressed = true
  fingers : s.fingers k ≠ 0
  near : ∃ last, (s.button k).lastPosition = some last ∧
    |position.dx-last.dx| ≤ 1/2 ∧ |position.dy-last.dy| ≤ 1/2

variable [DecidableEq κ]

/-- What a step makes the button move the cursor by. -/
def moved : Event ι κ → Overlay ι κ → ℚ × ℚ
  | .move k' position, s =>
      if k' = k then cursor (s.move layout k position).renderer-cursor s.renderer else 0
  | _, _ => 0

/-- Where a finger is on the button. -/
def finger (position : Offset) : Event ι κ → Offset
  | .move k' position' => if k' = k then position' else position
  | _ => position

end Moves

section Steps
variable {ι κ : Type} {layout : Layout ι κ} {k : κ} {s s' : Overlay ι κ} {position : Offset}

theorem Aiming.kept (h : Aiming k s position) (hb : s'.button k = s.button k)
    (hf : s'.fingers k = s.fingers k) : Aiming k s' position := by
  constructor
  · rw [hb]
    exact h.pressed
  · rw [hf]
    exact h.fingers
  · rw [hb]
    exact h.near

theorem cursor_request (r : Renderer) (x y : ℚ) :
    cursor (r.request (.moveMouseRelative x y)) = cursor r+(x,y) := by
  simp [cursor, Renderer.request, moveOf]

@[simp] theorem onEvent_button (event : Option ControlEvent) :
    (s.onEvent layout event).button = s.button := by cases event <;> rfl

@[simp] theorem onEvent_fingers (event : Option ControlEvent) :
    (s.onEvent layout event).fingers = s.fingers := by cases event <;> rfl

variable [DecidableEq κ]

/-- A move of the button either is passed on or is too short. -/
theorem move_aims (hfire : (layout.buttons k).isFpsFireButton = true) (h : Aiming k s position)
    (position' : Offset) :
    Aiming k (s.move layout k position') position' ∧
      cursor (s.move layout k position').renderer-cursor s.renderer =
        level layout k (s.move layout k position')-level layout k s := by
  obtain ⟨last, hlast, -⟩ := h.near
  rw [Overlay.move, if_neg h.fingers]
  simp only [ButtonWidget.handleMove, hlast, h.pressed, hfire, and_self, if_true]
  split
  · constructor
    · refine ⟨?_,?_,position',?_,?_⟩
      all_goals simp [Overlay.onEvent, Overlay.setButton, h.fingers]
    · simp only [Overlay.onEvent, Overlay.setButton, Renderer.handleControlEvent, cursor_request,
        add_sub_cancel_left, level, Function.update_self, hlast, Option.getD_some,
        Prod.mk_sub_mk, sensitivity]
      ring_nf
  · rename_i hshort
    rw [not_or, not_lt, not_lt] at hshort
    constructor
    · refine ⟨?_,?_,last,?_,hshort⟩
      all_goals simp [Overlay.onEvent, Overlay.setButton, h.pressed, h.fingers, hlast]
    · simp [Overlay.onEvent, Overlay.setButton, level]

/-- A press that is heard begins an aim. -/
theorem down_aims (hfire : (layout.buttons k).isFpsFireButton = true)
    (hknown : (keyEvent (layout.buttons k) true).throws = false)
    (hon : (layout.buttons k).isToggleMode = true → (s.button k).isKeyDown = false) :
    Aiming k (s.down layout k position) position ∧
      level layout k (s.down layout k position) =
        (sensitivity layout*position.dx,sensitivity layout*position.dy) := by
  have hdown : (if (layout.buttons k).isToggleMode then !(s.button k).isKeyDown else true) =
      true := by
    split
    · rename_i ht
      rw [hon ht]
      rfl
    · rfl
  have hlast : ((s.down layout k position).button k).lastPosition = some position := by
    simp [Overlay.down, Overlay.setButton, Overlay.setFingers, ButtonWidget.handleDown, hdown,
      hfire, hknown]
  refine ⟨⟨?_,?_,position,hlast,?_⟩,?_⟩
  · simp [Overlay.down, Overlay.setButton, Overlay.setFingers, ButtonWidget.handleDown, hdown]
  · simp [Overlay.down, Overlay.setButton, Overlay.setFingers]
  · simp
  · rw [level, hlast, Option.getD_some]

variable [DecidableEq ι]

/-- What does not concern the button leaves it as it is. -/
theorem other_kept {e : Event ι κ} (he : Held k e s) (hmove : ∀ position', e ≠ .move k position') :
    (step layout e s).button k = s.button k ∧ (step layout e s).fingers k = s.fingers k := by
  cases e with
  | down k' position' =>
    have hne : k ≠ k' := fun h => he h.symm
    simp [step, Overlay.down, Overlay.setButton, Overlay.setFingers, hne]
  | move k' position' =>
    have hne : k ≠ k' := by
      rintro rfl
      exact hmove position' rfl
    simp only [step, Overlay.move]
    split <;> simp [Overlay.setButton, hne]
  | up k' =>
    have hne : k ≠ k' := fun h => he h.symm
    simp only [step, Overlay.up]
    split <;> simp [Overlay.setButton, Overlay.setFingers, hne]
  | panStart i localPosition =>
    simp only [step, Overlay.panStart]
    split <;> exact ⟨rfl,rfl⟩
  | panUpdate i localPosition =>
    simp only [step, Overlay.panUpdate]
    split <;> exact ⟨rfl,rfl⟩
  | panEnd i =>
    simp only [step, Overlay.panEnd]
    split_ifs <;> exact ⟨rfl,rfl⟩
  | clickButtonDelay n =>
    simp only [step, Overlay.clickButtonDelay]
    split <;> exact ⟨rfl,rfl⟩

/-- A step keeps the finger near to where the cursor has followed it. -/
theorem aiming_step (hfire : (layout.buttons k).isFpsFireButton = true) (e : Event ι κ)
    (he : Held k e s) (h : Aiming k s position) :
    Aiming k (step layout e s) (finger k position e) ∧
      moved layout k e s = level layout k (step layout e s)-level layout k s := by
  by_cases hmove : ∃ position', e = .move k position'
  · obtain ⟨position', rfl⟩ := hmove
    simpa [finger, moved, step] using move_aims hfire h position'
  · have hother : ∀ position', e ≠ .move k position' := fun p hp => hmove ⟨p,hp⟩
    have hkept : (step layout e s).button k = s.button k ∧
        (step layout e s).fingers k = s.fingers k := other_kept he hother
    obtain ⟨hb, hf⟩ := hkept
    have hfinger : finger k position e = position := by
      cases e with
      | move k' position' =>
        apply if_neg
        rintro rfl
        exact hother position' rfl
      | _ => rfl
    have hmoved : moved layout k e s = 0 := by
      cases e with
      | move k' position' =>
        apply if_neg
        rintro rfl
        exact hother position' rfl
      | _ => rfl
    rw [hfinger, hmoved, level, level, hb, sub_self]
    exact ⟨h.kept hb hf,rfl⟩

theorem aiming_run (hfire : (layout.buttons k).isFpsFireButton = true) (es : List (Event ι κ))
    (hes : Meets (step layout) (Held k) es s) (h : Aiming k s position) :
    Aiming k (run (step layout) es s) (es.foldl (finger k) position) := by
  induction es generalizing s position with
  | nil => exact h
  | cons e es ih => exact ih hes.2 (aiming_step hfire e hes.1 h).1

theorem lag_le (c : ℚ) {start last reached : ℚ} (h : |reached-last| ≤ 1/2) :
    |c*last-c*start-c*(reached-start)| ≤ |c|/2 := by
  have hlag : c*last-c*start-c*(reached-start) = -(c*(reached-last)) := by ring
  rw [hlag, abs_neg, abs_mul]
  calc |c| * |reached-last| ≤ |c| * (1/2) := mul_le_mul_of_nonneg_left h (abs_nonneg c)
    _ = |c|/2 := by ring

/-- However a finger moves on a fire button that it holds, and whatever else happens, the
button has moved the cursor as far as the finger, to half a pixel of the button. -/
theorem drag_followed (hfire : (layout.buttons k).isFpsFireButton = true)
    (hknown : (keyEvent (layout.buttons k) true).throws = false)
    (hon : (layout.buttons k).isToggleMode = true → (s.button k).isKeyDown = false)
    (es : List (Event ι κ))
    (hes : Meets (step layout) (Held k) es (step layout (.down k position) s)) :
    let total := tally (step layout) (moved layout k) es (step layout (.down k position) s)
    let reached := es.foldl (finger k) position
    |total.1-sensitivity layout*(reached.dx-position.dx)| ≤ |sensitivity layout|/2 ∧
      |total.2-sensitivity layout*(reached.dy-position.dy)| ≤ |sensitivity layout|/2 := by
  have hdown : Aiming k (s.down layout k position) position ∧
      level layout k (s.down layout k position) =
        (sensitivity layout*position.dx,sensitivity layout*position.dy) :=
    down_aims hfire hknown hon
  obtain ⟨haim, hstart⟩ := hdown
  have hkeep (e : Event ι κ) (s : Overlay ι κ) (he : Held k e s) (h : ∃ x, Aiming k s x) :
      ∃ x, Aiming k (step layout e s) x := by
    obtain ⟨x, hx⟩ := h
    exact ⟨_,(aiming_step hfire e he hx).1⟩
  have hadd (e : Event ι κ) (s : Overlay ι κ) (he : Held k e s) (h : ∃ x, Aiming k s x) :
      moved layout k e s = level layout k (step layout e s)-level layout k s := by
    obtain ⟨x, hx⟩ := h
    exact (aiming_step hfire e he hx).2
  have htotal := tally_telescopes hkeep hadd es _ hes ⟨_,haim⟩
  obtain ⟨last, hlast, hx, hy⟩ := (aiming_run hfire es hes haim).near
  have hend : level layout k (run (step layout) es (step layout (.down k position) s)) =
      (sensitivity layout*last.dx,sensitivity layout*last.dy) := by
    rw [level, hlast, Option.getD_some]
  rw [htotal, hend, step, hstart]
  exact ⟨lag_le _ hx,lag_le _ hy⟩

end Steps

/-- One fire button and no stick. -/
def aimer : Layout Empty Unit where
  buttons _ := ⟨"fire",1,false,true,.circle,true,false⟩
  sticks := Empty.elim
  touchpadSensitivity := 1/10
  distance _ := 0

theorem aim_followed :
    let es : List (Event Empty Unit) := [.move () ⟨3,0⟩, .move () ⟨13/4,1⟩]
    let total := tally (step aimer) (moved aimer ()) es (step aimer (.down () ⟨0,0⟩) {})
    |total.1-sensitivity aimer*(13/4-0)| ≤ |sensitivity aimer|/2 ∧
      |total.2-sensitivity aimer*(1-0)| ≤ |sensitivity aimer|/2 :=
  drag_followed rfl rfl (fun h => absurd h Bool.false_ne_true) _ ⟨trivial,trivial,trivial⟩

end CloudPlay.FireDrags
