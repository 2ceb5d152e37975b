import CloudPlay.TouchInput
import CloudPlay.TransitionRun
import Mathlib.Tactic.Linarith

/-!
# The on-screen remote mouse

A controller tells the drawn pointer about its moves by notifications that carry
no reason, and every notification applies the last move again. The pointer is to
move once for each move, stay in the display and stay where it is otherwise. It
does so exactly when a notification that is no move finds no last move to repeat,
or one that pushes against the edge the pointer is at.
-/

set_option autoImplicit false

namespace CloudPlay.RemoteMouse
open TouchInput (Offset)
open TransitionRun

/-- The area that the video fills. -/
structure Rect where
  left : ℚ
  top : ℚ
  width : ℚ
  height : ℚ
  width_nonneg : 0 ≤ width
  height_nonneg : 0 ≤ height

def Rect.right (d : Rect) : ℚ := d.left+d.width

def Rect.bottom (d : Rect) : ℚ := d.top+d.height

/-- A byte array, which is compared by identity. -/
structure Buffer where
  object : ℕ
  bytes : List UInt8

structure OnScreenRemoteMouseController where
  position : Offset := ⟨100,100⟩
  cursorBuffer : Option Buffer := none
  deltax : ℚ := 0
  deltay : ℚ := 0
  showCursor : Bool := true
  hasMoved : Bool := false
  positionPercentage : Offset := ⟨0,0⟩

/-- The percentage that stands for none. -/
def unset : Offset := ⟨-1,-1⟩

structure RenderRemoteMouse where
  position : Offset
  cursorBuffer : Option Buffer
  deltax : ℚ
  deltay : ℚ
  showCursor : Bool := true

/-- The render object of a controller that may have been used before. -/
def OnScreenRemoteMouseController.renderObject (c : OnScreenRemoteMouseController) :
    RenderRemoteMouse :=
  {position := c.position, cursorBuffer := c.cursorBuffer, deltax := c.deltax, deltay := c.deltay}

/-- The reads of `_decodeCursorBuffer` that are within the buffer. -/
def decodable : Option Buffer → Bool
  | none => false
  | some buffer =>
    match buffer.bytes with
    | [] => false
    | 10::rest => 8 ≤ rest.length
    | 9::rest => 20 ≤ rest.length
    | _ => true

def clampDelta (low high base value : ℚ) : ℚ :=
  if base+value < low then low-base
  else if base+value > high then high-base
  else value

/-- The setter of a delta on one axis. -/
def setDelta (low high base delta value : ℚ) : ℚ :=
  if delta = value then delta else clampDelta low high base value

def RenderRemoteMouse.setDeltas (d : Rect) (r : RenderRemoteMouse) (x y : ℚ) : RenderRemoteMouse :=
  {r with
    deltax := setDelta d.left d.right r.position.dx r.deltax x
    deltay := setDelta d.top d.bottom r.position.dy r.deltay y}

def RenderRemoteMouse.setControllerPositionPercentage (d : Rect) (r : RenderRemoteMouse)
    (value : Offset) : RenderRemoteMouse :=
  if value = unset then r
  else
    {r with
      deltax := d.left+value.dx*d.width-r.position.dx
      deltay := d.top+value.dy*d.height-r.position.dy}

/-- The listener of the controller. A cursor buffer that cannot be decoded throws
before the deltas are read. -/
def handleControllerChange (d : Rect) (c : OnScreenRemoteMouseController)
    (r : RenderRemoteMouse) : RenderRemoteMouse :=
  let changed := r.cursorBuffer.map Buffer.object ≠ c.cursorBuffer.map Buffer.object
  let r := {r with position := c.position, cursorBuffer := c.cursorBuffer}
  if changed ∧ decodable c.cursorBuffer = false then r
  else
    let r := r.setDeltas d (r.deltax+c.deltax) (r.deltay+c.deltay)
    {r with showCursor := c.showCursor && c.hasMoved}.setControllerPositionPercentage d
      c.positionPercentage

inductive Call
  | moveDelta (dx dy : ℚ)
  | moveAbsl (xPercent yPercent : ℚ)
  | setShowCursor (value : Bool)
  | setHasMoved (value : Bool)
  | setCursorBuffer (buffer : Option Buffer)

def clamp (low high x : ℚ) : ℚ := max low (min high x)

/-- What a call does to the controller before it notifies. -/
def command : Call → OnScreenRemoteMouseController → OnScreenRemoteMouseController
  | .moveDelta dx dy, c =>
    {c with hasMoved := true, deltax := dx, deltay := dy, positionPercentage := unset}
  | .moveAbsl xPercent yPercent, c =>
    {c with
      hasMoved := true
      deltax := 0
      deltay := 0
      positionPercentage := ⟨clamp 0 1 xPercent,clamp 0 1 yPercent⟩}
  | .setShowCursor value, c => {c with showCursor := value}
  | .setHasMoved value, c => {c with hasMoved := value}
  | .setCursorBuffer buffer, c => {c with deltax := 0, deltay := 0, cursorBuffer := buffer}

structure Mouse where
  controller : OnScreenRemoteMouseController
  render : RenderRemoteMouse

def attach (c : OnScreenRemoteMouseController) : Mouse := ⟨c,c.renderObject⟩

def step (d : Rect) (call : Call) (m : Mouse) : Mouse :=
  let c := command call m.controller
  ⟨c,handleControllerChange d c m.render⟩

def RenderRemoteMouse.pointer (r : RenderRemoteMouse) : Offset :=
  ⟨r.position.dx+r.deltax,r.position.dy+r.deltay⟩

def Mouse.pointer (m : Mouse) : Offset := m.render.pointer

/-- The point at a fraction of the display. -/
def Rect.place (d : Rect) (fraction : Offset) : Offset :=
  ⟨d.left+fraction.dx*d.width,d.top+fraction.dy*d.height⟩

/-- What a call is to do to the pointer. -/
def moved (d : Rect) : Call → Offset → Offset
  | .moveDelta dx dy, p => ⟨clamp d.left d.right (p.dx+dx),clamp d.top d.bottom (p.dy+dy)⟩
  | .moveAbsl xPercent yPercent, _ => d.place ⟨clamp 0 1 xPercent,clamp 0 1 yPercent⟩
  | _, p => p

/-- A push that an edge takes up. -/
def TakenUp (low high x push : ℚ) : Prop :=
  push = 0 ∨ 0 < push ∧ x = high ∨ push < 0 ∧ x = low

/-- The pointer is at the fraction that the controller holds, or there is none. -/
def InPlace (d : Rect) (m : Mouse) : Prop :=
  m.controller.positionPercentage ≠ unset → m.pointer = d.place m.controller.positionPercentage

/-- A repeated notification moves nothing. -/
def Quiet (d : Rect) (m : Mouse) : Prop :=
  InPlace d m ∧ (m.controller.positionPercentage = unset →
    TakenUp d.left d.right m.pointer.dx m.controller.deltax ∧
      TakenUp d.top d.bottom m.pointer.dy m.controller.deltay)

/-- The buffer is another one and cannot be decoded. -/
def Unreadable (buffer : Option Buffer) (m : Mouse) : Prop :=
  m.render.cursorBuffer.map Buffer.object ≠ buffer.map Buffer.object ∧ decodable buffer = false

def Guard (d : Rect) : Call → Mouse → Prop
  | .moveDelta dx dy, m =>
    (dx = 0 → d.left ≤ m.pointer.dx ∧ m.pointer.dx ≤ d.right) ∧
      (dy = 0 → d.top ≤ m.pointer.dy ∧ m.pointer.dy ≤ d.bottom)
  | .moveAbsl _ _, _ => True
  | .setShowCursor _, m => Quiet d m
  | .setHasMoved _, m => Quiet d m
  | .setCursorBuffer buffer, m => Unreadable buffer m ∨ InPlace d m

section Axis
variable {low high base delta push x : ℚ}

theorem clampDelta_spec (hle : low ≤ high) (value : ℚ) :
    base+clampDelta low high base value = clamp low high (base+value) := by
  unfold clampDelta clamp
  split_ifs with hlow hhigh
  · rw [max_eq_left ((min_le_right _ _).trans hlow.le)]
    exact add_sub_cancel base low
  · rw [min_eq_left hhigh.le, max_eq_right hle]
    exact add_sub_cancel base high
  · rw [min_eq_right (not_lt.mp hhigh), max_eq_right (not_lt.mp hlow)]

/-- Where an axis is after a push by the setter. -/
def pushed (low high x push : ℚ) : ℚ := if push = 0 then x else clamp low high (x+push)

theorem setDelta_spec (hle : low ≤ high) :
    base+setDelta low high base delta (delta+push) = pushed low high (base+delta) push := by
  unfold setDelta pushed
  by_cases hpush : push = 0
  · rw [if_pos (by rw [hpush, add_zero]), if_pos hpush]
  · have hne : delta ≠ delta+push := fun h => hpush (by linarith)
    rw [if_neg hne, if_neg hpush, clampDelta_spec hle, add_assoc]

theorem clamp_eq_self_iff (hle : low ≤ high) :
    clamp low high x = x ↔ low ≤ x ∧ x ≤ high := by
  constructor
  · intro h
    rw [← h]
    exact ⟨le_max_left _ _,max_le hle (min_le_left _ _)⟩
  · rintro ⟨hlow, hhigh⟩
    rw [clamp, min_eq_right hhigh, max_eq_right hlow]

/-- The setter moves an axis as commanded, unless it is told to move by zero from
outside. -/
theorem pushed_commanded (hle : low ≤ high) : pushed low high x push = clamp low high (x+push) ↔
    (push = 0 → low ≤ x ∧ x ≤ high) := by
  unfold pushed
  by_cases hpush : push = 0
  · simp only [hpush, if_true, add_zero, forall_const]
    rw [← clamp_eq_self_iff hle, eq_comm]
  · simp only [hpush, if_false, false_imp_iff]

/-- A push leaves an axis where it is exactly when an edge takes it up. -/
theorem pushed_still (hle : low ≤ high) : pushed low high x push = x ↔ TakenUp low high x push := by
  unfold pushed TakenUp
  by_cases hpush : push = 0
  · simp [hpush]
  · rw [if_neg hpush]
    constructor
    · intro h
      rcases lt_or_gt_of_ne hpush with hneg | hpos
      · -- only the low edge stops a push to the left
        have hlow : x ≤ low := by
          rcases max_choice low (min high (x+push)) with hc | hc
          · exact (h.symm.trans hc).le
          · have hle' := min_le_right high (x+push)
            rw [← hc] at hle'
            unfold clamp at h
            linarith
        have hge : low ≤ x := by rw [← h]; exact le_max_left _ _
        exact Or.inr (Or.inr ⟨hneg,le_antisymm hlow hge⟩)
      · have hhigh : high ≤ x := by
          by_contra hlt
          have hmin : x < min high (x+push) := lt_min (not_le.mp hlt) (by linarith)
          exact absurd h (hmin.trans_le (le_max_right _ _)).ne'
        have hge : x ≤ high := by rw [← h]; exact max_le hle (min_le_left _ _)
        exact Or.inr (Or.inl ⟨hpos,le_antisymm hge hhigh⟩)
    · rintro (h | ⟨hpos, rfl⟩ | ⟨hneg, rfl⟩)
      · exact absurd h hpush
      · rw [clamp, min_eq_left (by linarith), max_eq_right hle]
      · exact max_eq_left ((min_le_right _ _).trans (by linarith))

end Axis

section Steps
variable {d : Rect} {c : OnScreenRemoteMouseController} {m : Mouse}

theorem Rect.left_le_right (d : Rect) : d.left ≤ d.right := le_add_of_nonneg_right d.width_nonneg

theorem Rect.top_le_bottom (d : Rect) : d.top ≤ d.bottom := le_add_of_nonneg_right d.height_nonneg

/-- The render object has read the controller. -/
structure Attached (m : Mouse) : Prop where
  position : m.render.position = m.controller.position
  cursorBuffer : m.render.cursorBuffer.map Buffer.object =
    m.controller.cursorBuffer.map Buffer.object

theorem attach_attached (c : OnScreenRemoteMouseController) : Attached (attach c) := ⟨rfl,rfl⟩

theorem setDeltas_pointer (r : RenderRemoteMouse) (x y : ℚ) :
    (r.setDeltas d (r.deltax+x) (r.deltay+y)).pointer =
      ⟨pushed d.left d.right r.pointer.dx x,pushed d.top d.bottom r.pointer.dy y⟩ := by
  simp only [RenderRemoteMouse.setDeltas, RenderRemoteMouse.pointer,
    setDelta_spec d.left_le_right, setDelta_spec d.top_le_bottom]

theorem setPercentage_pointer (r : RenderRemoteMouse) (value : Offset) :
    (r.setControllerPositionPercentage d value).pointer =
      if value = unset then r.pointer else d.place value := by
  unfold RenderRemoteMouse.setControllerPositionPercentage
  split
  · rfl
  · simp only [RenderRemoteMouse.pointer, Rect.place, add_sub_cancel]

theorem change_pointer (r : RenderRemoteMouse) (hp : r.position = c.position)
    (hread : ¬(r.cursorBuffer.map Buffer.object ≠ c.cursorBuffer.map Buffer.object ∧
      decodable c.cursorBuffer = false)) :
    (handleControllerChange d c r).pointer =
      if c.positionPercentage = unset then
        ⟨pushed d.left d.right r.pointer.dx c.deltax,pushed d.top d.bottom r.pointer.dy c.deltay⟩
      else d.place c.positionPercentage := by
  simp only [handleControllerChange]
  rw [if_neg hread, setPercentage_pointer]
  have hstart : RenderRemoteMouse.pointer
      {r with position := c.position, cursorBuffer := c.cursorBuffer} = r.pointer := by
    rw [RenderRemoteMouse.pointer, RenderRemoteMouse.pointer, hp]
  have hdeltas := setDeltas_pointer (d := d)
    {r with position := c.position, cursorBuffer := c.cursorBuffer} c.deltax c.deltay
  rw [hstart] at hdeltas
  split
  · exact hdeltas
  · rfl

theorem change_unreadable (r : RenderRemoteMouse) (hp : r.position = c.position)
    (hread : r.cursorBuffer.map Buffer.object ≠ c.cursorBuffer.map Buffer.object ∧
      decodable c.cursorBuffer = false) :
    (handleControllerChange d c r).pointer = r.pointer := by
  simp only [handleControllerChange]
  rw [if_pos hread, RenderRemoteMouse.pointer, RenderRemoteMouse.pointer, hp]

theorem step_attached (d : Rect) (call : Call) (m : Mouse) : Attached (step d call m) := by
  constructor
  · simp only [step, handleControllerChange]
    split
    · rfl
    · unfold RenderRemoteMouse.setControllerPositionPercentage
      split <;> rfl
  · simp only [step, handleControllerChange]
    split
    · rfl
    · unfold RenderRemoteMouse.setControllerPositionPercentage
      split <;> rfl

theorem clamp_ne_unset (x y : ℚ) : (⟨clamp 0 1 x,clamp 0 1 y⟩ : Offset) ≠ unset := by
  intro h
  have hx : clamp 0 1 x = -1 := congrArg Offset.dx h
  have hpos : 0 ≤ clamp 0 1 x := le_max_left _ _
  linarith

/-- A notification that changes no buffer. -/
theorem notified_pointer {call : Call} (h : Attached m)
    (hb : (command call m.controller).cursorBuffer = m.controller.cursorBuffer)
    (hp : (command call m.controller).position = m.controller.position) :
    (step d call m).pointer =
      if (command call m.controller).positionPercentage = unset then
        ⟨pushed d.left d.right m.pointer.dx (command call m.controller).deltax,
          pushed d.top d.bottom m.pointer.dy (command call m.controller).deltay⟩
      else d.place (command call m.controller).positionPercentage := by
  apply change_pointer
  · rw [hp, h.position]
  · rw [hb, h.cursorBuffer]
    exact fun hread => hread.1 rfl

/-- Applying the last move again moves nothing exactly when it is quiet. -/
theorem repeated_still (m : Mouse) :
    (if m.controller.positionPercentage = unset then
        ⟨pushed d.left d.right m.pointer.dx m.controller.deltax,
          pushed d.top d.bottom m.pointer.dy m.controller.deltay⟩
      else d.place m.controller.positionPercentage) = m.pointer ↔ Quiet d m := by
  unfold Quiet InPlace
  by_cases hp : m.controller.positionPercentage = unset
  · simp only [hp, if_true, ne_eq, not_true, false_imp_iff, true_and, forall_const]
    rw [← pushed_still d.left_le_right, ← pushed_still d.top_le_bottom]
    exact Offset.mk.injEq _ _ _ _ ▸ Iff.rfl
  · simp only [hp, if_false, ne_eq, not_false_iff, forall_const, false_imp_iff, and_true]
    exact eq_comm

theorem buffer_still (buffer : Option Buffer) (h : Attached m) :
    (step d (.setCursorBuffer buffer) m).pointer = m.pointer ↔
      Unreadable buffer m ∨ InPlace d m := by
  by_cases hread : Unreadable buffer m
  · exact iff_of_true (change_unreadable _ h.position hread) (Or.inl hread)
  · have hp : (step d (.setCursorBuffer buffer) m).pointer = _ :=
      change_pointer (c := command (.setCursorBuffer buffer) m.controller) _ h.position hread
    have hkept : (command (.setCursorBuffer buffer) m.controller).positionPercentage =
        m.controller.positionPercentage := rfl
    rw [hp, or_iff_right hread, InPlace]
    by_cases hset : m.controller.positionPercentage = unset
    · rw [if_pos (hkept.trans hset)]
      exact iff_of_true (by simp [command, pushed, Mouse.pointer]) (fun h => absurd hset h)
    · rw [if_neg (fun h => hset (hkept.symm.trans h)), hkept]
      exact eq_comm.trans (imp_iff_right hset).symm

/-- A call moves the pointer as commanded exactly when its guard is met. -/
theorem follows_iff (call : Call) (h : Attached m) :
    (step d call m).pointer = moved d call m.pointer ↔ Guard d call m := by
  cases call with
  | moveDelta dx dy =>
    rw [notified_pointer h rfl rfl]
    simp only [command, if_true, moved, Offset.mk.injEq, Guard,
      pushed_commanded d.left_le_right, pushed_commanded d.top_le_bottom]
  | moveAbsl xPercent yPercent =>
    rw [notified_pointer h rfl rfl]
    exact iff_of_true (if_neg (clamp_ne_unset _ _)) trivial
  | setShowCursor value =>
    rw [notified_pointer h rfl rfl]
    exact repeated_still m
  | setHasMoved value =>
    rw [notified_pointer h rfl rfl]
    exact repeated_still m
  | setCursorBuffer buffer => exact buffer_still buffer h

end Steps

/-- The pointer is moved exactly as commanded all along a sequence of calls, from
any state of the controller it is attached to, exactly when every call meets the
guard. -/
theorem pointer_commanded (d : Rect) (c : OnScreenRemoteMouseController) (calls : List Call) :
    (∀ before after, calls = before ++ after →
        (run (step d) before (attach c)).pointer = run (moved d) before (attach c).pointer) ↔
      Meets (step d) (Guard d) calls (attach c) := by
  rw [always_follows_iff (step d) (moved d) Mouse.pointer calls (attach c)]
  have hagree : ∀ call m, Attached m →
      ((step d call m).pointer = moved d call m.pointer ↔ Guard d call m) :=
    fun call _ h => follows_iff call h
  exact meets_iff_of_invariant _ hagree (fun call m _ _ => step_attached d call m) calls _
    (attach_attached c)

/-- After a move of five to the right the cursor is shown, and the pointer moves on
by five. -/
theorem shown_moves_on : (run (step ⟨0,0,1600,1000,by decide,by decide⟩)
      [.moveDelta 5 0, .setShowCursor true] (attach {})).pointer ≠
    run (moved ⟨0,0,1600,1000,by decide,by decide⟩) [.moveDelta 5 0, .setShowCursor true]
      (attach {}).pointer := by
  decide +kernel

end CloudPlay.RemoteMouse
