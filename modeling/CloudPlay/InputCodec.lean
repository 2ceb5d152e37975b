import CloudPlay.RemoteInput
import CloudPlay.CursorCodec

/-!
# Input events sent and handled

What the host's platform is asked to do for an event of the controller, with the
fields as they were given and the floats in single precision. It is what the bytes
lead to for all fields that fit in their bytes. The layout for the unreliable
channel has no reader, and the host takes it for the other one.
-/

set_option autoImplicit false

namespace CloudPlay.InputCodec
open ByteViews CursorMessages CursorUpdates RemoteInput

inductive InputEvent where
  | moveMouseAbsl (x y : Float) (tempScreenId : ℤ)
  | moveMouseRelative (x y : Float) (screenId : ℤ)
  | mouseClick (buttonId : ℤ) (isDown : Bool)
  | mouseScroll (dx dy : Option Float)
  | touchButton (x y : Float) (touchId : ℤ) (isDown : Bool)
  | touchMove (x y : Float) (touchId : ℤ)
  | penEvent (x y : Float) (isDown hasButton : Bool) (pressure rotation tilt : Float)
  | penMove (x y : Float) (hasButton : Bool) (pressure rotation tilt : Float)
  | keyEvent (keyCode : Option ℤ) (isDown : Bool)

def request (now : ℤ) (s : Sender) : InputEvent → Sent
  | .moveMouseAbsl x y tempScreenId => requestMoveMouseAbsl s now x y tempScreenId
  | .moveMouseRelative x y screenId => requestMoveMouseRelative s x y screenId
  | .mouseClick buttonId isDown => requestMouseClick s buttonId isDown
  | .mouseScroll dx dy => requestMouseScroll s dx dy
  | .touchButton x y touchId isDown => requestTouchButton s x y touchId isDown
  | .touchMove x y touchId => requestTouchMove s x y touchId
  | .penEvent x y isDown hasButton pressure rotation tilt =>
      requestPenEvent s x y isDown hasButton pressure rotation tilt
  | .penMove x y hasButton pressure rotation tilt =>
      requestPenMove s x y hasButton pressure rotation tilt
  | .keyEvent keyCode isDown => requestKeyEvent s keyCode isDown

/-- The position an absolute move asks for, if it asks for one. -/
def absolutePosition (s : Sender) (x y : Float) (tempScreenId : ℤ) : Option (Float × Float) :=
  if s.controller.blockCursorMove ∨ 0 < s.controller.blockNextAbsl then none
  else if tempScreenId = -1 then edgePosition s else some (x,y)

/-- What an event asks of a platform that has it. -/
def actionOf (s : Sender) (host : Host) : InputEvent → List Action
  | .moveMouseAbsl x y tempScreenId =>
      (absolutePosition s x y tempScreenId).toList.map fun p =>
        .performMouseMoveAbsl (float32 p.1) (float32 p.2) s.controller.screenId
  | .moveMouseRelative x y screenId =>
      if s.controller.blockCursorMove then []
      else [.performMouseMoveRelative (float32 x) (float32 y) screenId]
  | .mouseClick buttonId isDown => [.performMouseClick buttonId isDown]
  | .mouseScroll dx dy =>
      [.performMouseScroll (float32 (dx.getD 0)) (float32 (wheel s (dy.getD 0)))]
  | .touchButton x y touchId isDown =>
      [.performTouchEvent (float32 x) (float32 y) touchId isDown host.screenId]
  | .touchMove x y touchId => [.performTouchMove (float32 x) (float32 y) touchId host.screenId]
  | .penEvent x y isDown hasButton pressure rotation tilt =>
      [.performPenEvent (float32 x) (float32 y) isDown hasButton (float32 pressure)
        (float32 rotation) (float32 tilt) host.screenId]
  | .penMove x y hasButton pressure rotation tilt =>
      [.performPenMove (float32 x) (float32 y) hasButton (float32 pressure) (float32 rotation)
        (float32 tilt) host.screenId]
  | .keyEvent keyCode isDown => keyCode.toList.map fun code => .performKeyEvent code isDown

/-- Touches and pens are for Windows, the rest for every desktop. -/
def supports (host : Host) : InputEvent → Bool
  | .touchButton _ _ _ _ | .touchMove _ _ _ | .penEvent _ _ _ _ _ _ _ | .penMove _ _ _ _ _ _ =>
      host.isWindows
  | _ => host.platform.isDeskTop

def expected (s : Sender) (host : Host) (e : InputEvent) : List Action :=
  if supports host e then actionOf s host e else []

/-- The host does what the event asks for, and nothing else. -/
def Delivered (now : ℤ) (s : Sender) (host : Host) (e : InputEvent) : Prop :=
  ∃ s' buffers, request now s e = some (s',buffers) ∧
    processAll host buffers = some (expected s host e)

def Byte (v : ℤ) : Prop := 0 ≤ v ∧ v < 256

/-- The fields fit in their bytes. Where the channel is not reliable, an absolute
move is to be to the origin of the first screen. -/
def Fits (s : Sender) : InputEvent → Prop
  | .moveMouseAbsl x y tempScreenId => ∀ p ∈ absolutePosition s x y tempScreenId,
      if s.reliable then Byte s.controller.screenId
      else s.controller.screenId = 0 ∧ float32 p.1 = 0 ∧ float32 p.2 = 0
  | .moveMouseRelative _ _ screenId => s.controller.blockCursorMove ∨ Byte screenId
  | .mouseClick buttonId _ => Byte buttonId
  | .touchButton _ _ touchId _ | .touchMove _ _ touchId => CursorCodec.Int32 touchId
  | .keyEvent keyCode _ => ∀ code ∈ keyCode, Byte code
  | .mouseScroll _ _ | .penEvent _ _ _ _ _ _ _ | .penMove _ _ _ _ _ _ => True

section
variable (s : Sender) (host : Host)

attribute [local simp] getUint8_skip getInt32_skip getFloat32_skip setUint8_skip setInt32_skip
  setFloat32_skip setUint8_zeros setUint8_last setInt32_zeros setFloat32_zeros

/-! The messages as their fields one behind the other. -/

theorem sendMoveAbsl_reliable (x y : Float) (h : s.reliable = true) : sendMoveAbsl s x y =
    send s (byteField LP_MOUSEMOVE_ABSL++(byteField s.controller.screenId++
      (floatField .little (float32 x)++floatField .little (float32 y)))) (halfCount s) := by
  simp [sendMoveAbsl, h, newByteData, -List.reduceReplicate]

theorem sendMoveAbsl_unreliable (x y : Float) (h : s.reliable = false) : sendMoveAbsl s x y =
    send s (byteField LP_MOUSEMOVE_ABSL++(intField .big outSequenceID++
      (byteField s.controller.screenId++(floatField .little (float32 x)++
        floatField .little (float32 y))))) (halfCount s) := by
  simp [sendMoveAbsl, h, newByteData, -List.reduceReplicate]

theorem requestMoveMouseRelative_eq (x y : Float) (screenId : ℤ)
    (h : s.controller.blockCursorMove = false) : requestMoveMouseRelative s x y screenId =
    send s (byteField LP_MOUSEMOVE_RELATIVE++(byteField screenId++
      (floatField .little (float32 x)++floatField .little (float32 y)))) (halfCount s) := by
  simp [requestMoveMouseRelative, h, newByteData, -List.reduceReplicate]

theorem requestMouseClick_eq (buttonId : ℤ) (isDown : Bool) :
    requestMouseClick s buttonId isDown = send s (byteField LP_MOUSEBUTTON++(byteField buttonId++
      byteField (flag isDown))) s.resendCount := by
  simp [requestMouseClick, newByteData, -List.reduceReplicate]

theorem requestMouseScroll_eq (dx dy : Option Float) : requestMouseScroll s dx dy =
    send s (byteField LP_MOUSE_SCROLL++(floatField .little (float32 (dx.getD 0))++
      floatField .little (float32 (wheel s (dy.getD 0))))) 0 := by
  simp [requestMouseScroll, newByteData, -List.reduceReplicate]

theorem requestTouchButton_eq (x y : Float) (touchId : ℤ) (isDown : Bool) :
    requestTouchButton s x y touchId isDown =
    send s (byteField LP_TOUCH_BUTTON++(byteField 0++(floatField .little (float32 x)++
      (floatField .little (float32 y)++(intField .little touchId++byteField (flag isDown))))))
      s.resendCount := by
  simp [requestTouchButton, newByteData, -List.reduceReplicate]

theorem requestTouchMove_eq (x y : Float) (touchId : ℤ) : requestTouchMove s x y touchId =
    send s (byteField LP_TOUCH_MOVE_ABSL++(floatField .little (float32 x)++
      (floatField .little (float32 y)++intField .little touchId))) (halfCount s) := by
  simp [requestTouchMove, newByteData, -List.reduceReplicate]

theorem requestPenEvent_eq (x y : Float) (isDown hasButton : Bool)
    (pressure rotation tilt : Float) :
    requestPenEvent s x y isDown hasButton pressure rotation tilt =
    send s (byteField LP_PEN_EVENT++(floatField .little (float32 x)++
      (floatField .little (float32 y)++(byteField (flag isDown)++(byteField (flag hasButton)++
        (floatField .little (float32 pressure)++(floatField .little (float32 rotation)++
          floatField .little (float32 tilt)))))))) s.resendCount := by
  simp [requestPenEvent, newByteData, -List.reduceReplicate]

theorem requestPenMove_eq (x y : Float) (hasButton : Bool) (pressure rotation tilt : Float) :
    requestPenMove s x y hasButton pressure rotation tilt =
    send s (byteField LP_PEN_MOVE++(floatField .little (float32 x)++
      (floatField .little (float32 y)++(byteField (flag hasButton)++
        (floatField .little (float32 pressure)++(floatField .little (float32 rotation)++
          floatField .little (float32 tilt))))))) (halfCount s) := by
  simp [requestPenMove, newByteData, -List.reduceReplicate]

theorem requestKeyEvent_eq (keyCode : ℤ) (isDown : Bool) :
    requestKeyEvent s (some keyCode) isDown = send s (byteField LP_KEYPRESSED++
      (byteField keyCode++byteField (flag isDown))) s.resendCount := by
  simp [requestKeyEvent, newByteData, -List.reduceReplicate]

/-! What the host reads of them. -/

attribute [local simp] processDataChannelMessageFromClient LP_PING LP_MOUSEMOVE_ABSL
  LP_MOUSEMOVE_RELATIVE LP_MOUSE_SCROLL LP_MOUSEBUTTON LP_TOUCH_BUTTON LP_TOUCH_MOVE_ABSL
  LP_PEN_EVENT LP_PEN_MOVE LP_KEYPRESSED

theorem flag_read (b : Bool) : decide (flag b%256 = 1) = b := by
  cases b <;> rfl

/-- The float that the screen is taken for. -/
def misplaced (screenId : ℤ) : Coordinate := UInt32.ofNat (leValue ([0,0,0]++byteField screenId))

theorem misplaced_field (screenId : ℤ) :
    floatField .little (misplaced screenId) = [0,0,0]++byteField screenId :=
  floatField_leValue (by simp)

theorem moveAbsl_read (screenId : ℤ) (x y : Coordinate) (rest : List UInt8) :
    processDataChannelMessageFromClient host (byteField LP_MOUSEMOVE_ABSL++(byteField screenId++
      (floatField .little x++(floatField .little y++rest)))) =
    some (if host.platform.isDeskTop then [.performMouseMoveAbsl x y (screenId%256)] else []) := by
  cases h : host.platform.isDeskTop <;> simp [handleMoveMouseAbsl, h]

/-- The other layout is read as if it were this one: the sequence number gives the
screen, the screen the high byte of the abscissa, and the abscissa the ordinate. -/
theorem unreliable_read (screenId : ℤ) (x y : Coordinate) :
    processDataChannelMessageFromClient host (byteField LP_MOUSEMOVE_ABSL++
      (intField .big outSequenceID++(byteField screenId++
        (floatField .little x++floatField .little y)))) =
    some (if host.platform.isDeskTop then
      [.performMouseMoveAbsl (misplaced screenId) x 0] else []) := by
  have hread := moveAbsl_read host 0 (misplaced screenId) x (floatField .little y)
  rw [← List.append_assoc (floatField _ _), misplaced_field] at hread
  exact hread

theorem moveRelative_read (screenId : ℤ) (x y : Coordinate) :
    processDataChannelMessageFromClient host (byteField LP_MOUSEMOVE_RELATIVE++
      (byteField screenId++(floatField .little x++floatField .little y))) =
    some (if host.platform.isDeskTop then
      [.performMouseMoveRelative x y (screenId%256)] else []) := by
  cases h : host.platform.isDeskTop <;> simp [handleMoveMouseRelative, h]

theorem click_read (buttonId : ℤ) (isDown : Bool) :
    processDataChannelMessageFromClient host (byteField LP_MOUSEBUTTON++(byteField buttonId++
      byteField (flag isDown))) =
    some (if host.platform.isDeskTop then
      [.performMouseClick (buttonId%256) isDown] else []) := by
  cases h : host.platform.isDeskTop <;> simp [handleMouseClick, h, flag_read]

theorem scroll_read (dx dy : Coordinate) :
    processDataChannelMessageFromClient host (byteField LP_MOUSE_SCROLL++
      (floatField .little dx++floatField .little dy)) =
    some (if host.platform.isDeskTop then [.performMouseScroll dx dy] else []) := by
  cases h : host.platform.isDeskTop <;> simp [handleMouseScroll, h]

theorem key_read (keyCode : ℤ) (isDown : Bool) :
    processDataChannelMessageFromClient host (byteField LP_KEYPRESSED++(byteField keyCode++
      byteField (flag isDown))) =
    some (if host.platform.isDeskTop then
      [.performKeyEvent (keyCode%256) isDown] else []) := by
  cases h : host.platform.isDeskTop <;> simp [handleKeyEvent, h, flag_read]

theorem touchButton_read (x y : Coordinate) (touchId : ℤ) (isDown : Bool) :
    processDataChannelMessageFromClient host (byteField LP_TOUCH_BUTTON++(byteField 0++
      (floatField .little x++(floatField .little y++(intField .little touchId++
        byteField (flag isDown)))))) =
    some (if host.isWindows then
      [.performTouchEvent x y (signed 4 touchId) isDown host.screenId] else []) := by
  cases h : host.isWindows <;> simp [handleTouchButton, h, flag_read]

theorem touchMove_read (x y : Coordinate) (touchId : ℤ) :
    processDataChannelMessageFromClient host (byteField LP_TOUCH_MOVE_ABSL++
      (floatField .little x++(floatField .little y++intField .little touchId))) =
    some (if host.isWindows then
      [.performTouchMove x y (signed 4 touchId) host.screenId] else []) := by
  cases h : host.isWindows <;> simp [handleTouchMove, h]

theorem penEvent_read (x y pressure rotation tilt : Coordinate) (isDown hasButton : Bool) :
    processDataChannelMessageFromClient host (byteField LP_PEN_EVENT++(floatField .little x++
      (floatField .little y++(byteField (flag isDown)++(byteField (flag hasButton)++
        (floatField .little pressure++(floatField .little rotation++
          floatField .little tilt))))))) =
    some (if host.isWindows then
      [.performPenEvent x y isDown hasButton pressure rotation tilt host.screenId] else []) := by
  cases h : host.isWindows <;> simp [handlePenEvent, h, flag_read]

theorem penMove_read (x y pressure rotation tilt : Coordinate) (hasButton : Bool) :
    processDataChannelMessageFromClient host (byteField LP_PEN_MOVE++(floatField .little x++
      (floatField .little y++(byteField (flag hasButton)++(floatField .little pressure++
        (floatField .little rotation++floatField .little tilt)))))) =
    some (if host.isWindows then
      [.performPenMove x y hasButton pressure rotation tilt host.screenId] else []) := by
  cases h : host.isWindows <;> simp [handlePenMove, h, flag_read]

end

section
variable {now : ℤ} {s s' : Sender} {host : Host} {e : InputEvent}

/-- The empty messages behind an event do nothing. -/
theorem empty_read (n : ℕ) : processAll host (emptyMessages s n) = some [] := by
  unfold emptyMessages
  split
  · induction n with
    | zero => rfl
    | succ n ih =>
      rw [List.replicate_succ, processAll, ih]
      rfl
  · rfl

theorem delivered_nothing (h : request now s e = some (s',[])) :
    Delivered now s host e ↔ expected s host e = [] := by
  unfold Delivered
  rw [h]
  constructor
  · rintro ⟨_, _, hsent, hread⟩
    cases hsent
    exact (Option.some.inj hread).symm
  · intro hnone
    exact ⟨s',[],rfl,by rw [hnone]; rfl⟩

/-- The host reads the actions `actions` from the event's own message. -/
theorem delivered_iff_fields {buffer : List UInt8} {n : ℕ} {actions : List Action}
    (hsend : request now s e = send s' buffer n)
    (hread : processDataChannelMessageFromClient host buffer =
      some (if supports host e then actions else [])) :
    Delivered now s host e ↔ (supports host e = true → actions = actionOf s host e) := by
  have hall : processAll host (buffer::emptyMessages s' n) =
      some (if supports host e then actions else []) := by
    rw [processAll, empty_read, hread]
    simp
  have hdelivered : Delivered now s host e ↔
      (if supports host e then actions else []) = expected s host e := by
    unfold Delivered
    rw [hsend, send]
    constructor
    · rintro ⟨_, _, hsent, hread'⟩
      cases hsent
      rw [hall] at hread'
      exact Option.some.inj hread'
    · intro hsame
      exact ⟨_,_,rfl,by rw [hall, hsame]⟩
  rw [hdelivered, expected]
  cases supports host e <;> simp

theorem byte_iff {v : ℤ} : v%256 = v ↔ Byte v := by
  unfold Byte
  omega

theorem misplaced_zero : misplaced 0 = 0 := by decide

/-- What an absolute move sends, if it sends anything. -/
theorem request_absl (now : ℤ) (s : Sender) (x y : Float) (tempScreenId : ℤ) :
    match absolutePosition s x y tempScreenId with
    | none => ∃ s', request now s (.moveMouseAbsl x y tempScreenId) = some (s',[])
    | some p => ∃ s' : Sender, s'.reliable = s.reliable ∧
        s'.controller.screenId = s.controller.screenId ∧
        request now s (.moveMouseAbsl x y tempScreenId) = sendMoveAbsl s' p.1 p.2 := by
  have hrequest : request now s (.moveMouseAbsl x y tempScreenId) =
      requestMoveMouseAbsl s now x y tempScreenId := rfl
  rw [hrequest]
  unfold absolutePosition requestMoveMouseAbsl
  by_cases hblock : s.controller.blockCursorMove = true
  · rw [if_pos (Or.inl hblock), if_pos hblock]
    exact ⟨s,rfl⟩
  · by_cases hnext : 0 < s.controller.blockNextAbsl
    · rw [if_pos (Or.inr hnext), if_neg hblock, if_pos hnext]
      exact ⟨_,rfl⟩
    · rw [if_neg (not_or.mpr ⟨hblock,hnext⟩), if_neg hblock, if_neg hnext]
      dsimp only
      by_cases htemp : tempScreenId = -1
      · rw [if_pos htemp, if_pos htemp]
        cases hp : edgePosition s with
        | none =>
          have hedge : edgePosition {s with controller.lastAbslMoveTime := now} = none := hp
          rw [hedge]
          exact ⟨_,rfl⟩
        | some p =>
          have hedge : edgePosition {s with controller.lastAbslMoveTime := now} = some p := hp
          rw [hedge]
          exact ⟨{s with controller.lastAbslMoveTime := now},rfl,rfl,rfl⟩
      · rw [if_neg htemp, if_neg htemp]
        exact ⟨{s with controller.lastAbslMoveTime := now, lastx := x, lasty := y},rfl,rfl,rfl⟩

theorem absl_delivered (x y : Float) (tempScreenId : ℤ) :
    Delivered now s host (.moveMouseAbsl x y tempScreenId) ↔
      (supports host (.moveMouseAbsl x y tempScreenId) = true →
        Fits s (.moveMouseAbsl x y tempScreenId)) := by
  have hrequest := request_absl now s x y tempScreenId
  cases hposition : absolutePosition s x y tempScreenId with
  | none =>
    rw [hposition] at hrequest
    obtain ⟨s', hsent⟩ := hrequest
    rw [delivered_nothing hsent]
    simp [expected, actionOf, Fits, hposition]
  | some p =>
    rw [hposition] at hrequest
    obtain ⟨s', hreliable, hscreen, hsent⟩ := hrequest
    cases hmode : s.reliable with
    | true =>
      rw [sendMoveAbsl_reliable _ _ _ (hreliable.trans hmode), hscreen] at hsent
      have hread := moveAbsl_read host s.controller.screenId (float32 p.1) (float32 p.2) []
      rw [List.append_nil] at hread
      rw [delivered_iff_fields hsent hread]
      simp [actionOf, Fits, hposition, hmode, byte_iff]
    | false =>
      rw [sendMoveAbsl_unreliable _ _ _ (hreliable.trans hmode), hscreen] at hsent
      have hread := unreliable_read host s.controller.screenId (float32 p.1) (float32 p.2)
      rw [delivered_iff_fields hsent hread]
      apply imp_congr_right
      intro _
      simp only [actionOf, Fits, hposition, hmode, Option.toList_some, List.map_cons, List.map_nil,
        List.cons.injEq, and_true, Action.performMouseMoveAbsl.injEq, Option.mem_some_iff,
        forall_eq', Bool.false_eq_true, if_false]
      constructor
      · rintro ⟨hx, hy, hk⟩
        rw [← hk, misplaced_zero] at hx
        exact ⟨hk.symm,hx.symm,hy.symm.trans hx.symm⟩
      · rintro ⟨hk, hx, hy⟩
        rw [hk, hx, hy]
        exact ⟨misplaced_zero,rfl,rfl⟩

end

/-- An event reaches the platform of a host that supports it, as it was given, exactly
when its fields fit in their bytes. -/
theorem input_delivered (now : ℤ) (s : Sender) (host : Host) (e : InputEvent) :
    Delivered now s host e ↔ (supports host e = true → Fits s e) := by
  cases e with
  | moveMouseAbsl x y tempScreenId => exact absl_delivered x y tempScreenId
  | moveMouseRelative x y screenId =>
    by_cases hblock : s.controller.blockCursorMove = true
    · have hsent : request now s (.moveMouseRelative x y screenId) = some (s,[]) := if_pos hblock
      rw [delivered_nothing hsent]
      simp [expected, actionOf, Fits, hblock]
    · have hopen := Bool.eq_false_of_not_eq_true hblock
      rw [delivered_iff_fields (e := .moveMouseRelative x y screenId)
      (requestMoveMouseRelative_eq s x y screenId hopen)
        (moveRelative_read host screenId (float32 x) (float32 y))]
      simp [actionOf, Fits, hopen, byte_iff]
  | mouseClick buttonId isDown =>
    rw [delivered_iff_fields (e := .mouseClick buttonId isDown)
      (requestMouseClick_eq s buttonId isDown)
      (click_read host buttonId isDown)]
    simp [actionOf, Fits, byte_iff]
  | mouseScroll dx dy =>
    rw [delivered_iff_fields (e := .mouseScroll dx dy)
      (requestMouseScroll_eq s dx dy) (scroll_read host _ _)]
    simp [actionOf, Fits]
  | touchButton x y touchId isDown =>
    rw [delivered_iff_fields (e := .touchButton x y touchId isDown)
      (requestTouchButton_eq s x y touchId isDown)
      (touchButton_read host _ _ touchId isDown)]
    simp [actionOf, Fits, signed_eq_iff, CursorCodec.Int32]
  | touchMove x y touchId =>
    rw [delivered_iff_fields (e := .touchMove x y touchId)
      (requestTouchMove_eq s x y touchId) (touchMove_read host _ _ touchId)]
    simp [actionOf, Fits, signed_eq_iff, CursorCodec.Int32]
  | penEvent x y isDown hasButton pressure rotation tilt =>
    rw [delivered_iff_fields (e := .penEvent x y isDown hasButton pressure rotation tilt)
      (requestPenEvent_eq s x y isDown hasButton pressure rotation tilt)
      (penEvent_read host _ _ _ _ _ isDown hasButton)]
    simp [actionOf, Fits]
  | penMove x y hasButton pressure rotation tilt =>
    rw [delivered_iff_fields (e := .penMove x y hasButton pressure rotation tilt)
      (requestPenMove_eq s x y hasButton pressure rotation tilt)
      (penMove_read host _ _ _ _ _ hasButton)]
    simp [actionOf, Fits]
  | keyEvent keyCode isDown =>
    cases keyCode with
    | none =>
      have hsent : request now s (.keyEvent none isDown) = some (s,[]) := rfl
      rw [delivered_nothing hsent]
      simp [expected, actionOf, Fits]
    | some code =>
      rw [delivered_iff_fields (e := .keyEvent (some code) isDown)
        (requestKeyEvent_eq s code isDown) (key_read host code isDown)]
      simp [actionOf, Fits, byte_iff]

def reliableSender : Sender where
  controller := CursorCodec.viewer 0
  reliable := true
  lastx := 1
  lasty := 1
  revertCursorWheel := false
  sendEmptyPacket := true
  resendCount := 3

/-- The zoom-in key arrives as the insert key. -/
theorem zoom_in_inserts :
    ¬ Delivered 0 reliableSender ⟨.windows,0⟩ (.keyEvent (some 0x22D) true) := by
  rw [delivered_iff_fields (e := .keyEvent (some 0x22D) true)
    (requestKeyEvent_eq reliableSender 0x22D true) (key_read ⟨.windows,0⟩ 0x22D true)]
  intro h
  exact absurd (h rfl) (by decide)

end CloudPlay.InputCodec
