import CloudPlay.PressLog
import CloudPlay.TransitionRun
import Mathlib.Data.Int.Notation
import Mathlib.Logic.Function.Basic

/-!
# The remote of a television

A remote on Android TV moves the mouse or types keys, by a mode that the volume
key and three clicks of the OK key turn. A key is let go in the mode of that
moment, so what it pressed in the other mode stays pressed, and the volume key
turns the mode when it is pressed and again when it is released.
-/

set_option autoImplicit false

namespace CloudPlay.TvRemote
open PressLog TransitionRun

inductive TVControllerMode
  | mouse | keyboard | gamepad
  deriving DecidableEq

inductive Direction
  | up | down | left | right
  deriving DecidableEq

/-- The key of the remote. -/
def Direction.keycode : Direction → ℕ
  | .up => 1019
  | .down => 1020
  | .left => 1021
  | .right => 1022

/-- The arrow key on the host. -/
def Direction.arrow : Direction → ℕ
  | .up => 0x26
  | .down => 0x28
  | .left => 0x25
  | .right => 0x27

inductive HostInput
  | key (code : ℕ)
  | button (id : ℕ)
  deriving DecidableEq

def metaLeft : ℕ := 0x5B
def controlLeft : ℕ := 0xA2
def tab : ℕ := 0x09
def keyO : ℕ := 0x4F
def enter : ℕ := 0x0D

def androidToWindowsKeyMap : List (ℕ × ℕ) :=
  [(29, 0x41), (30, 0x42), (31, 0x43), (32, 0x44), (33, 0x45), (34, 0x46), (35, 0x47),
    (36, 0x48), (37, 0x49), (38, 0x4A), (39, 0x4B), (40, 0x4C), (41, 0x4D), (42, 0x4E),
    (43, 0x4F), (44, 0x50), (45, 0x51), (46, 0x52), (47, 0x53), (48, 0x54), (49, 0x55),
    (50, 0x56), (51, 0x57), (52, 0x58), (53, 0x59), (54, 0x5A), (7, 0x30), (8, 0x31), (9, 0x32),
    (10, 0x33), (11, 0x34), (12, 0x35), (13, 0x36), (14, 0x37), (15, 0x38), (16, 0x39),
    (131, 0x70), (132, 0x71), (133, 0x72), (134, 0x73), (135, 0x74), (136, 0x75), (137, 0x76),
    (138, 0x77), (139, 0x78), (140, 0x79), (141, 0x7A), (142, 0x7B), (111, 0x1B), (66, 0x0D),
    (67, 0x08), (61, 0x09), (62, 0x20), (115, 0x14), (59, 0xA0), (60, 0xA1), (113, 0xA2),
    (114, 0xA3), (57, 0xA4), (58, 0xA5), (19, 0x26), (20, 0x28), (21, 0x25), (22, 0x27),
    (92, 0x21), (93, 0x22), (3, 0x24), (123, 0x23), (124, 0x2D), (112, 0x2E), (143, 0x90),
    (116, 0x91), (144, 0x60), (145, 0x61), (146, 0x62), (147, 0x63), (148, 0x64), (149, 0x65),
    (150, 0x66), (151, 0x67), (152, 0x68), (153, 0x69), (157, 0x6B), (156, 0x6D), (155, 0x6A),
    (154, 0x6F), (160, 0x0D), (158, 0x6E), (69, 0xBD), (70, 0xBB), (71, 0xDB), (72, 0xDD),
    (73, 0xDC), (74, 0xBA), (75, 0xDE), (55, 0xBC), (56, 0xBE), (76, 0xBF), (68, 0xC0),
    (120, 0x2C), (121, 0x13), (259, 0x2F), (117, 0x5B), (118, 0x5C), (82, 0x5D), (85, 0xB3),
    (86, 0xB2), (87, 0xB0), (88, 0xB1), (65, 0xB4), (64, 0xB6), (187, 0xB7), (4, 0xA6),
    (125, 0xA7), (285, 0xA8), (83, 0xA9), (84, 0xAA), (174, 0xAB), (170, 0xAC)]

/-- A second, in microseconds. -/
def okButtonTimeout : ℤ := 1000000

/-- The directions are those of the smooth mouse controller. -/
structure InputController where
  controllerMode : TVControllerMode := .mouse
  okButtonClickCount : ℕ := 0
  lastOkButtonClick : Option ℤ := none
  isPressed : Direction → Bool := fun _ => false
  sent : List (HostInput × Bool) := []

namespace InputController
variable (s : InputController)

def requestKeyEvent (code : ℕ) (isDown : Bool) : InputController :=
  {s with sent := s.sent ++ [(.key code,isDown)]}

@[simp] theorem requestKeyEvent_controllerMode (code : ℕ) (isDown : Bool) :
    (s.requestKeyEvent code isDown).controllerMode = s.controllerMode := rfl

@[simp] theorem requestKeyEvent_isPressed (code : ℕ) (isDown : Bool) :
    (s.requestKeyEvent code isDown).isPressed = s.isPressed := rfl

def requestMouseClick (button : ℕ) (isDown : Bool) : InputController :=
  {s with sent := s.sent ++ [(.button button,isDown)]}

def onDirectionKey (d : Direction) (isDown : Bool) : InputController :=
  {s with isPressed := Function.update s.isPressed d isDown}

def toggleMode : InputController :=
  {s with controllerMode := if s.controllerMode = .mouse then .keyboard else .mouse}

def showAllApps : InputController :=
  (((s.requestKeyEvent metaLeft true).requestKeyEvent tab true).requestKeyEvent tab
    false).requestKeyEvent metaLeft false

def openKeyboard : InputController :=
  (((((s.requestKeyEvent metaLeft true).requestKeyEvent controlLeft true).requestKeyEvent keyO
    true).requestKeyEvent keyO false).requestKeyEvent controlLeft false).requestKeyEvent
    metaLeft false

def menuKey (isDown : Bool) : InputController :=
  if s.controllerMode = .mouse then s.requestMouseClick 3 isDown
  else if s.controllerMode = .keyboard ∧ isDown then s.showAllApps
  else s

def directionKey (d : Direction) (isDown : Bool) : InputController :=
  if s.controllerMode = .mouse then s.onDirectionKey d isDown
  else s.requestKeyEvent d.arrow isDown

def countOk (now : ℤ) : InputController :=
  let expired := match s.lastOkButtonClick with
    | none => true
    | some last => now-last > okButtonTimeout
  {s with
    okButtonClickCount := (if expired then 0 else s.okButtonClickCount)+1
    lastOkButtonClick := some now}

def clickOk (isDown : Bool) : InputController :=
  if s.controllerMode = .mouse then s.requestMouseClick 1 isDown
  else s.requestKeyEvent enter isDown

def okKey (now : ℤ) (isDown : Bool) : InputController :=
  if isDown then
    let s := s.countOk now
    if s.okButtonClickCount ≥ 3 then
      {s.toggleMode with okButtonClickCount := 0, lastOkButtonClick := none}
    else s.clickOk isDown
  else s.clickOk isDown

def mappedKey (keycode : ℕ) (isDown : Bool) : InputController :=
  match androidToWindowsKeyMap.lookup keycode with
  | some code => s.requestKeyEvent code isDown
  | none => s

end InputController

structure KeyEvent where
  now : ℤ
  keycode : ℕ
  isDown : Bool

/-- On Android TV. The key 4 leaves the stream and sends nothing. -/
def keyboardPressedCallbackAndroid (e : KeyEvent) (s : InputController) : InputController :=
  match e.keycode with
  | 4 => s
  | 1082 => s.menuKey e.isDown
  | 1024 => s.openKeyboard
  | 1025 => s.toggleMode
  | 1019 => s.directionKey .up e.isDown
  | 1020 => s.directionKey .down e.isDown
  | 1021 => s.directionKey .left e.isDown
  | 1022 => s.directionKey .right e.isDown
  | 1023 => s.okKey e.now e.isDown
  | _ => s.mappedKey e.keycode e.isDown

/-- The controller, the keys that are down, and how often the volume key has turned
the mode since it was pressed. -/
structure Watched where
  controller : InputController := {}
  down : List ℕ := []
  turned : Option ℕ := none

def turns (e : KeyEvent) (s : InputController) : ℕ :=
  if (keyboardPressedCallbackAndroid e s).controllerMode = s.controllerMode then 0 else 1

def step (e : KeyEvent) (w : Watched) : Watched where
  controller := keyboardPressedCallbackAndroid e w.controller
  down := if e.isDown then e.keycode::w.down else w.down.filter (· ≠ e.keycode)
  turned :=
    if e.keycode = 1025 then
      if e.isDown then some (w.turned.getD 0+turns e w.controller) else none
    else w.turned

structure Sound (e : KeyEvent) (w : Watched) : Prop where
  released : (step e w).down = [] → ∀ input, Released input (step e w).controller.sent
  still : (step e w).down = [] → ∀ d, (step e w).controller.isPressed d = false
  once : e.keycode = 1025 → e.isDown = false → ∀ n, w.turned = some n →
    n+turns e w.controller = 1

/-- The keys that press something else in the other mode. -/
def modalKeys (mode : TVControllerMode) : List ℕ :=
  if mode = .mouse then [1019, 1020, 1021, 1022, 1023, 1082] else [1019, 1020, 1021, 1022, 1023]

/-- The volume key, or the third click of the OK key in time. -/
def Toggles (e : KeyEvent) (s : InputController) : Prop :=
  e.keycode = 1025 ∨ e.keycode = 1023 ∧ e.isDown = true ∧ 3 ≤ (s.countOk e.now).okButtonClickCount

/-- The volume key is not pressed, and the mode is turned while no key is down that
means something else in the other mode. -/
def Guard (e : KeyEvent) (w : Watched) : Prop :=
  (e.keycode = 1025 → e.isDown = false) ∧
    (Toggles e w.controller →
      ∀ keycode ∈ w.down, keycode ∉ modalKeys w.controller.controllerMode)

instance (e : KeyEvent) (s : InputController) : Decidable (Toggles e s) :=
  inferInstanceAs (Decidable (_ ∨ _))

instance (e : KeyEvent) (w : Watched) : Decidable (Guard e w) :=
  inferInstanceAs (Decidable (_ ∧ _))

/-- What a key of the remote presses and releases on the host. -/
def target (mode : TVControllerMode) (keycode : ℕ) : Option HostInput :=
  match keycode with
  | 4 | 1024 | 1025 => none
  | 1082 => if mode = .mouse then some (.button 3) else none
  | 1019 => if mode = .mouse then none else some (.key Direction.up.arrow)
  | 1020 => if mode = .mouse then none else some (.key Direction.down.arrow)
  | 1021 => if mode = .mouse then none else some (.key Direction.left.arrow)
  | 1022 => if mode = .mouse then none else some (.key Direction.right.arrow)
  | 1023 => if mode = .mouse then some (.button 1) else some (.key enter)
  | _ => (androidToWindowsKeyMap.lookup keycode).map .key

/-- What a key event that does not turn the mode leaves held. -/
structure Presses (e : KeyEvent) (s s' : InputController) : Prop where
  mode : s'.controllerMode = s.controllerMode
  inputs : ∀ input, held input s'.sent = true →
    target s.controllerMode e.keycode = some input ∧ e.isDown = true ∨
      target s.controllerMode e.keycode ≠ some input ∧ held input s.sent = true
  directions : ∀ d, s'.isPressed d = true →
    s.controllerMode = .mouse ∧ d.keycode = e.keycode ∧ e.isDown = true ∨
      s.isPressed d = true ∧
        (s.controllerMode = .mouse → d.keycode = e.keycode → e.isDown = true)

section Keys
variable {e : KeyEvent} {s s' : InputController}

/-- A key with one target sends its event there. -/
theorem presses_target {input : HostInput} (ht : target s.controllerMode e.keycode = some input)
    (hm : s'.controllerMode = s.controllerMode) (hp : s'.isPressed = s.isPressed)
    (hsent : s'.sent = s.sent ++ [(input,e.isDown)])
    (hd : ∀ d : Direction, s.controllerMode = .mouse → d.keycode ≠ e.keycode) :
    Presses e s s' := by
  constructor
  · exact hm
  · intro other hother
    rw [hsent, held_concat, touch] at hother
    split at hother
    · rename_i hsame
      exact Or.inl ⟨ht.trans (congrArg some hsame),hother⟩
    · rename_i hne
      exact Or.inr ⟨fun h => hne (Option.some.inj (ht.symm.trans h)),hother⟩
  · intro d hpressed
    rw [hp] at hpressed
    exact Or.inr ⟨hpressed,fun hmouse hkey => absurd hkey (hd d hmouse)⟩

/-- A key without a target lets go of what it presses. -/
theorem presses_none (ht : target s.controllerMode e.keycode = none)
    (hm : s'.controllerMode = s.controllerMode) (hp : s'.isPressed = s.isPressed)
    (hsent : ∀ input, held input s'.sent = true → held input s.sent = true)
    (hd : ∀ d : Direction, s.controllerMode = .mouse → d.keycode ≠ e.keycode) :
    Presses e s s' := by
  constructor
  · exact hm
  · intro other hother
    rw [ht]
    exact Or.inr ⟨(fun h => nomatch h),hsent other hother⟩
  · intro d hpressed
    rw [hp] at hpressed
    exact Or.inr ⟨hpressed,fun hmouse hkey => absurd hkey (hd d hmouse)⟩

theorem held_showAllApps (s : InputController) (input : HostInput)
    (h : held input s.showAllApps.sent = true) : held input s.sent = true := by
  simp only [InputController.showAllApps, InputController.requestKeyEvent, held_concat,
    touch] at h
  split_ifs at h
  exact h

theorem held_openKeyboard (s : InputController) (input : HostInput)
    (h : held input s.openKeyboard.sent = true) : held input s.sent = true := by
  simp only [InputController.openKeyboard, InputController.requestKeyEvent, held_concat,
    touch] at h
  split_ifs at h
  exact h

theorem keycode_ne (d : Direction) {keycode : ℕ} (h : keycode < 1019 ∨ 1022 < keycode) :
    d.keycode ≠ keycode := by
  cases d <;> simp only [Direction.keycode] <;> omega

theorem menuKey_presses (hk : e.keycode = 1082) : Presses e s (s.menuKey e.isDown) := by
  have hd : ∀ d : Direction, s.controllerMode = .mouse → d.keycode ≠ e.keycode :=
    fun d _ => keycode_ne d (by omega)
  unfold InputController.menuKey
  split
  · rename_i hmouse
    exact presses_target (by rw [hk, hmouse]; rfl) rfl rfl rfl hd
  · rename_i hmouse
    have ht : target s.controllerMode e.keycode = none := by simp [hk, target, hmouse]
    split
    · exact presses_none ht rfl rfl (held_showAllApps s) hd
    · exact presses_none ht rfl rfl (fun _ h => h) hd

theorem directionKey_target (d : Direction) (h : s.controllerMode ≠ .mouse) :
    target s.controllerMode d.keycode = some (.key d.arrow) := by
  cases d <;> simp [target, Direction.keycode, h]

theorem directionKey_none (d : Direction) (h : s.controllerMode = .mouse) :
    target s.controllerMode d.keycode = none := by
  cases d <;> simp [target, Direction.keycode, h]

theorem keycode_injective {d d' : Direction} (h : d.keycode = d'.keycode) : d = d' := by
  cases d <;> cases d' <;> first | rfl | cases h

theorem directionKey_presses (d : Direction) (hk : e.keycode = d.keycode) :
    Presses e s (s.directionKey d e.isDown) := by
  unfold InputController.directionKey
  split
  · rename_i hmouse
    constructor
    · rfl
    · intro input hinput
      rw [hk, directionKey_none d hmouse]
      exact Or.inr ⟨(fun h => nomatch h),hinput⟩
    · intro d' hpressed
      by_cases hd : d' = d
      · subst hd
        simp only [InputController.onDirectionKey, Function.update_self] at hpressed
        exact Or.inl ⟨hmouse,hk.symm,hpressed⟩
      · simp only [InputController.onDirectionKey, Function.update_of_ne hd] at hpressed
        exact Or.inr ⟨hpressed,fun _ h => absurd (keycode_injective (h.trans hk)) hd⟩
  · rename_i hmouse
    have ht := directionKey_target d hmouse
    rw [← hk] at ht
    exact presses_target ht rfl rfl rfl fun _ h => absurd h hmouse

theorem clickOk_presses (hk : e.keycode = 1023) (hm : s'.controllerMode = s.controllerMode)
    (hp : s'.isPressed = s.isPressed) (hs : s'.sent = s.sent) :
    Presses e s (s'.clickOk e.isDown) := by
  have hd : ∀ d : Direction, s.controllerMode = .mouse → d.keycode ≠ e.keycode :=
    fun d _ => keycode_ne d (by omega)
  unfold InputController.clickOk
  rw [hm]
  split
  · rename_i hmouse
    have ht : target s.controllerMode e.keycode = some (.button 1) := by rw [hk, hmouse]; rfl
    exact presses_target ht hm hp (by rw [InputController.requestMouseClick, hs]) hd
  · rename_i hmouse
    have ht : target s.controllerMode e.keycode = some (.key enter) := by
      simp [hk, target, hmouse]
    exact presses_target ht hm hp (by rw [InputController.requestKeyEvent, hs]) hd

theorem mappedKey_presses (ht : target s.controllerMode e.keycode =
      (androidToWindowsKeyMap.lookup e.keycode).map .key)
    (hd : ∀ d : Direction, d.keycode ≠ e.keycode) :
    Presses e s (s.mappedKey e.keycode e.isDown) := by
  unfold InputController.mappedKey
  split
  · rename_i code hcode
    rw [hcode] at ht
    exact presses_target ht rfl rfl rfl fun d _ => hd d
  · rename_i hcode
    rw [hcode] at ht
    exact presses_none ht rfl rfl (fun _ h => h) fun d _ => hd d

/-- The OK key clicks, or turns the mode and clicks nothing. -/
theorem okKey_cases (now : ℤ) (isDown : Bool) (s : InputController) :
    (s.okKey now isDown = s.clickOk isDown ∧ isDown = false) ∨
      (s.okKey now isDown = (s.countOk now).clickOk isDown ∧ isDown = true ∧
        (s.countOk now).okButtonClickCount < 3) ∨
      ((s.okKey now isDown).sent = s.sent ∧ (s.okKey now isDown).isPressed = s.isPressed ∧
        (s.okKey now isDown).controllerMode = s.toggleMode.controllerMode ∧ isDown = true ∧
        3 ≤ (s.countOk now).okButtonClickCount) := by
  unfold InputController.okKey
  cases isDown with
  | false => exact Or.inl ⟨rfl,rfl⟩
  | true =>
    dsimp only
    rw [if_pos rfl]
    split
    · rename_i hthree
      exact Or.inr (Or.inr ⟨rfl,rfl,rfl,rfl,hthree⟩)
    · rename_i hfew
      exact Or.inr (Or.inl ⟨rfl,rfl,Nat.not_le.mp hfew⟩)

/-- A key event that turns the mode does nothing else. -/
theorem toggles_spec (h : Toggles e s) :
    (keyboardPressedCallbackAndroid e s).sent = s.sent ∧
      (keyboardPressedCallbackAndroid e s).isPressed = s.isPressed := by
  unfold keyboardPressedCallbackAndroid
  rcases h with hk | ⟨hk, hdown, hthree⟩
  · rw [hk]
    exact ⟨rfl,rfl⟩
  · rw [hk]
    rcases okKey_cases e.now e.isDown s with ⟨-, hup⟩ | ⟨-, -, hfew⟩ | ⟨hsent, hpressed, -⟩
    · rw [hdown] at hup
      cases hup
    · omega
    · exact ⟨hsent,hpressed⟩

theorem presses_spec (h : ¬Toggles e s) :
    Presses e s (keyboardPressedCallbackAndroid e s) := by
  unfold keyboardPressedCallbackAndroid
  split
  · rename_i hk
    exact presses_none (by rw [hk]; rfl) rfl rfl (fun _ h => h) fun d _ => keycode_ne d (by omega)
  · exact menuKey_presses ‹_›
  · rename_i hk
    exact presses_none (by rw [hk]; rfl) (by simp [InputController.openKeyboard])
      (by simp [InputController.openKeyboard]) (held_openKeyboard s)
      fun d _ => keycode_ne d (by omega)
  · rename_i hk
    exact absurd (Or.inl hk) h
  · exact directionKey_presses .up ‹_›
  · exact directionKey_presses .down ‹_›
  · exact directionKey_presses .left ‹_›
  · exact directionKey_presses .right ‹_›
  · rename_i hk
    rcases okKey_cases e.now e.isDown s with ⟨hok, -⟩ | ⟨hok, -⟩ | ⟨-, -, -, hdown, hthree⟩
    · rw [hok]
      exact clickOk_presses hk rfl rfl rfl
    · rw [hok]
      exact clickOk_presses hk rfl rfl rfl
    · exact absurd (Or.inr ⟨hk,hdown,hthree⟩) h
  · apply mappedKey_presses
    · unfold target
      split <;> first | contradiction | rfl
    · intro d hd
      cases d <;> simp_all [Direction.keycode]

end Keys

/-- What is held belongs to a key that is down, in the mode of the moment. -/
structure Accounted (w : Watched) : Prop where
  inputs : ∀ input, held input w.controller.sent = true →
    ∃ keycode ∈ w.down, target w.controller.controllerMode keycode = some input
  directions : ∀ d, w.controller.isPressed d = true →
    w.controller.controllerMode = .mouse ∧ d.keycode ∈ w.down
  unturned : w.turned = none

section Steps
variable {e : KeyEvent} {w : Watched}

/-- A key that is down means the same in both modes, unless it is modal. -/
theorem target_stable {mode : TVControllerMode} {keycode : ℕ} {input : HostInput}
    (h : keycode ∉ modalKeys mode) (ht : target mode keycode = some input)
    (mode' : TVControllerMode) : target mode' keycode = some input := by
  have hmodal : keycode ≠ 1019 ∧ keycode ≠ 1020 ∧ keycode ≠ 1021 ∧ keycode ≠ 1022 ∧
      keycode ≠ 1023 ∧ keycode ≠ 1082 := by
    by_cases hmouse : mode = .mouse
    · simpa [modalKeys, hmouse] using h
    · -- the menu key presses nothing in keyboard mode
      have hmenu : keycode ≠ 1082 := by
        rintro rfl
        simp [target, hmouse] at ht
      simp only [modalKeys, hmouse, if_false, List.mem_cons, List.not_mem_nil, or_false,
        not_or] at h
      exact ⟨h.1,h.2.1,h.2.2.1,h.2.2.2.1,h.2.2.2.2,hmenu⟩
  unfold target at ht ⊢
  split at ht <;> first | exact ht | omega

theorem mem_down {keycode : ℕ} (h : keycode ∈ w.down)
    (hkept : keycode = e.keycode → e.isDown = true) : keycode ∈ (step e w).down := by
  simp only [step]
  split
  · exact List.mem_cons_of_mem _ h
  · rename_i hup
    exact List.mem_filter.mpr ⟨h,decide_eq_true fun hk => hup (hkept hk)⟩

theorem unturned_step (hg : Guard e w) (h : w.turned = none) : (step e w).turned = none := by
  simp only [step]
  split
  · rename_i hk
    rw [hg.1 hk]
    rfl
  · exact h

theorem turned_accounted (hg : Guard e w) (ht : Toggles e w.controller) (h : Accounted w) :
    Accounted (step e w) := by
  obtain ⟨hsent, hpressed⟩ := toggles_spec ht
  have hidle := hg.2 ht
  constructor
  · intro input hinput
    rw [step, hsent] at hinput
    obtain ⟨keycode, hdown, hkey⟩ := h.inputs input hinput
    refine ⟨keycode,mem_down hdown ?_,target_stable (hidle keycode hdown) hkey _⟩
    rintro rfl
    rcases ht with hk | ⟨-, hisDown, -⟩
    · rw [hk] at hkey
      cases hkey
    · exact hisDown
  · intro d hd
    rw [step, hpressed] at hd
    obtain ⟨hmouse, hdown⟩ := h.directions d hd
    have hmodal := hidle d.keycode hdown
    rw [hmouse] at hmodal
    cases d <;> exact absurd (by decide) hmodal
  · exact unturned_step hg h.unturned

theorem pressed_accounted (hg : Guard e w) (ht : ¬Toggles e w.controller) (h : Accounted w) :
    Accounted (step e w) := by
  have hspec := presses_spec ht
  have hpress : e.isDown = true → e.keycode ∈ (step e w).down := by
    intro hisDown
    simp [step, hisDown]
  constructor
  · intro input hinput
    have hmode : (step e w).controller.controllerMode = w.controller.controllerMode := hspec.mode
    rw [hmode]
    rcases hspec.inputs input hinput with ⟨hkey, hisDown⟩ | ⟨hother, hbefore⟩
    · exact ⟨e.keycode,hpress hisDown,hkey⟩
    · obtain ⟨keycode, hdown, hkey⟩ := h.inputs input hbefore
      refine ⟨keycode,mem_down hdown ?_,hkey⟩
      rintro rfl
      exact absurd hkey hother
  · intro d hd
    have hmode : (step e w).controller.controllerMode = w.controller.controllerMode := hspec.mode
    rw [hmode]
    rcases hspec.directions d hd with ⟨hmouse, hkey, hisDown⟩ | ⟨hbefore, hkept⟩
    · exact ⟨hmouse,by rw [hkey]; exact hpress hisDown⟩
    · obtain ⟨hmouse, hdown⟩ := h.directions d hbefore
      exact ⟨hmouse,mem_down hdown (hkept hmouse)⟩
  · exact unturned_step hg h.unturned

theorem accounted_step (e : KeyEvent) (w : Watched) (hg : Guard e w) (h : Accounted w) :
    Accounted (step e w) := by
  by_cases ht : Toggles e w.controller
  · exact turned_accounted hg ht h
  · exact pressed_accounted hg ht h

theorem Accounted.sound (hg : Guard e w) (h : Accounted w) : Sound e w := by
  have hnext := accounted_step e w hg h
  constructor
  · intro hdown input
    rw [released_iff, ← Bool.not_eq_true]
    intro hinput
    obtain ⟨keycode, hkey, -⟩ := hnext.inputs input hinput
    rw [hdown] at hkey
    cases hkey
  · intro hdown d
    rw [← Bool.not_eq_true]
    intro hd
    have hkey := (hnext.directions d hd).2
    rw [hdown] at hkey
    cases hkey
  · intro _ _ n hn
    rw [h.unturned] at hn
    cases hn

end Steps

def start (mode : TVControllerMode) : Watched := {controller := {controllerMode := mode}}

theorem start_accounted (mode : TVControllerMode) : Accounted (start mode) := by
  constructor
  · intro input hinput
    cases hinput
  · intro d hd
    cases hd
  · rfl

/-- In a run in which the volume key is not pressed and the mode is turned only
while no modal key is down, nothing is held once all keys are released. -/
theorem remote_sound (mode : TVControllerMode) (es : List KeyEvent)
    (h : Meets step Guard es (start mode)) : Meets step Sound es (start mode) := by
  exact meets_of_invariant step accounted_step (fun _ _ hg ha => ha.sound hg) es _ h
    (start_accounted mode)

def okClick (now : ℤ) (isDown : Bool) : KeyEvent := ⟨now,1023,isDown⟩

/-- Three clicks turn the mode, and an arrow key is typed. -/
theorem remote_sound_arrow : Meets step Sound
    [okClick 0 true, okClick 100000 false, okClick 200000 true, okClick 300000 false,
      okClick 400000 true, okClick 500000 false, ⟨600000,1019,true⟩, ⟨700000,1019,false⟩]
    (start .mouse) :=
  remote_sound .mouse _ (by decide)

/-- The volume key is pressed while the right button is, and released after it. -/
theorem right_button_stays : ¬Meets step Sound
    [⟨0,1082,true⟩, ⟨1,1025,true⟩, ⟨2,1082,false⟩, ⟨3,1025,false⟩] (start .mouse) := by
  rintro ⟨-, -, -, h, -⟩
  have hbutton := (released_iff _ _).mp (h.released (by decide) (.button 3))
  revert hbutton
  decide

end CloudPlay.TvRemote
