import CloudPlay.GamepadTexts
import CloudPlay.PressLog
import CloudPlay.ShownSticks

/-!
# Keys shared by on-screen buttons

A button holds its key while a finger is on it, or in toggle mode from one tap to the next,
and a click of a stick holds a button of the pad for a moment. Several of them may stand for
one key, and the first to let go releases it for all.
-/

set_option autoImplicit false

namespace CloudPlay.SharedKeys
open GamepadState OnScreenControls PressLog ShownSticks TransitionRun
open TouchInput (Offset)
open VirtualControls (ButtonKeys JoystickType)

/-- What is held at the host. -/
inductive Key
  | keyboard (code : Byte)
  | mouse (id : Byte)
  | gamepad (c : PadControl)
  deriving DecidableEq

def padKey (keyCode : ℤ) : Option Key := (padControl keyCode).map .gamepad

/-- The key of a button; an unknown gamepad button has none. -/
def keyOf (k : ButtonKeys) : Option Key :=
  if k.isMouseButton then some (.mouse (BitVec.ofInt 8 k.keyCode))
  else if k.isGamepadButton then padKey k.keyCode
  else some (.keyboard (BitVec.ofInt 8 k.keyCode))

def keyPress : Request → Option (Byte × Bool)
  | .key keyCode isDown => some (keyCode,isDown)
  | _ => none

def mousePress : Request → Option (Byte × Bool)
  | .mouseClick buttonId isDown => some (buttonId,isDown)
  | _ => none

/-- What is down on a pad in this state. -/
def padHolds (g : CGamepadState) : PadControl → Bool
  | .leftTrigger => g.analogs .bLeftTrigger != 0
  | .rightTrigger => g.analogs .bRightTrigger != 0
  | .button mapped => g.buttonDown mapped

/-- What the host holds by what it was sent: the presses of a key, and the last text of the
pad, which it reads as a state. -/
def HostHolds (r : Renderer) : Key → Prop
  | .keyboard code => held code (r.sent.filterMap keyPress) = true
  | .mouse id => held id (r.sent.filterMap mousePress) = true
  | .gamepad c => ∃ g : CGamepadState, Renderer.told r = g.getStateString ∧ padHolds g c = true

/-- What the client takes to be held. -/
def holds (r : Renderer) : Key → Bool
  | .keyboard code => held code (r.sent.filterMap keyPress)
  | .mouse id => held id (r.sent.filterMap mousePress)
  | .gamepad c => padHolds r.gamepadState c

/-- A host that was told the state of the pad holds what the client takes to be held. -/
theorem hostHolds_iff {r : Renderer} (h : Reported r) (key : Key) :
    HostHolds r key ↔ holds r key = true := by
  cases key with
  | keyboard code => rfl
  | mouse id => rfl
  | gamepad c =>
    constructor
    · rintro ⟨g, htold, hg⟩
      have hstate : r.gamepadState = g := GamepadTexts.getStateString_injective (h.symm.trans htold)
      rw [holds, hstate]
      exact hg
    · exact fun hc => ⟨r.gamepadState,h,hc⟩

section Holds
variable (r : Renderer) (key : Key) (isDown : Bool)

/-- A request that is no key and no button of the mouse. -/
theorem request_holds (q : Request) (hkey : keyPress q = none) (hmouse : mousePress q = none) :
    holds (r.request q) key = holds r key := by
  cases key with
  | keyboard code => simp [holds, Renderer.request, hkey]
  | mouse id => simp [holds, Renderer.request, hmouse]
  | gamepad c => cases c <;> rfl

theorem gamePad_holds : holds r.requestGamePadEvent key = holds r key :=
  request_holds r key _ rfl rfl

theorem keyboard_holds (code : Byte) : holds (r.request (.key code isDown)) key =
    if key = .keyboard code then isDown else holds r key := by
  cases key with
  | keyboard code' =>
    simp only [holds, Renderer.request, List.filterMap_append, List.filterMap_cons,
      List.filterMap_nil, keyPress, held_concat, touch, Key.keyboard.injEq, eq_comm]
  | mouse id => simp [holds, Renderer.request, List.filterMap_cons, mousePress]
  | gamepad c => cases c <;> rfl

theorem mouse_holds (id : Byte) : holds (r.request (.mouseClick id isDown)) key =
    if key = .mouse id then isDown else holds r key := by
  cases key with
  | keyboard code => simp [holds, Renderer.request, List.filterMap_cons, keyPress]
  | mouse id' =>
    simp only [holds, Renderer.request, List.filterMap_append, List.filterMap_cons,
      List.filterMap_nil, mousePress, held_concat, touch, Key.mouse.injEq, eq_comm]
  | gamepad c => cases c <;> rfl

theorem moveControl_holds (c : PadControl) :
    holds (r.moveControl c isDown) key = if key = .gamepad c then isDown else holds r key := by
  cases key with
  | keyboard code => cases c <;> rfl
  | mouse id => cases c <;> rfl
  | gamepad c' =>
    cases c <;> cases c' <;> cases isDown <;>
      simp [holds, padHolds, Renderer.moveControl, Renderer.setAnalog, CGamepadState.setAnalog,
        CGamepadState.press, Function.update_apply]

theorem button_holds (keyCode : ℤ) : holds (r.handleButton keyCode isDown) key =
    if padKey keyCode = some key then isDown else holds r key := by
  rw [Renderer.handleButton, padKey]
  cases padControl keyCode with
  | none => simp
  | some c =>
    simp only [gamePad_holds, moveControl_holds, Option.map_some, Option.some.injEq]
    simp only [eq_comm]

theorem key_holds (sensitivity : ℚ) (k : ButtonKeys) :
    holds (r.handleControlEvent sensitivity (keyEvent k isDown)) key =
      if keyOf k = some key then isDown else holds r key := by
  rw [keyEvent, keyOf]
  by_cases hm : k.isMouseButton
  · rw [if_pos hm, if_pos hm, Renderer.handleControlEvent, mouse_holds]
    simp only [Option.some.injEq, eq_comm]
  · rw [if_neg hm, if_neg hm]
    by_cases hg : k.isGamepadButton
    · rw [if_pos hg, if_pos hg]
      exact button_holds r key isDown k.keyCode
    · rw [if_neg hg, if_neg hg, Renderer.handleControlEvent, keyboard_holds]
      simp only [Option.some.injEq, eq_comm]

theorem axes_holds (t : JoystickType) (x y : ℚ) : holds (sendAxes t x y r) key = holds r key := by
  cases t
  all_goals
    simp only [sendAxes, xKey, yKey, Renderer.handleAnalog, gamePad_holds]
    cases key with
    | keyboard code => rfl
    | mouse id => rfl
    | gamepad c => cases c <;> rfl

end Holds

section Wanted
variable {ι κ : Type} (layout : Layout ι κ)

/-- A button wants its key down. -/
def wants (s : Overlay ι κ) (k : κ) : Bool :=
  if (layout.buttons k).isToggleMode then (s.button k).isKeyDown else s.fingers k != 0

def Wanted (s : Overlay ι κ) (key : Key) : Prop :=
  (∃ k, keyOf (layout.buttons k) = some key ∧ wants layout s k = true) ∨
    ∃ button ∈ s.clicks, padKey button = some key

/-- Something else than the button wants the key. -/
def WantedBeside (s : Overlay ι κ) (k : κ) (key : Key) : Prop :=
  (∃ k', k' ≠ k ∧ keyOf (layout.buttons k') = some key ∧ wants layout s k' = true) ∨
    ∃ button ∈ s.clicks, padKey button = some key

/-- The host holds what is wanted. -/
def HostFollowed (s : Overlay ι κ) : Prop := ∀ key, HostHolds s.renderer key ↔ Wanted layout s key

/-- The client takes to be held what is wanted. -/
def Followed (s : Overlay ι κ) : Prop := ∀ key, holds s.renderer key = true ↔ Wanted layout s key

/-- Nothing lets go of a key that something else wants: a button turned off, the last finger
of a button, or the click of a stick. -/
def Unshared : Event ι κ → Overlay ι κ → Prop
  | .down k _, s =>
      (layout.buttons k).isToggleMode = true → (s.button k).isKeyDown = true →
        ∀ key, keyOf (layout.buttons k) = some key → ¬WantedBeside layout s k key
  | .up k, s =>
      (layout.buttons k).isToggleMode = false → s.fingers k ≠ 0 →
        ∀ key, keyOf (layout.buttons k) = some key →
          s.fingers k = 1 ∧ ¬WantedBeside layout s k key
  | .clickButtonDelay n, s =>
      ∀ button, s.clicks[n]? = some button → ∀ key, padKey button = some key →
        (∀ k, keyOf (layout.buttons k) = some key → wants layout s k = false) ∧
        ∀ other ∈ s.clicks.eraseIdx n, padKey other ≠ some key
  | _, _ => True

variable {layout} {s s' : Overlay ι κ}

theorem wanted_iff (k : κ) (key : Key) : Wanted layout s key ↔
    keyOf (layout.buttons k) = some key ∧ wants layout s k = true ∨
      WantedBeside layout s k key := by
  constructor
  · rintro (⟨k', hk, hw⟩ | hclick)
    · by_cases hsame : k' = k
      · exact Or.inl ⟨hsame ▸ hk,hsame ▸ hw⟩
      · exact Or.inr (Or.inl ⟨k',hsame,hk,hw⟩)
    · exact Or.inr (Or.inr hclick)
  · rintro (⟨hk, hw⟩ | ⟨k', -, hk, hw⟩ | hclick)
    · exact Or.inl ⟨k,hk,hw⟩
    · exact Or.inl ⟨k',hk,hw⟩
    · exact Or.inr hclick

/-- A change of one button is seen beside no other. -/
theorem wantedBeside_congr {k : κ} (hw : ∀ k', k' ≠ k → wants layout s' k' = wants layout s k')
    (hc : s'.clicks = s.clicks) (key : Key) :
    WantedBeside layout s' k key ↔ WantedBeside layout s k key := by
  rw [WantedBeside, WantedBeside, hc]
  apply or_congr_left
  apply exists_congr
  intro k'
  apply and_congr_right
  intro hk
  rw [hw k' hk]

/-- One key goes where it is sent, and is wanted when it goes down. -/
theorem followed_set_iff (h : Followed layout s) {moved : Option Key} {isDown : Bool}
    (hholds : ∀ key, holds s'.renderer key =
      if moved = some key then isDown else holds s.renderer key)
    (hwanted : ∀ key, moved ≠ some key → (Wanted layout s' key ↔ Wanted layout s key))
    (hdown : isDown = true → ∀ key, moved = some key → Wanted layout s' key) :
    Followed layout s' ↔ (isDown = false → ∀ key, moved = some key → ¬Wanted layout s' key) := by
  constructor
  · intro hf hup key hkey hw
    have hheld := (hf key).mpr hw
    rw [hholds, if_pos hkey, hup] at hheld
    cases hheld
  · intro hup key
    rw [hholds]
    split
    · rename_i hkey
      cases isDown
      · exact iff_of_false (by simp) (hup rfl key hkey)
      · exact iff_of_true rfl (hdown rfl key hkey)
    · rename_i hkey
      rw [h key, hwanted key hkey]

/-- A button that sends its key must not be the one of several to let it go. -/
theorem button_followed_iff (h : Followed layout s) {k : κ} {isDown : Bool}
    (hholds : ∀ key, holds s'.renderer key =
      if keyOf (layout.buttons k) = some key then isDown else holds s.renderer key)
    (hw : ∀ k', k' ≠ k → wants layout s' k' = wants layout s k') (hc : s'.clicks = s.clicks)
    (hdown : isDown = true → wants layout s' k = true) :
    Followed layout s' ↔ (isDown = false → ∀ key, keyOf (layout.buttons k) = some key →
      wants layout s' k = false ∧ ¬WantedBeside layout s k key) := by
  have hbeside := wantedBeside_congr hw hc
  rw [followed_set_iff h hholds]
  · apply forall_congr'
    intro hup
    apply forall_congr'
    intro key
    apply forall_congr'
    intro hkey
    rw [wanted_iff k, hbeside, not_or, hkey]
    simp
  · intro key hkey
    rw [wanted_iff k, wanted_iff k, hbeside, or_congr_left]
    simp [hkey]
  · exact fun hd key hkey => Or.inl ⟨k,hkey,hdown hd⟩

theorem hostFollowed_iff (h : Reported s.renderer) :
    HostFollowed layout s ↔ Followed layout s :=
  forall_congr' fun key => iff_congr (hostHolds_iff h key) Iff.rfl

theorem followed_same (h : Followed layout s)
    (hholds : ∀ key, holds s'.renderer key = holds s.renderer key)
    (hw : ∀ k, wants layout s' k = wants layout s k) (hc : s'.clicks = s.clicks) :
    Followed layout s' := by
  intro key
  rw [hholds, h key, Wanted, Wanted, hc]
  simp only [hw]

end Wanted

section Steps
variable {ι κ : Type} {layout : Layout ι κ} {s : Overlay ι κ} [DecidableEq κ]

theorem down_followed_iff (h : Followed layout s) (k : κ) (position : Offset) :
    Followed layout (s.down layout k position) ↔ Unshared layout (.down k position) s := by
  have hself : wants layout (s.down layout k position) k =
      if (layout.buttons k).isToggleMode then !(s.button k).isKeyDown else true := by
    simp [wants, Overlay.down, Overlay.onEvent, Overlay.setButton, Overlay.setFingers,
      ButtonWidget.handleDown]
  refine (button_followed_iff h (fun _ => key_holds _ _ _ _ _) ?_ (by rfl) hself.trans).trans ?_
  · intro k' hk'
    simp [wants, Overlay.down, Overlay.onEvent, Overlay.setButton, Overlay.setFingers,
      Function.update_of_ne hk']
  · rw [hself, Unshared]
    cases (layout.buttons k).isToggleMode <;> cases (s.button k).isKeyDown <;> simp

theorem up_followed_iff (h : Followed layout s) (k : κ) :
    Followed layout (s.up layout k) ↔ Unshared layout (.up k) s := by
  rw [Unshared, Overlay.up]
  by_cases hf : s.fingers k = 0
  · simp [hf, h]
  · rw [if_neg hf]
    cases ht : (layout.buttons k).isToggleMode
    · simp only [ButtonWidget.handleUp, ht, Bool.false_eq_true, if_false]
      refine (button_followed_iff h (fun _ => key_holds _ _ false _ _) ?_ (by rfl)
        (by simp)).trans ?_
      · intro k' hk'
        simp [wants, Overlay.onEvent, Overlay.setButton, Overlay.setFingers,
          Function.update_of_ne hk']
      · have hlast : s.fingers k-1 = 0 ↔ s.fingers k = 1 := by omega
        simp [wants, ht, Overlay.onEvent, Overlay.setButton, Overlay.setFingers, hf, hlast]
    · simp only [ButtonWidget.handleUp, ht, if_true]
      refine iff_of_true (followed_same h (fun _ => rfl) (fun k' => ?_) rfl) (by simp)
      by_cases hk' : k' = k
      · subst hk'
        simp [wants, ht, Overlay.onEvent, Overlay.setButton, Overlay.setFingers]
      · simp [wants, Overlay.onEvent, Overlay.setButton, Overlay.setFingers,
          Function.update_of_ne hk']

theorem move_followed (h : Followed layout s) (k : κ) (position : Offset) :
    Followed layout (s.move layout k position) := by
  rw [Overlay.move]
  split
  · exact h
  · have hkey (w : ButtonWidget) (hw : w.isKeyDown = (s.button k).isKeyDown) (k' : κ) :
        wants layout (s.setButton k w) k' = wants layout s k' := by
      by_cases hk' : k' = k
      · subst hk'
        simp [wants, Overlay.setButton, hw]
      · simp [wants, Overlay.setButton, Function.update_of_ne hk']
    simp only [ButtonWidget.handleMove]
    split
    · exact followed_same h (fun _ => rfl) (hkey _ rfl) rfl
    · split_ifs
      · exact followed_same h (fun key => request_holds _ key _ rfl rfl) (hkey _ rfl) rfl
      · exact followed_same h (fun _ => rfl) (hkey _ rfl) rfl
      · exact followed_same h (fun _ => rfl) (hkey _ rfl) rfl

end Steps

section Clicks
variable {ι κ : Type} {layout : Layout ι κ} {s : Overlay ι κ}

/-- A step of a stick moves no key. -/
theorem setStick_followed [DecidableEq ι] (h : Followed layout s) (i : ι)
    {j : Joystick × Renderer} (hj : ∀ key, holds j.2 key = holds s.renderer key) :
    Followed layout (s.setStick i j) := followed_same h hj (fun _ => rfl) rfl

theorem updatePosition_holds (stick : Stick) (offset : Offset) (j : Joystick) (r : Renderer)
    (key : Key) : holds (updatePosition stick offset j r).2 key = holds r key := by
  rw [updatePosition]
  split
  · rfl
  · exact axes_holds r key _ _ _

theorem reset_holds (stick : Stick) (j : Joystick) (r : Renderer) (key : Key) :
    holds (reset stick j r).2 key = holds r key := by
  rw [reset]
  split
  · exact axes_holds r key _ _ _
  · rfl

theorem performClick_followed (h : Followed layout s) (i : ι) :
    Followed layout (s.performClick layout i) := by
  have hholds : ∀ key, holds (s.performClick layout i).renderer key =
      if padKey (stickButton (layout.sticks i).joystickType) = some key then true
        else holds s.renderer key :=
    fun key => button_holds s.renderer key true (stickButton (layout.sticks i).joystickType)
  refine (followed_set_iff h hholds ?_ ?_).mpr (fun hf => nomatch hf)
  · intro key hkey
    apply or_congr_right
    simp [Overlay.performClick, hkey]
  · exact fun _ key hkey => Or.inr ⟨_,List.mem_append_right _ (List.mem_singleton_self _),hkey⟩

/-- The release of another key takes no click of this one. -/
theorem erased_click {clicks : List ℤ} {n : ℕ} {button : ℤ} {key : Key}
    (hn : clicks[n]? = some button) (hkey : padKey button ≠ some key) :
    (∃ other ∈ clicks.eraseIdx n, padKey other = some key) ↔
      ∃ other ∈ clicks, padKey other = some key := by
  constructor
  · rintro ⟨other, hmem, ho⟩
    exact ⟨other,List.mem_of_mem_eraseIdx hmem,ho⟩
  · rintro ⟨other, hmem, ho⟩
    obtain ⟨m, hm⟩ := List.mem_iff_getElem?.mp hmem
    refine ⟨other,List.mem_eraseIdx_iff_getElem?.mpr ⟨m,?_,hm⟩,ho⟩
    rintro rfl
    rw [hn, Option.some.injEq] at hm
    exact hkey (hm ▸ ho)

theorem clickButtonDelay_followed_iff (h : Followed layout s) (n : ℕ) :
    Followed layout (s.clickButtonDelay layout n) ↔ Unshared layout (.clickButtonDelay n) s := by
  rw [Unshared, Overlay.clickButtonDelay]
  cases hn : s.clicks[n]? with
  | none => simp [h]
  | some button =>
    refine (followed_set_iff h (fun key => button_holds s.renderer key false button) ?_
      (by simp)).trans ?_
    · exact fun key hkey => or_congr_right (erased_click hn hkey)
    · simp only [Wanted, not_or, not_exists, not_and, Option.some.injEq, forall_eq']
      constructor
      · intro hw key hkey
        obtain ⟨hbuttons, hclicks⟩ := hw trivial key hkey
        exact ⟨fun k hk => Bool.eq_false_of_not_eq_true (hbuttons k hk),hclicks⟩
      · intro hg _ key hkey
        obtain ⟨hbuttons, hclicks⟩ := hg key hkey
        refine ⟨fun k hk => ?_,hclicks⟩
        exact ne_true_of_eq_false (hbuttons k hk)

theorem followed_start : Followed layout {} := by
  intro key
  refine iff_of_false ?_ ?_
  · cases key with
    | keyboard code => simp [holds, held]
    | mouse id => simp [holds, held]
    | gamepad c => cases c <;> simp [holds, padHolds]
  · rintro (⟨k, -, hw⟩ | ⟨button, hmem, -⟩)
    · simp [wants] at hw
    · cases hmem

end Clicks

section Runs
variable {ι κ : Type} [DecidableEq ι] [DecidableEq κ] {layout : Layout ι κ}

theorem step_followed_iff (e : Event ι κ) (s : Overlay ι κ) (h : Followed layout s) :
    Followed layout (step layout e s) ↔ Unshared layout e s := by
  cases e with
  | down k position => exact down_followed_iff h k position
  | move k position => exact iff_of_true (move_followed h k position) trivial
  | up k => exact up_followed_iff h k
  | panStart i localPosition =>
    refine iff_of_true ?_ trivial
    rw [step, Overlay.panStart]
    split
    · exact h
    · exact setStick_followed h i fun key => updatePosition_holds _ _ _ _ key
  | panUpdate i localPosition =>
    refine iff_of_true ?_ trivial
    rw [step, Overlay.panUpdate]
    split
    · exact setStick_followed h i fun key => updatePosition_holds _ _ _ _ key
    · exact h
  | panEnd i =>
    refine iff_of_true ?_ trivial
    rw [step, Overlay.panEnd]
    split
    · apply setStick_followed _ i fun key => reset_holds _ _ _ key
      split
      · exact performClick_followed h i
      · exact h
    · exact h
  | clickButtonDelay n => exact clickButtonDelay_followed_iff h n

/-- The host always holds exactly the keys that are wanted when no key is ever let go that
something else wants, and not otherwise. -/
theorem keys_follow_iff (es : List (Event ι κ)) :
    (∀ before after, es = before ++ after → HostFollowed layout (run (step layout) before {})) ↔
      Meets (step layout) (Unshared layout) es {} := by
  rw [← always_iff_meets _ step_followed_iff es {} followed_start]
  apply forall_congr'
  intro before
  apply forall_congr'
  intro after
  apply imp_congr_right
  rintro -
  exact hostFollowed_iff (reachable_invariant _ reported_step told_start ⟨before,rfl⟩)

end Runs

end CloudPlay.SharedKeys
