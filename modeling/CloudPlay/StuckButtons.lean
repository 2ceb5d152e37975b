import CloudPlay.TouchInput

/-!
# Buttons that are let go

Once no finger is down and no release is pending, every press sent to the host
has a later release. In touchpad mode the drag and the delayed releases account
for every button held. In mouse mode the flags do, and the last finger to leave
releases only the button of the mode it finds.
-/

set_option autoImplicit false

namespace CloudPlay.StuckButtons
open PressLog TransitionRun TouchInput

/-- When no finger is down and no release is pending, nothing is held. -/
def AllReleased (c : State) : Prop :=
  c.fingers = [] → c.delayed = [] → ∀ button, Released button c.sent

/-- The last finger leaves while the mouse mode is that of each button down. -/
def Matching (c : State) (event : PointerEvent) : Prop :=
  c.fingers = [event.pointer] →
    (c.screen.leftButtonDown → c.screen.mouseTouchMode = .leftClick) ∧
    (c.screen.rightButtonDown → c.screen.mouseTouchMode = .rightClick)

def Guard (mode : TouchInputMode) : Event → State → Prop
  | .up event, c => mode = .mouse → Matching c event
  | .cancel event, c => mode = .mouse → Matching c event
  | _, _ => True

/-! Touchpad mode: a drag holds the left button, a pending release its own. -/

def Pressed (dragging : Bool) (delayed : List ℕ) (log : List (ℕ × Bool)) : Prop :=
  ∀ button, held button log → button = 1 ∧ dragging ∨ button ∈ delayed

structure TouchpadHeld (c : State) : Prop where
  pressed : Pressed c.screen.isDragging c.delayed c.sent
  dragging : c.screen.isDragging → c.screen.touchpadPointers ≠ []
  known : ∀ pointer ∈ c.screen.touchpadPointers.keys, pointer ∈ c.fingers

section
variable {dragging : Bool} {delayed : List ℕ} {log : List (ℕ × Bool)} {button : ℕ}

theorem pressed_tap (h : Pressed dragging delayed log) :
    Pressed dragging (delayed ++ [button]) (log ++ [(button,true)]) := by
  intro b hb
  rw [held_concat, touch] at hb
  split at hb
  · rename_i hsame
    exact Or.inr (by simp [← hsame])
  · rcases h b hb with hdrag | hmem
    · exact Or.inl hdrag
    · exact Or.inr (List.mem_append_left _ hmem)

theorem pressed_drag (h : Pressed dragging delayed log) :
    Pressed true delayed (log ++ [(1,true)]) := by
  intro b hb
  rw [held_concat, touch] at hb
  split at hb
  · rename_i hsame
    exact Or.inl ⟨hsame.symm,rfl⟩
  · rcases h b hb with hdrag | hmem
    · exact Or.inl ⟨hdrag.1,rfl⟩
    · exact Or.inr hmem

theorem pressed_drop (h : Pressed dragging delayed log) :
    Pressed false delayed (log ++ [(1,false)]) := by
  intro b hb
  rw [held_concat, touch] at hb
  split at hb
  · cases hb
  · rename_i hother
    rcases h b hb with hdrag | hmem
    · exact absurd hdrag.1.symm hother
    · exact Or.inr hmem

theorem pressed_timer {i : ℕ} (h : Pressed dragging delayed log) (hi : delayed[i]? = some button) :
    Pressed dragging (delayed.eraseIdx i) (log ++ [(button,false)]) := by
  intro b hb
  rw [held_concat, touch] at hb
  split at hb
  · cases hb
  · rename_i hother
    rcases h b hb with hdrag | hmem
    · exact Or.inl hdrag
    · obtain ⟨j, hj⟩ := List.mem_iff_getElem?.mp hmem
      apply Or.inr
      apply List.mem_eraseIdx_iff_getElem?.mpr
      use j
      apply And.intro _ hj
      rintro rfl
      exact hother (Option.some.inj (hi.symm.trans hj))

/-- A handler that ends a drag releases the left button, or nothing changes. -/
structure Drops (s : VideoScreen) (h : Handled) : Prop where
  pointers : h.screen.touchpadPointers = s.touchpadPointers
  drag : h.clicks = [] ∧ h.screen.isDragging = s.isDragging ∨
    h.clicks = [(1,false)] ∧ h.screen.isDragging = false

theorem Drops.pressed {s : VideoScreen} {h : Handled} (hd : Drops s h)
    (hp : Pressed s.isDragging delayed log) :
    Pressed h.screen.isDragging delayed (log ++ h.clicks) := by
  rcases hd.drag with ⟨hc, hs⟩ | ⟨hc, hs⟩
  · rwa [hc, hs, List.append_nil]
  · rw [hc, hs]
    exact pressed_drop hp

end

section
variable (s : VideoScreen) (event : PointerEvent)

theorem endDrag_drops : Drops s (endDrag s) := ⟨rfl,Or.inr ⟨rfl,rfl⟩⟩

theorem kept_drops : Drops s {screen := s} := ⟨rfl,Or.inl ⟨rfl,rfl⟩⟩

theorem endOwnDrag_drops : Drops s (endOwnDrag s event) := by
  simp only [endOwnDrag]
  split
  · exact endDrag_drops s
  · exact kept_drops s

theorem afterLift_drops : Drops s (afterLift s) := by
  simp only [afterLift]
  split
  · rename_i hs
    split
    · exact ⟨rfl,Or.inr ⟨rfl,rfl⟩⟩
    · exact ⟨rfl,Or.inl ⟨rfl,rfl⟩⟩
  · exact ⟨rfl,Or.inl ⟨rfl,rfl⟩⟩
  · exact kept_drops s

theorem afterLift_dragging (h : (afterLift s).screen.isDragging) : s.touchpadPointers ≠ [] := by
  intro hs
  simp only [afterLift, hs] at h
  split at h
  · cases h
  · rename_i hdrag
    exact hdrag h

end

/-! Each touchpad handler accounts for what it presses. -/

section
variable {s : VideoScreen} {c : State} {event : PointerEvent}

/-- A finger that comes down as the only one ends a drag without a release. -/
theorem touchpadDown_spec (s : VideoScreen) (event : PointerEvent) :
    let h := handleTouchpadDown s event
    let pointers := s.touchpadPointers.insert event.pointer event.position
    h.clicks = [] ∧ h.delayed = [] ∧ h.screen.touchpadPointers = pointers ∧
      (h.screen.isDragging = s.isDragging ∨ h.screen.isDragging = false ∧ pointers.length = 1) := by
  simp only [handleTouchpadDown]
  split
  · rename_i e hp
    exact ⟨rfl,rfl,rfl,Or.inr ⟨rfl,by rw [hp]; rfl⟩⟩
  · exact ⟨rfl,rfl,rfl,Or.inl rfl⟩
  · exact ⟨rfl,rfl,rfl,Or.inl rfl⟩

theorem singleFingerMove_spec (s : VideoScreen) (event : PointerEvent) :
    let h := handleSingleFingerMove s event
    h.delayed = [] ∧ h.screen.touchpadPointers = s.touchpadPointers ∧
      (h.clicks = [] ∧ h.screen.isDragging = s.isDragging ∨
        h.clicks = [(1,true)] ∧ h.screen.isDragging) := by
  simp only [handleSingleFingerMove]
  split
  · exact ⟨rfl,rfl,Or.inl ⟨rfl,rfl⟩⟩
  · split
    · exact ⟨rfl,rfl,Or.inr ⟨rfl,rfl⟩⟩
    · exact ⟨rfl,rfl,Or.inl ⟨rfl,rfl⟩⟩

theorem touchpadMove_spec (s : VideoScreen) (event : PointerEvent) :
    let h := handleTouchpadMove s event
    h.delayed = [] ∧
      h.screen.touchpadPointers = s.touchpadPointers.insert event.pointer event.position ∧
      (h.clicks = [] ∧ h.screen.isDragging = s.isDragging ∨
        h.clicks = [(1,true)] ∧ h.screen.isDragging) := by
  simp only [handleTouchpadMove]
  split
  · exact singleFingerMove_spec _ event
  · exact ⟨rfl,rfl,Or.inl ⟨rfl,rfl⟩⟩
  · exact ⟨rfl,rfl,Or.inl ⟨rfl,rfl⟩⟩

theorem touchpadDown_held (h : TouchpadHeld c) (hnew : event.pointer ∉ c.fingers) :
    TouchpadHeld (c.after (event.pointer::c.fingers) (handleTouchpadDown c.screen event)) := by
  obtain ⟨hclicks, hdelayed, hpointers, hdrag⟩ := touchpadDown_spec c.screen event
  have hsame : (handleTouchpadDown c.screen event).screen.isDragging = c.screen.isDragging := by
    rcases hdrag with hdrag | ⟨hfree, hone⟩
    · exact hdrag
    · -- the first finger finds no drag
      have hkey : event.pointer ∉ c.screen.touchpadPointers.keys := fun hk => hnew (h.known _ hk)
      rw [PointerMap.insert_new _ _ _ hkey, List.length_append, List.length_singleton] at hone
      have hnil : c.screen.touchpadPointers = [] := List.eq_nil_of_length_eq_zero (by omega)
      cases hd : c.screen.isDragging
      · exact hfree
      · exact absurd hnil (h.dragging hd)
  constructor
  · simpa only [State.after, hclicks, hdelayed, hsame, List.append_nil] using h.pressed
  · intro _
    simp only [State.after, hpointers]
    exact PointerMap.insert_ne_nil _ _ _
  · intro pointer hk
    simp only [State.after, hpointers, PointerMap.mem_keys_insert] at hk
    rcases hk with hk | rfl
    · exact List.mem_cons_of_mem _ (h.known pointer hk)
    · exact List.mem_cons_self

theorem touchpadMove_held (h : TouchpadHeld c) (hdown : event.pointer ∈ c.fingers) :
    TouchpadHeld (c.after c.fingers (handleTouchpadMove c.screen event)) := by
  obtain ⟨hdelayed, hpointers, hdrag⟩ := touchpadMove_spec c.screen event
  constructor
  · simp only [State.after, hdelayed, List.append_nil]
    rcases hdrag with ⟨hclicks, hsame⟩ | ⟨hclicks, hdrag⟩
    · rw [hclicks, hsame, List.append_nil]
      exact h.pressed
    · rw [hclicks, hdrag]
      exact pressed_drag h.pressed
  · intro _
    simp only [State.after, hpointers]
    exact PointerMap.insert_ne_nil _ _ _
  · intro pointer hk
    simp only [State.after, hpointers, PointerMap.mem_keys_insert] at hk
    rcases hk with hk | rfl
    · exact h.known pointer hk
    · exact hdown

theorem touchpadUp_held (h : TouchpadHeld c) :
    TouchpadHeld (c.after (c.fingers.erase event.pointer) (handleTouchpadUp c.screen event)) := by
  have hown := endOwnDrag_drops c.screen event
  have hrest := afterLift_drops (forgetPointer (endOwnDrag c.screen event).screen event)
  have htap : Pressed c.screen.isDragging
      (c.delayed ++ (tappedButton c.screen event).toList)
      (c.sent ++ (tappedButton c.screen event).toList.map fun button => (button,true)) := by
    cases tappedButton c.screen event with
    | none => simpa using h.pressed
    | some button => exact pressed_tap h.pressed
  constructor
  · have hlifted := hrest.pressed (hown.pressed htap)
    simpa only [State.after, handleTouchpadUp, List.append_assoc] using hlifted
  · intro hdrag
    simp only [State.after, handleTouchpadUp] at hdrag ⊢
    rw [hrest.pointers]
    exact afterLift_dragging _ hdrag
  · intro pointer hk
    simp only [State.after, handleTouchpadUp, hrest.pointers] at hk
    simp only [forgetPointer, hown.pointers, PointerMap.mem_keys_remove] at hk
    exact (List.mem_erase_of_ne hk.2).mpr (h.known pointer hk.1)

/-- A finger counts before the renderer knows it. -/
theorem TouchpadHeld.with_fingers (h : TouchpadHeld c) {fingers : List ℕ}
    (hf : c.fingers ⊆ fingers) : TouchpadHeld (c.after fingers {screen := c.screen}) := by
  constructor
  · simpa only [State.after, List.append_nil] using h.pressed
  · exact h.dragging
  · exact fun pointer hk => hf (h.known pointer hk)

theorem TouchpadHeld.with_position (h : TouchpadHeld c) (position : Option Offset) :
    TouchpadHeld {c with screen := {c.screen with lastTouchpadPosition := position}} :=
  ⟨h.pressed,h.dragging,h.known⟩

theorem mouseMode_kept (s : VideoScreen) (event : MouseModeEvent) :
    let s' := handleMouseModeEvent s event
    s'.isDragging = s.isDragging ∧ s'.touchpadPointers = s.touchpadPointers ∧
      s'.leftButtonDown = s.leftButtonDown ∧ s'.rightButtonDown = s.rightButtonDown := by
  simp only [handleMouseModeEvent]
  split_ifs <;> exact ⟨rfl,rfl,rfl,rfl⟩

theorem touchpad_step (e : Event) (h : TouchpadHeld c) : TouchpadHeld (step .touchpad e c) := by
  cases e with
  | down event hasRenderBox =>
    simp only [step]
    split
    · exact h
    · rename_i hnew
      cases hasRenderBox
      · exact h.with_fingers (List.subset_cons_self _ _)
      · exact touchpadDown_held h hnew
  | move event hasRenderBox =>
    simp only [step]
    split
    · rename_i hdown
      cases hasRenderBox
      · exact h.with_fingers (List.Subset.refl _)
      · exact touchpadMove_held h hdown
    · exact h
  | up event =>
    simp only [step]
    split
    · exact touchpadUp_held h
    · exact h
  | cancel event =>
    simp only [step]
    split
    · exact (touchpadUp_held h).with_position none
    · exact h
  | mouseMode event =>
    obtain ⟨hdrag, hpointers, -⟩ := mouseMode_kept c.screen event
    constructor
    · simpa only [step, hdrag] using h.pressed
    · simpa only [step, hdrag, hpointers] using h.dragging
    · simpa only [step, hpointers] using h.known
  | timer i =>
    simp only [step]
    split
    · exact h
    · rename_i button hi
      exact ⟨pressed_timer h.pressed hi,h.dragging,h.known⟩

theorem TouchpadHeld.released (h : TouchpadHeld c) : AllReleased c := by
  intro hf hd button
  rw [released_iff]
  cases hb : held button c.sent
  · rfl
  · rcases h.pressed button hb with ⟨-, hdrag⟩ | hmem
    · -- with no finger down the map is empty, so there is no drag
      obtain ⟨e, he⟩ := List.exists_mem_of_ne_nil _ (h.dragging hdrag)
      have hknown := h.known e.1 (List.mem_map_of_mem he)
      rw [hf] at hknown
      cases hknown
    · rw [hd] at hmem
      cases hmem

end

/-! Mouse mode: the flags are the buttons held. -/

structure MouseHeld (c : State) : Prop where
  delayed : c.delayed = []
  flags : ∀ button, held button c.sent = true ↔
    button = 1 ∧ c.screen.leftButtonDown ∨ button = 3 ∧ c.screen.rightButtonDown

section
variable {c : State} {event : PointerEvent}

theorem MouseHeld.released_iff (h : MouseHeld c) : AllReleased c ↔
    (c.fingers = [] → c.screen.leftButtonDown = false ∧ c.screen.rightButtonDown = false) := by
  simp only [AllReleased, h.delayed, forall_const, PressLog.released_iff]
  constructor
  · intro hr hf
    have hleft := h.flags 1
    have hright := h.flags 3
    rw [hr hf] at hleft hright
    simpa using And.intro hleft hright
  · intro hr hf button
    cases hb : held button c.sent
    · rfl
    · simpa [hr hf] using (h.flags button).mp hb

theorem mouseDown_held (h : MouseHeld c) (fingers : List ℕ) :
    MouseHeld (c.after fingers (handleMouseModeDown c.screen)) := by
  constructor
  · simp only [State.after, handleMouseModeDown, h.delayed]
    split <;> rfl
  · intro button
    have hflags := h.flags button
    simp only [State.after, handleMouseModeDown]
    split
    · simp only [held_concat, touch]
      split <;> grind
    · simp only [held_concat, touch]
      split <;> grind
    · simpa using hflags

theorem mouseUp_held (h : MouseHeld c) (fingers : List ℕ) :
    MouseHeld (c.after fingers (handleMouseModeUp c.screen)) := by
  constructor
  · simp only [State.after, handleMouseModeUp, h.delayed]
    split <;> rfl
  · intro button
    have hflags := h.flags button
    simp only [State.after, handleMouseModeUp]
    split
    · simp only [held_concat, touch]
      split <;> grind
    · simp only [held_concat, touch]
      split <;> grind
    · simpa using hflags

theorem MouseHeld.with_fingers (h : MouseHeld c) (fingers : List ℕ) :
    MouseHeld (c.after fingers {screen := c.screen}) := by
  constructor
  · simp [State.after, h.delayed]
  · simpa only [State.after, List.append_nil] using h.flags

theorem handleTouchMove_mouse (s : VideoScreen) (event : PointerEvent) (hasRenderBox : Bool) :
    handleTouchMove s event .mouse hasRenderBox = {screen := s} := by
  cases hasRenderBox <;> rfl

theorem mouse_step (e : Event) (h : MouseHeld c) : MouseHeld (step .mouse e c) := by
  cases e with
  | down event hasRenderBox =>
    simp only [step]
    split
    · exact h
    · cases hasRenderBox
      · exact h.with_fingers _
      · exact mouseDown_held h _
  | move event hasRenderBox =>
    simp only [step, handleTouchMove_mouse]
    split
    · exact h.with_fingers _
    · exact h
  | up event =>
    simp only [step]
    split
    · exact mouseUp_held h _
    · exact h
  | cancel event =>
    simp only [step]
    split
    · exact mouseUp_held h _
    · exact h
  | mouseMode event =>
    obtain ⟨-, -, hleft, hright⟩ := mouseMode_kept c.screen event
    constructor
    · exact h.delayed
    · simpa only [step, hleft, hright] using h.flags
  | timer i =>
    simp only [step, h.delayed, List.getElem?_nil]
    exact h

/-- Lifting a finger leaves nothing held exactly when the last one finds the mode
of every button down. -/
theorem lift_released (h : MouseHeld c) (event : PointerEvent)
    (hdown : event.pointer ∈ c.fingers) :
    AllReleased (c.after (c.fingers.erase event.pointer) (handleMouseModeUp c.screen)) ↔
      Matching c event := by
  rw [(mouseUp_held h _).released_iff]
  have hlast : c.fingers.erase event.pointer = [] ↔ c.fingers = [event.pointer] := by
    rw [List.erase_eq_nil_iff]
    constructor
    · rintro (hf | hf)
      · rw [hf] at hdown
        cases hdown
      · exact hf
    · exact Or.inr
  simp only [State.after, hlast, Matching]
  apply imp_congr_right
  intro _
  cases hm : c.screen.mouseTouchMode <;> simp [handleMouseModeUp, hm]

theorem unlifted_matching (hdown : event.pointer ∉ c.fingers) : Matching c event := by
  intro hf
  rw [hf] at hdown
  exact absurd List.mem_cons_self hdown

theorem mouse_step_released (e : Event) (h : MouseHeld c) (hr : AllReleased c) :
    AllReleased (step .mouse e c) ↔ Guard .mouse e c := by
  have hheld := mouse_step e h
  cases e with
  | down event hasRenderBox =>
    apply iff_of_true _ trivial
    simp only [step]
    split
    · exact hr
    · intro hf
      cases hf
  | move event hasRenderBox =>
    apply iff_of_true _ trivial
    simp only [step, handleTouchMove_mouse]
    split
    · simpa only [AllReleased, State.after, List.append_nil] using hr
    · exact hr
  | up event =>
    simp only [Guard, forall_const, step]
    split
    · rename_i hdown
      exact lift_released h event hdown
    · rename_i hup
      exact iff_of_true hr (unlifted_matching hup)
  | cancel event =>
    simp only [Guard, forall_const, step]
    split
    · rename_i hdown
      exact lift_released h event hdown
    · rename_i hup
      exact iff_of_true hr (unlifted_matching hup)
  | mouseMode event => exact iff_of_true hr trivial
  | timer i =>
    apply iff_of_true _ trivial
    simp only [step, h.delayed, List.getElem?_nil]
    exact hr

end

/-! Touch mode presses no mouse button. -/

def NothingSent (c : State) : Prop := c.sent = [] ∧ c.delayed = []

section
variable {c : State}

theorem NothingSent.after (h : NothingSent c) (fingers : List ℕ) (screen : VideoScreen) :
    NothingSent (c.after fingers {screen := screen}) := by
  simpa only [NothingSent, State.after, List.append_nil] using h

theorem touch_step (e : Event) (h : NothingSent c) : NothingSent (step .touch e c) := by
  cases e with
  | down event hasRenderBox =>
    simp only [step]
    split
    · exact h
    · cases hasRenderBox <;> exact h.after _ _
  | move event hasRenderBox =>
    simp only [step]
    split
    · cases hasRenderBox <;> exact h.after _ _
    · exact h
  | up event =>
    simp only [step]
    split
    · exact h.after _ _
    · exact h
  | cancel event =>
    simp only [step]
    split
    · exact h.after _ _
    · exact h
  | mouseMode event => exact h
  | timer i =>
    simp only [step, h.2, List.getElem?_nil]
    exact h

theorem NothingSent.released (h : NothingSent c) : AllReleased c := by
  intro _ _ button
  rw [h.1]
  exact released_nil button

end

theorem guard_of_not_mouse {mode : TouchInputMode} (hm : mode ≠ .mouse) (e : Event) (c : State) :
    Guard mode e c := by
  cases e with
  | up event => exact fun h => absurd h hm
  | cancel event => exact fun h => absurd h hm
  | _ => trivial

/-- A mode whose invariant releases everything needs no guard. -/
theorem always_released {mode : TouchInputMode} (inv : State → Prop) (hm : mode ≠ .mouse)
    (hstep : ∀ e c, inv c → inv (step mode e c)) (hi : inv {})
    (hr : ∀ {c}, inv c → AllReleased c) (es : List Event) :
    (∀ before after, es = before ++ after → AllReleased (run (step mode) before {})) ↔
      Meets (step mode) (Guard mode) es {} := by
  apply iff_of_true
  · intro before after _
    exact hr (reachable_invariant _ hstep hi ⟨before,rfl⟩)
  · rw [meets_iff]
    intro before e after _
    exact guard_of_not_mouse hm e _

/-- In every state of a run every button is released when no finger is down and
no release is pending, exactly when, in mouse mode, the last finger always finds
the mode of the buttons that are down. -/
theorem buttons_released (mode : TouchInputMode) (es : List Event) :
    (∀ before after, es = before ++ after → AllReleased (run (step mode) before {})) ↔
      Meets (step mode) (Guard mode) es {} := by
  cases mode with
  | touch =>
    exact always_released NothingSent (by decide) (fun e _ h => touch_step e h) ⟨rfl,rfl⟩
      NothingSent.released es
  | touchpad =>
    have hi : TouchpadHeld {} :=
      ⟨(fun _ h => nomatch h),(fun h => nomatch h),(fun _ h => nomatch h)⟩
    exact always_released TouchpadHeld (by decide) (fun e _ h => touchpad_step e h) hi
      TouchpadHeld.released es
  | mouse =>
    have hi : MouseHeld {} := ⟨rfl,fun _ => by simp [held]⟩
    have hr : AllReleased {} := fun _ _ button => released_nil button
    have hheld : ∀ before, MouseHeld (run (step .mouse) before {}) := fun before =>
      reachable_invariant _ (fun e _ h => mouse_step e h) hi ⟨before,rfl⟩
    have hstep : ∀ e c, MouseHeld c ∧ AllReleased c →
        (MouseHeld (step .mouse e c) ∧ AllReleased (step .mouse e c) ↔ Guard .mouse e c) := by
      intro e c h
      rw [← mouse_step_released e h.1 h.2]
      exact and_iff_right (mouse_step e h.1)
    rw [← always_iff_meets _ hstep es {} ⟨hi,hr⟩]
    apply forall_congr'
    intro before
    apply forall_congr'
    intro after
    apply imp_congr_right
    intro _
    exact (and_iff_right (hheld before)).symm

/-- A finger presses the left button, the mode changes to right clicks, and the
finger is lifted: the left button stays pressed. -/
theorem left_stays_pressed : ¬AllReleased (run (step .mouse)
    [.down ⟨1,⟨0,0⟩,0⟩ true, .mouseMode ⟨.rightClick,false,true⟩, .up ⟨1,⟨0,0⟩,200⟩] {}) := by
  intro h
  have hleft := (released_iff 1 _).mp (h (by decide) (by decide) 1)
  revert hleft
  decide

end CloudPlay.StuckButtons
