import CloudPlay.MouseButtons

/-!
# The host follows the mouse

In mouse mode a finger uses the flags as the mouse does and the host follows both. In touch
mode a finger sets the flag of the left button alone, and the mouse is not heard when it
then reports what the flag already says.
-/

set_option autoImplicit false

namespace CloudPlay.MouseFollowed
open PressLog TransitionRun MouseButtons
open TouchInput hiding step

/-! Mouse mode: the flags are what the host holds. -/

structure Agreed (r : Renderer) : Prop where
  delayed : r.touch.delayed = []
  flags : ∀ b, r.holds b = r.down b

section MouseMode
variable {r : Renderer} {platform : AppPlatform}

/-- The renderers differ in nothing that decides about buttons. -/
structure Alike (r r' : Renderer) : Prop where
  sent : r'.touch.sent = r.touch.sent
  delayed : r'.touch.delayed = r.touch.delayed
  down : ∀ b, r'.down b = r.down b

theorem modeDown_alike (r : Renderer) (fingers : List ℕ) :
    Alike (r.point ((modeButton r.touch.screen.mouseTouchMode).map fun b => (b,true)))
      {r with touch := r.touch.after fingers (handleMouseModeDown r.touch.screen)} := by
  unfold handleMouseModeDown
  cases hm : r.touch.screen.mouseTouchMode with
  | leftClick => exact ⟨rfl,List.append_nil _,fun b => by cases b <;> rfl⟩
  | rightClick => exact ⟨rfl,List.append_nil _,fun b => by cases b <;> rfl⟩
  | move => exact ⟨List.append_nil _,List.append_nil _,fun b => by cases b <;> rfl⟩

theorem modeUp_alike (r : Renderer) (fingers : List ℕ) :
    Alike (r.point ((modeButton r.touch.screen.mouseTouchMode).map fun b => (b,false)))
      {r with touch := r.touch.after fingers (handleMouseModeUp r.touch.screen)} := by
  unfold handleMouseModeUp
  cases hm : r.touch.screen.mouseTouchMode with
  | leftClick => exact ⟨rfl,List.append_nil _,fun b => by cases b <;> rfl⟩
  | rightClick => exact ⟨rfl,List.append_nil _,fun b => by cases b <;> rfl⟩
  | move => exact ⟨List.append_nil _,List.append_nil _,fun b => by cases b <;> rfl⟩

theorem quiet_alike (r : Renderer) (fingers : List ℕ) :
    Alike r {r with touch := r.touch.after fingers {screen := r.touch.screen}} :=
  ⟨List.append_nil _,List.append_nil _,fun b => by cases b <;> rfl⟩

theorem touch_alike (e : TouchInput.Event) (hd : r.touch.delayed = []) :
    Alike (r.point (fingered .mouse r.touch e)) (step platform .mouse (.touch e) r) := by
  cases e with
  | down event hasRenderBox =>
    simp only [step, TouchInput.step, fingered]
    by_cases hf : event.pointer ∈ r.touch.fingers
    · rw [if_pos hf, if_neg (fun h => h.2.1 hf)]
      exact ⟨rfl,rfl,fun _ => rfl⟩
    · rw [if_neg hf]
      cases hasRenderBox with
      | false =>
        rw [if_neg (fun h => Bool.false_ne_true h.2.2)]
        exact quiet_alike r _
      | true =>
        rw [if_pos ⟨trivial,hf,rfl⟩]
        exact modeDown_alike r _
  | move event hasRenderBox =>
    simp only [step, TouchInput.step, StuckButtons.handleTouchMove_mouse]
    split
    · exact quiet_alike r _
    · exact ⟨rfl,rfl,fun _ => rfl⟩
  | up event =>
    simp only [step, TouchInput.step, fingered, true_and]
    split
    · exact modeUp_alike r _
    · exact ⟨rfl,rfl,fun _ => rfl⟩
  | cancel event =>
    simp only [step, TouchInput.step, fingered, true_and]
    split
    · exact modeUp_alike r _
    · exact ⟨rfl,rfl,fun _ => rfl⟩
  | mouseMode event =>
    obtain ⟨-, -, hleft, hright⟩ := StuckButtons.mouseMode_kept r.touch.screen event
    refine ⟨rfl,rfl,fun b => ?_⟩
    cases b with
    | left => exact hleft
    | right => exact hright
    | middle | back | forward => rfl
  | timer i =>
    simp only [step, TouchInput.step, hd, List.getElem?_nil]
    exact ⟨rfl,hd.symm ▸ rfl,fun _ => rfl⟩

theorem Agreed.point (h : Agreed r) (c : Option (Button × Bool)) : Agreed (r.point c) := by
  cases c with
  | none => exact h
  | some c =>
    refine ⟨(press_framed r c.1 c.2).delayed.trans h.delayed,fun b => ?_⟩
    rw [Renderer.point, press_holds, press_down, h.flags]

theorem Agreed.alike {r' : Renderer} (h : Agreed r) (ha : Alike r r') : Agreed r' := by
  refine ⟨ha.delayed.trans h.delayed,fun b => ?_⟩
  rw [Renderer.holds, ha.sent, ha.down]
  exact h.flags b

theorem agreed_step (i : Input) (r : Renderer) (h : Agreed r) :
    Agreed (step platform .mouse i r) := by
  cases i with
  | touch e => exact (h.point _).alike (touch_alike e h.delayed)
  | mouse e =>
    exact ⟨(handle_framed e).delayed.trans h.delayed,fun b => handle_agrees e (h.flags b)⟩

theorem agreed_start : Agreed {} := ⟨rfl,fun b => by cases b <;> rfl⟩

/-- In mouse mode the host follows the mouse and the fingers through every run. -/
theorem mouse_followed (platform : AppPlatform) (inputs : List Input) :
    Meets (step platform .mouse) (Followed platform .mouse) inputs {} := by
  apply meets_of_preserved _ agreed_step _ _ _ agreed_start
  intro i r h
  cases i with
  | touch e =>
    intro b
    rw [Renderer.holds, (touch_alike e h.delayed).sent, Renderer.holds]
  | mouse e =>
    intro b
    rw [handle_agrees e (h.flags b), handle_down, h.flags]

/-! Presses and releases alternate unless something is pressed or let go that already is. -/

theorem press_changing {b : Button} (v : Bool) (h : r.holds b = r.down b) :
    Changing (r.press b v).touch.sent ↔ Changing r.touch.sent ∧ r.down b ≠ v := by
  rw [press_sent, changing_concat, ← h, Renderer.holds]

theorem toggle_changing {b : Button} (v : Bool) (h : r.holds b = r.down b) :
    Changing (r.toggle b v).touch.sent ↔ Changing r.touch.sent := by
  rw [Renderer.toggle]
  split
  · rw [press_changing _ h]
    exact and_iff_left (by cases r.down b <;> simp)
  · exact Iff.rfl

theorem letGo_changing {b : Button} (v : Bool) (h : ∀ b, r.holds b = r.down b) :
    Changing (r.letGo b v).touch.sent ↔
      Changing r.touch.sent ∧ (v = true → r.down b = true) := by
  rw [Renderer.letGo]
  cases v
  · simp
  · rw [if_pos rfl, press_changing false (h b)]
    simp

theorem letGo_agrees (b : Button) (v : Bool) (h : ∀ b, r.holds b = r.down b) (b' : Button) :
    (r.letGo b v).holds b' = (r.letGo b v).down b' := by
  rw [letGo_holds, letGo_down, h]

theorem syncUP_changing (buttons : ℕ) (h : ∀ b, r.holds b = r.down b) :
    Changing (r.syncMouseButtonStateUP buttons).touch.sent ↔
      Changing r.touch.sent ∧ ∀ b, named buttons b = true → r.down b = true := by
  have hleft := letGo_agrees .left (has buttons .left) h
  have hright := letGo_agrees .right (has buttons .right) hleft
  have hnone := letGo_agrees .middle (buttons = 0) hright
  have hmiddle := letGo_agrees .middle (has buttons .middle) hnone
  have hback := letGo_agrees .back (has buttons .back) hmiddle
  rw [Renderer.syncMouseButtonStateUP, letGo_changing _ hback, letGo_changing _ hmiddle,
    letGo_changing _ hnone, letGo_changing _ hright, letGo_changing _ hleft, letGo_changing _ h]
  simp only [letGo_down, and_assoc]
  refine and_congr_right fun _ => ?_
  -- a middle button named by its bit is not also named by no bit at all
  have hmask (hm : has buttons .middle = true) : buttons ≠ 0 := by
    rintro rfl
    rw [has_zero] at hm
    cases hm
  constructor
  · rintro ⟨hl, hr, h0, hm, hb, hf⟩ b hn
    cases b <;> simp_all [named]
    rcases hn with hn | hn
    · exact (hm hn)
    · exact h0 hn
  · intro hall
    have hof (b : Button) (hb : has buttons b = true) : r.down b = true :=
      hall b (by simp [named, hb])
    have hzero (h0 : buttons = 0) : r.down .middle = true := hall .middle (by simp [named, h0])
    simp_all

/-- Nothing is pressed that is held, and nothing let go that is not. -/
def Fresh (platform : AppPlatform) : Input → Renderer → Prop
  | .touch e, r => ∀ b v, fingered .mouse r.touch e = some (b,v) → r.down b ≠ v
  | .mouse (.up buttons), r =>
      platform.isMobile = true → ∀ b, named buttons b = true → r.down b = true
  | .mouse _, _ => True

theorem fresh_of_report {e : MouseEvent} (h : teller platform e = .report) :
    Fresh platform (.mouse e) r := by
  cases e with
  | up buttons =>
    intro hm
    rw [teller, if_pos hm] at h
    cases h
  | _ => trivial

theorem changing_step_iff (i : Input) (r : Renderer) (h : Agreed r) :
    Changing (step platform .mouse i r).touch.sent ↔
      Changing r.touch.sent ∧ Fresh platform i r := by
  cases i with
  | touch e =>
    rw [(touch_alike e h.delayed).sent, Fresh]
    cases fingered .mouse r.touch e with
    | none => simp [Renderer.point]
    | some c =>
      rw [Renderer.point, press_changing c.2 (h.flags c.1)]
      simp [Prod.ext_iff]
  | mouse e =>
    by_cases hr : teller platform e = .report
    · have hkeep := @handle_preserves r platform .mouse
        (fun r' => (∀ b, r'.holds b = r'.down b) ∧
          (Changing r'.touch.sent ↔ Changing r.touch.sent))
        (fun b v r' hp => ⟨fun b' => toggle_agrees r' b b' v (hp.1 b'),
          (toggle_changing v (hp.1 b)).trans hp.2⟩)
        e (fun hl => by rw [hr] at hl; cases hl)
        (fun r' hp => ⟨fun b => by rw [forgetPosition_down]; exact hp.1 b,hp.2⟩) ⟨h.flags,Iff.rfl⟩
      exact hkeep.2.trans (and_iff_left (fresh_of_report hr)).symm
    · cases e with
      | up buttons =>
        have hm : platform.isMobile = true := by
          by_contra hm
          exact hr (if_neg hm)
        simp only [step, Renderer.handle, Renderer.mouseUp, if_pos hm]
        rw [syncUP_changing buttons h.flags, Fresh, forall_prop_of_true hm]
      | _ => exact absurd rfl hr

theorem changing_run_iff (inputs : List Input) (r : Renderer) (h : Agreed r) :
    Changing (run (step platform .mouse) inputs r).touch.sent ↔
      Changing r.touch.sent ∧ Meets (step platform .mouse) (Fresh platform) inputs r := by
  induction inputs generalizing r with
  | nil => exact (and_iff_left trivial).symm
  | cons i inputs ih =>
    rw [run, Meets, ih _ (agreed_step i r h), changing_step_iff i r h, and_assoc]

end MouseMode

/-- In mouse mode every request changes a button at the host exactly when no finger presses or
lifts a button that already is so, and no mobile system lets go of one that is up. -/
theorem requests_change_iff (platform : AppPlatform) (inputs : List Input) :
    Changing (run (step platform .mouse) inputs {}).touch.sent ↔
      Meets (step platform .mouse) (Fresh platform) inputs {} := by
  rw [changing_run_iff inputs {} agreed_start]
  exact and_iff_right changing_nil

/-! Touch mode: the fingers set the flag of the left button and tell the host nothing of it. -/

/-- What a touch makes of the flag of the left button in touch mode. -/
def marked (c : TouchInput.State) : TouchInput.Event → Option Bool
  | .down event hasRenderBox =>
      if event.pointer ∉ c.fingers ∧ hasRenderBox then some true else none
  | .up event => if event.pointer ∈ c.fingers then some false else none
  | .cancel event => if event.pointer ∈ c.fingers then some false else none
  | _ => none

def told (platform : AppPlatform) (r : Renderer) : Input → Option (Teller × Bool)
  | .touch e => (marked r.touch e).map fun v => (.finger,v)
  | .mouse e => (said platform r .left e).map fun v => (teller platform e,v)

def heard (platform : AppPlatform) : List Input → Renderer → List (Teller × Bool)
  | [], _ => []
  | i::inputs, r => (told platform r i).toList ++ heard platform inputs (step platform .touch i r)

/-- A change of the left button that the mouse reports was not made by a finger before, where
`last` is what anyone said last and `mouse` what the mouse did. -/
def Unmasked : List (Teller × Bool) → (last mouse : Bool) → Prop
  | [], _, _ => True
  | (.finger, v)::log, _, mouse => Unmasked log v mouse
  | (.report, v)::log, last, mouse => (last = v → mouse = v) ∧ Unmasked log v v
  | (.release, v)::log, _, _ => Unmasked log v v

/-- The flags of the other buttons are what the host holds. -/
structure OthersAgreed (r : Renderer) : Prop where
  delayed : r.touch.delayed = []
  flags : ∀ b, b ≠ .left → r.holds b = r.down b

section TouchMode
variable {r : Renderer} {platform : AppPlatform}

/-- What a touch does in touch mode. -/
structure Marks (r r' : Renderer) (v : Bool) : Prop where
  sent : r'.touch.sent = r.touch.sent
  delayed : r'.touch.delayed = r.touch.delayed
  left : r'.down .left = v
  others : ∀ b, b ≠ .left → r'.down b = r.down b

theorem marks_after (fingers : List ℕ) (s : VideoScreen)
    (h : s.rightButtonDown = r.touch.screen.rightButtonDown) :
    Marks r {r with touch := r.touch.after fingers {screen := s}} s.leftButtonDown := by
  refine ⟨List.append_nil _,List.append_nil _,rfl,fun b hb => ?_⟩
  cases b with
  | left => exact absurd rfl hb
  | right => exact h
  | middle | back | forward => rfl

theorem Marks.refl (r : Renderer) : Marks r r (r.down .left) := ⟨rfl,rfl,rfl,fun _ _ => rfl⟩

theorem touch_marks (e : TouchInput.Event) (hd : r.touch.delayed = []) :
    Marks r (step platform .touch (.touch e) r)
      ((marked r.touch e).getD (r.down .left)) := by
  cases e with
  | down event hasRenderBox =>
    simp only [step, TouchInput.step, marked]
    by_cases hf : event.pointer ∈ r.touch.fingers
    · rw [if_pos hf, if_neg (fun h => h.1 hf)]
      exact Marks.refl r
    · rw [if_neg hf]
      cases hasRenderBox with
      | false =>
        rw [if_neg (fun h => Bool.false_ne_true h.2)]
        exact marks_after _ r.touch.screen rfl
      | true =>
        rw [if_pos ⟨hf,rfl⟩]
        exact marks_after _ _ rfl
  | move event hasRenderBox =>
    have hmove : handleTouchMove r.touch.screen event .touch hasRenderBox =
        {screen := r.touch.screen} := by cases hasRenderBox <;> rfl
    simp only [step, TouchInput.step, hmove]
    split
    · exact marks_after _ r.touch.screen rfl
    · exact Marks.refl r
  | up event =>
    simp only [step, TouchInput.step, marked]
    split
    · exact marks_after _ _ rfl
    · exact Marks.refl r
  | cancel event =>
    simp only [step, TouchInput.step, marked]
    split
    · exact marks_after _ _ rfl
    · exact Marks.refl r
  | mouseMode event =>
    obtain ⟨-, -, hleft, hright⟩ := StuckButtons.mouseMode_kept r.touch.screen event
    refine ⟨rfl,rfl,hleft,fun b hb => ?_⟩
    cases b with
    | left => exact absurd rfl hb
    | right => exact hright
    | middle | back | forward => rfl
  | timer i =>
    simp only [step, TouchInput.step, hd, List.getElem?_nil]
    exact ⟨rfl,hd.symm ▸ rfl,rfl,fun _ _ => rfl⟩

theorem othersAgreed_step (i : Input) (r : Renderer) (h : OthersAgreed r) :
    OthersAgreed (step platform .touch i r) := by
  cases i with
  | touch e =>
    have hm : Marks r (step platform .touch (.touch e) r)
        ((marked r.touch e).getD (r.down .left)) := touch_marks e h.delayed
    refine ⟨hm.delayed.trans h.delayed,fun b hb => ?_⟩
    rw [Renderer.holds, hm.sent, hm.others b hb]
    exact h.flags b hb
  | mouse e =>
    exact ⟨(handle_framed e).delayed.trans h.delayed,fun b hb => handle_agrees e (h.flags b hb)⟩

theorem sync_holds_left (buttons : ℕ) :
    (r.syncMouseButtonState platform buttons).holds .left =
      if has buttons .left = r.down .left then r.holds .left else has buttons .left := by
  cases hios : platform.isIOS <;> simp [Renderer.syncMouseButtonState, hios, toggle_holds]

theorem syncUP_holds_left (buttons : ℕ) :
    (r.syncMouseButtonStateUP buttons).holds .left =
      if named buttons .left then false else r.holds .left := by
  simp [Renderer.syncMouseButtonStateUP, named, letGo_holds]

theorem toggle_holds_left (v : Bool) :
    (r.toggle .left v).holds .left = if v = r.down .left then r.holds .left else v := by
  simp [toggle_holds]

/-- A comparison that finds the flag as it is reported tells the host nothing. -/
theorem handle_left (e : MouseEvent) (mode : TouchInputMode) :
    (r.handle platform mode e).holds .left =
      match said platform r .left e with
      | none => r.holds .left
      | some v =>
          if teller platform e = .report ∧ v = r.down .left then r.holds .left else v := by
  cases e with
  | down buttons =>
    simp only [Renderer.handle, Renderer.mouseDown, said, teller, true_and]
    cases platform.isMobile
    · exact sync_holds_left buttons
    · rfl
  | up buttons =>
    by_cases hm : platform.isMobile
    · simp only [Renderer.handle, Renderer.mouseUp, said, teller, if_pos hm, syncUP_holds_left]
      cases named buttons .left <;> simp
    · simp only [Renderer.handle, Renderer.mouseUp, said, teller, if_neg hm, true_and]
      exact sync_holds_left buttons
  | move buttons =>
    simp only [Renderer.handle, Renderer.mouseMove, said, teller, true_and]
    split_ifs
    · exact sync_holds_left buttons
    · rfl
  | cancel =>
    have hforget (r : Renderer) : r.forgetPosition.holds .left = r.holds .left := rfl
    simp only [Renderer.handle, Renderer.mouseCancel, release_eq, said, teller, true_and]
    split_ifs <;> simp_all [toggle_holds]
  | leftPressed =>
    simp only [Renderer.handle, Renderer.onLeftPressed, pressed_eq, said, teller, true_and]
    exact toggle_holds_left true
  | leftReleased =>
    simp only [Renderer.handle, Renderer.onLeftReleased, released_eq, said, teller, true_and]
    exact toggle_holds_left false
  | rightPressed =>
    simp [Renderer.handle, Renderer.onRightPressed, pressed_eq, said, toggle_holds]
  | rightReleased =>
    simp [Renderer.handle, Renderer.onRightReleased, released_eq, said, toggle_holds]

/-- An event of the mouse is followed unless a finger has made the flag what it reports. -/
theorem followed_iff (e : MouseEvent) (h : OthersAgreed r) :
    Followed platform .touch (.mouse e) r ↔
      ∀ v, said platform r .left e = some v → teller platform e = .report →
        r.down .left = v → r.holds .left = v := by
  have hothers (b : Button) (hb : b ≠ .left) :
      (r.handle platform .touch e).holds b = (said platform r b e).getD (r.holds b) := by
    rw [handle_agrees e (h.flags b hb), handle_down, h.flags b hb]
  have hleft := @handle_left r platform e .touch
  constructor
  · intro hf v hv hreport hdown
    have hnow := hf .left
    rw [hleft, hv] at hnow
    simp only [if_pos (And.intro hreport hdown.symm)] at hnow
    exact hnow
  · intro hm b
    by_cases hb : b = .left
    · subst hb
      rw [hleft]
      cases hv : said platform r .left e with
      | none => rfl
      | some v =>
        simp only [Option.getD_some]
        split
        · rename_i hsame
          exact hm v hv hsame.1 hsame.2.symm
        · rfl
    · exact hothers b hb

theorem followed_run_iff (inputs : List Input) (h : OthersAgreed r) :
    Meets (step platform .touch) (Followed platform .touch) inputs r ↔
      Unmasked (heard platform inputs r) (r.down .left) (r.holds .left) := by
  induction inputs generalizing r with
  | nil => exact Iff.rfl
  | cons i inputs ih =>
    rw [Meets, heard]
    cases i with
    | touch e =>
      have hm : Marks r (step platform .touch (.touch e) r)
          ((marked r.touch e).getD (r.down .left)) := touch_marks e h.delayed
      have hholds (b : Button) : (step platform .touch (.touch e) r).holds b = r.holds b := by
        rw [Renderer.holds, hm.sent, Renderer.holds]
      rw [ih (othersAgreed_step _ r h), hm.left, hholds, told]
      have hnow : Followed platform .touch (.touch e) r := by
        intro b
        rw [hholds]
        cases e <;> rfl
      cases marked r.touch e with
      | none => exact and_iff_right hnow
      | some v => exact and_iff_right hnow
    | mouse e =>
      rw [ih (othersAgreed_step _ r h), step, handle_down, handle_left, followed_iff e h, told]
      cases said platform r .left e with
      | none => simp
      | some v =>
        simp only [Option.map_some, Option.toList_some, List.cons_append, List.nil_append,
          Option.getD_some, Option.some.injEq, forall_eq']
        rcases teller_mouse platform e with ht | ht
        · rw [ht]
          simp only [Unmasked, true_and, forall_const]
          apply and_congr_right
          intro hm
          have hv : (if v = r.down .left then r.holds .left else v) = v := by
            split
            · rename_i hsame
              exact hm hsame.symm
            · rfl
          rw [hv]
        · rw [ht]
          simp [Unmasked]

theorem othersAgreed_start : OthersAgreed {} := ⟨rfl,fun b _ => by cases b <;> rfl⟩

end TouchMode

/-- In touch mode the host follows the mouse exactly as long as no change of the left button
that it reports is one that a finger has made of the flag. -/
theorem touch_followed_iff (platform : AppPlatform) (inputs : List Input) :
    Meets (step platform .touch) (Followed platform .touch) inputs {} ↔
      Unmasked (heard platform inputs {}) false false :=
  followed_run_iff inputs othersAgreed_start

/-- A release of the mouse is not heard after a finger has come and gone. -/
example : ¬Meets (step .desktop .touch) (Followed .desktop .touch)
    [.mouse (.down 1), .touch (.down ⟨1,⟨0,0⟩,0⟩ true), .touch (.up ⟨1,⟨0,0⟩,0⟩), .mouse (.up 0)]
    {} := by
  intro h
  cases h.2.2.2.1 .left

end CloudPlay.MouseFollowed
