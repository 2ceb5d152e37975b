import CloudPlay.GamepadState
import Mathlib.Tactic.NormNum

/-!
# Analog controls that follow the stick

After an event the stored value of its control is to be within the deadband of
what the event asks for, and zero for a trigger that is let go. A trigger that
came to rest inside the deadband is not let go, and on the web a Y axis is
compared with its value of the other sign.
-/

set_option autoImplicit false

namespace CloudPlay.GamepadAnalogs
open GamepadState TransitionRun

/-- The value an event asks for. -/
def target (p : Platform) (a : Analog) (value : ℚ) : ℤ :=
  if inverted p a then -scaled value a.fullScale else scaled value a.fullScale

/-- What the event does to the gamepad. -/
structure Follows (p : Platform) (event : GamepadEvent) (g : Gamepad) : Prop where
  close : ∀ a ∈ movedControl p event,
    |(onEvent p event g).state.analogs a-target p a event.value| < a.deadband
  rest : ∀ a ∈ movedControl p event, a.isTrigger → event.value = 0 →
    (onEvent p event g).state.analogs a = 0
  kept : (g.state.update p event).2 = false → onEvent p event g = g

/-- A trigger that is let go is at rest or outside the deadband, and an inverted
axis that is inside it of the plain value is inside it of the inverted one. -/
def InReach (p : Platform) (event : GamepadEvent) (g : Gamepad) : Prop :=
  ∀ a ∈ movedControl p event,
    (a.isTrigger → event.value = 0 → g.state.analogs a = 0 ∨ 8 ≤ |g.state.analogs a|) ∧
    (inverted p a → |scaled event.value a.fullScale-g.state.analogs a| < 100 →
      |scaled event.value a.fullScale+g.state.analogs a| < 100)

section Updates
variable {p : Platform} {event : GamepadEvent} {s : CGamepadState} {a : Analog}

theorem scaled_zero (factor : ℕ) : scaled 0 factor = 0 := by
  simp [scaled]

theorem deadband_pos (a : Analog) : 0 < a.deadband := by
  cases a <;> decide

theorem deadband_of_trigger (h : a.isTrigger) : a.deadband = 8 := if_pos h

theorem deadband_of_inverted (h : inverted p a) : a.deadband = 100 := by
  cases a <;> simp [inverted] at h ⊢ <;> rfl

theorem target_zero (p : Platform) (a : Analog) : target p a 0 = 0 := by
  simp [target, scaled_zero]

theorem moveAnalog_kept {value : ℚ} (h : (s.moveAnalog p a value).2 = false) :
    (s.moveAnalog p a value).1 = s := by
  simp only [CGamepadState.moveAnalog] at h ⊢
  split at h
  · rename_i hclose
    exact congrArg Prod.fst (if_pos hclose)
  · cases h

theorem pressButton_kept {mapped : Button} {value : ℚ}
    (h : (s.pressButton p mapped value).2 = false) : (s.pressButton p mapped value).1 = s := by
  unfold CGamepadState.pressButton at h ⊢
  split_ifs at h ⊢
  rfl

theorem update_kept (h : (s.update p event).2 = false) : (s.update p event).1 = s := by
  unfold CGamepadState.update at h ⊢
  cases htype : event.type with
  | analog =>
    simp only [htype] at h ⊢
    cases ha : analogMapping.lookup event.key with
    | some mapped =>
      simp only [ha] at h ⊢
      exact moveAnalog_kept h
    | none =>
      simp only [ha] at h ⊢
      cases hb : buttonMapping.lookup event.key with
      | some mapped => simp [hb] at h
      | none => rfl
  | button =>
    simp only [htype] at h ⊢
    by_cases hweb : webTrigger p event.key
    · simp only [hweb, if_true] at h ⊢
      cases ha : analogMapping.lookup event.key with
      | some mapped =>
        simp only [ha] at h ⊢
        exact moveAnalog_kept h
      | none => rfl
    · simp only [hweb, Bool.false_eq_true, if_false] at h ⊢
      cases hb : buttonMapping.lookup event.key with
      | some mapped =>
        simp only [hb] at h ⊢
        exact pressButton_kept h
      | none =>
        simp only [hb] at h ⊢
        cases ha : analogMapping.lookup event.key with
        | none => rfl
        | some mapped =>
          simp only [ha] at h ⊢
          by_cases htrigger : mapped.isTrigger
          · simp only [htrigger, if_true] at h ⊢
            exact moveAnalog_kept h
          · simp [htrigger] at h

/-- The event of an analog control moves it on every path of the code. -/
theorem update_control (h : movedControl p event = some a) :
    s.update p event = s.moveAnalog p a event.value := by
  unfold movedControl at h
  unfold CGamepadState.update
  cases htype : event.type with
  | analog =>
    simp only [htype] at h ⊢
    simp only [h]
  | button =>
    simp only [htype] at h ⊢
    by_cases hweb : webTrigger p event.key
    · rw [if_pos hweb] at h ⊢
      simp only [h]
    · rw [if_neg hweb] at h ⊢
      cases hb : buttonMapping.lookup event.key with
      | some mapped => simp [hb] at h
      | none =>
        simp only [hb, Option.isSome_none, Bool.false_eq_true, if_false] at h
        obtain ⟨ha, htrigger⟩ := Option.filter_eq_some_iff.mp h
        simp only [ha, htrigger, if_true]

theorem moveAnalog_close {value : ℚ}
    (h : |scaled value a.fullScale-s.analogs a| < a.deadband) :
    (s.moveAnalog p a value).1.analogs a = s.analogs a := by
  simp only [CGamepadState.moveAnalog, if_pos h]

theorem moveAnalog_far {value : ℚ}
    (h : ¬ |scaled value a.fullScale-s.analogs a| < a.deadband) :
    (s.moveAnalog p a value).1.analogs a = target p a value := by
  simp only [CGamepadState.moveAnalog, if_neg h]
  exact Function.update_self _ _ _

/-- An event brings its control within the deadband, unless a Y axis of the web
is taken for one that is already there. -/
theorem moveAnalog_follows {value : ℚ} :
    |(s.moveAnalog p a value).1.analogs a-target p a value| < a.deadband ↔
      (inverted p a → |scaled value a.fullScale-s.analogs a| < 100 →
        |scaled value a.fullScale+s.analogs a| < 100) := by
  by_cases hclose : |scaled value a.fullScale-s.analogs a| < a.deadband
  · rw [moveAnalog_close hclose]
    by_cases hinv : inverted p a
    · rw [deadband_of_inverted hinv] at hclose ⊢
      have hsum : s.analogs a-target p a value = scaled value a.fullScale+s.analogs a := by
        unfold target
        rw [if_pos hinv]
        omega
      rw [hsum]
      exact ⟨fun h _ _ => h,fun h => h hinv hclose⟩
    · refine iff_of_true ?_ (fun h => absurd h hinv)
      unfold target
      rw [if_neg hinv, abs_sub_comm]
      exact hclose
  · rw [moveAnalog_far hclose, sub_self, abs_zero]
    refine iff_of_true (deadband_pos a) (fun hinv hnear => ?_)
    rw [deadband_of_inverted hinv] at hclose
    exact absurd hnear hclose

/-- A trigger that is let go comes to rest, unless it is near enough to stay. -/
theorem moveAnalog_rest (ha : a.isTrigger) :
    (s.moveAnalog p a 0).1.analogs a = 0 ↔ s.analogs a = 0 ∨ 8 ≤ |s.analogs a| := by
  have habs : |scaled 0 a.fullScale-s.analogs a| = |s.analogs a| := by
    rw [scaled_zero, zero_sub, abs_neg]
  by_cases hclose : |scaled 0 a.fullScale-s.analogs a| < a.deadband
  · rw [moveAnalog_close hclose]
    rw [habs, deadband_of_trigger ha] at hclose
    exact ⟨Or.inl,fun h => h.resolve_right (not_le.mpr hclose)⟩
  · rw [moveAnalog_far hclose, target_zero]
    rw [habs, deadband_of_trigger ha] at hclose
    exact iff_of_true rfl (Or.inr (not_lt.mp hclose))

theorem onEvent_state (p : Platform) (event : GamepadEvent) (g : Gamepad) :
    (onEvent p event g).state = (g.state.update p event).1 := by
  simp only [onEvent]
  split <;> rfl

theorem onEvent_kept {g : Gamepad} (h : (g.state.update p event).2 = false) :
    onEvent p event g = g := by
  simp only [onEvent, h, update_kept h]
  rfl

/-- One event. -/
theorem follows_iff (p : Platform) (event : GamepadEvent) (g : Gamepad) :
    Follows p event g ↔ InReach p event g := by
  constructor
  · intro h a ha
    have hclose := h.close a ha
    have hrest := h.rest a ha
    rw [onEvent_state, update_control ha] at hclose hrest
    refine ⟨fun htrigger hzero => ?_,moveAnalog_follows.mp hclose⟩
    have hstored := hrest htrigger hzero
    rw [hzero] at hstored
    exact (moveAnalog_rest htrigger).mp hstored
  · intro h
    refine ⟨fun a ha => ?_,fun a ha htrigger hzero => ?_,onEvent_kept⟩
    · rw [onEvent_state, update_control ha]
      exact moveAnalog_follows.mpr (h a ha).2
    · rw [onEvent_state, update_control ha, hzero]
      exact (moveAnalog_rest htrigger).mpr ((h a ha).1 htrigger hzero)

end Updates

/-- What was sent last is the state. -/
theorem sent_current (p : Platform) (events : List GamepadEvent) :
    ∀ text ∈ (run (onEvent p) events {}).sent.head?,
      text = (run (onEvent p) events {}).state.getStateString := by
  have hstep : ∀ event g, (∀ text ∈ g.sent.head?, text = g.state.getStateString) →
      ∀ text ∈ (onEvent p event g).sent.head?,
        text = (onEvent p event g).state.getStateString := by
    intro event g hg
    cases h : (g.state.update p event).2 with
    | false =>
      rw [onEvent_kept h]
      exact hg
    | true =>
      intro text htext
      simp only [onEvent, h, if_true] at htext ⊢
      exact (Option.some.inj htext).symm
  exact reachable_invariant (onEvent p) hstep (fun text h => by cases h) ⟨events,rfl⟩

/-- Every event of a run is followed exactly when every event of it finds its
control in reach. -/
theorem analogs_follow (p : Platform) (events : List GamepadEvent) :
    Meets (onEvent p) (Follows p) events {} ↔ Meets (onEvent p) (InReach p) events {} := by
  rw [meets_iff, meets_iff]
  exact ⟨fun h before e after hes => (follows_iff p e _).mp (h before e after hes),
    fun h before e after hes => (follows_iff p e _).mpr (h before e after hes)⟩

/-- A trigger let go by way of three, and a stick of the web moved from one side
to the other. -/
theorem analogs_stuck :
    ¬ Meets (onEvent .windows) (Follows .windows) [⟨.analog,"leftTrigger",1/8⟩,
      ⟨.analog,"leftTrigger",1/64⟩,⟨.analog,"leftTrigger",0⟩] {} ∧
    ¬ Meets (onEvent .web) (Follows .web) [⟨.analog,"analog 1",1/2⟩,
      ⟨.analog,"analog 1",-1/2⟩] {} := by
  constructor
  · intro h
    have hrest := h.2.2.1.rest .bLeftTrigger rfl rfl rfl
    revert hrest
    decide +kernel
  · intro h
    have hclose := h.2.1.close .sThumbLY rfl
    revert hclose
    decide +kernel

end CloudPlay.GamepadAnalogs
