import CloudPlay.TwoFingerGestures
import Mathlib.Data.Option.Basic

/-!
# Scrolls that go on by themselves

A scroll of two fingers that ends fast goes on by itself until the next one begins. At most
one does so at a time, and the fingers scroll nothing meanwhile. The pan and zoom gestures
of a desktop, which scroll with the same controller, are left out.
-/

set_option autoImplicit false

namespace CloudPlay.ScrollFlings
open TouchInput (Offset PointerEvent PointerMap VideoScreen middle isQuickTap endOwnDrag
  afterLift forgetPointer handleSingleFingerMove)
open TransitionRun TwoFingerGestures

structure Flinging (s : Renderer) : Prop where
  one : s.scrollController.running = if s.scrollController.ticker then 1 else 0
  still : s.isTwoFingerScrolling = true → s.scrollController.ticker = false
  scrolls : s.initialPinchDistance.isSome → s.isTwoFingerScrolling = true
  known : ∀ pointer ∈ s.screen.touchpadPointerDownTime.keys,
    pointer ∈ s.screen.touchpadPointers.keys

section Flings
variable {settings : StreamingSettings} {distance : Offset → Offset → ℚ} {box : RenderBox}
  {s s' : Renderer} {c : SmoothScrollController}

def Single (c : SmoothScrollController) : Prop := c.running = if c.ticker then 1 else 0

theorem stopFling_single (h : Single c) : Single c.stopFling ∧ c.stopFling.ticker = false := by
  unfold SmoothScrollController.stopFling
  cases ht : c.ticker with
  | false =>
    rw [if_neg Bool.false_ne_true]
    exact ⟨h,ht⟩
  | true =>
    rw [Single, ht] at h
    rw [if_pos rfl]
    exact ⟨by simp [Single, h],rfl⟩

theorem startFling_single (now : ℤ) (h : Single c) (ht : c.ticker = false) :
    Single (c.startFling now) := by
  rw [Single, ht] at h
  unfold SmoothScrollController.startFling
  simp only
  split
  · simp [Single, h, ht]
  · split
    · simp [Single, h, ht]
    · simp [Single, h]

theorem down_pointers (v : VideoScreen) (event : PointerEvent) :
    (TouchInput.handleTouchpadDown v event).screen.touchpadPointers =
        v.touchpadPointers.insert event.pointer event.position ∧
      (TouchInput.handleTouchpadDown v event).screen.touchpadPointerDownTime =
        v.touchpadPointerDownTime.insert event.pointer event.now := by
  unfold TouchInput.handleTouchpadDown
  simp only
  split <;> exact ⟨rfl,rfl⟩

theorem move_pointers (v : VideoScreen) (event : PointerEvent) :
    (TouchInput.handleTouchpadMove v event).screen.touchpadPointers =
        v.touchpadPointers.insert event.pointer event.position ∧
      (TouchInput.handleTouchpadMove v event).screen.touchpadPointerDownTime =
        v.touchpadPointerDownTime := by
  unfold TouchInput.handleTouchpadMove
  simp only
  split
  · unfold handleSingleFingerMove
    split
    · exact ⟨rfl,rfl⟩
    · split <;> exact ⟨rfl,rfl⟩
  · exact ⟨rfl,rfl⟩
  · exact ⟨rfl,rfl⟩

theorem up_pointers (v : VideoScreen) (event : PointerEvent) :
    (TouchInput.handleTouchpadUp v event).screen.touchpadPointers =
        v.touchpadPointers.remove event.pointer ∧
      (TouchInput.handleTouchpadUp v event).screen.touchpadPointerDownTime =
        v.touchpadPointerDownTime.remove event.pointer := by
  have hown : (endOwnDrag v event).screen.touchpadPointers = v.touchpadPointers ∧
      (endOwnDrag v event).screen.touchpadPointerDownTime = v.touchpadPointerDownTime := by
    unfold endOwnDrag
    split <;> exact ⟨rfl,rfl⟩
  have hafter (w : VideoScreen) : (afterLift w).screen.touchpadPointers = w.touchpadPointers ∧
      (afterLift w).screen.touchpadPointerDownTime = w.touchpadPointerDownTime := by
    unfold afterLift
    split
    · simp only
      split <;> exact ⟨rfl,rfl⟩
    · exact ⟨rfl,rfl⟩
    · exact ⟨rfl,rfl⟩
  unfold TouchInput.handleTouchpadUp
  simp only
  rw [(hafter _).1, (hafter _).2, forgetPointer, hown.1, hown.2]
  exact ⟨rfl,rfl⟩

theorem endScroll_screen (condition : Bool) (now : ℤ) (s : Renderer) :
    (endScroll condition now s).screen = s.screen := by
  unfold endScroll
  split <;> rfl

theorem up_screen (event : PointerEvent) (s : Renderer) :
    (handleTouchpadUp event s).screen = (TouchInput.handleTouchpadUp s.screen event).screen := by
  unfold handleTouchpadUp
  simp only
  split
  · exact endScroll_screen _ _ _
  · exact endScroll_screen _ _ _

theorem mem_keys_of_lookup {α : Type} {m : PointerMap α} {pointer : ℕ} {value : α}
    (h : m.lookup pointer = some value) : pointer ∈ m.keys := by
  obtain ⟨before, after, rfl, -⟩ := List.lookup_eq_some_iff.mp h
  simp [PointerMap.keys]

theorem quick_known {v : VideoScreen} {event : PointerEvent} (h : isQuickTap v event = true) :
    event.pointer ∈ v.touchpadPointerDownTime.keys := by
  unfold isQuickTap at h
  split at h
  · rename_i hlookup _
    exact mem_keys_of_lookup hlookup
  · cases h

theorem remove_length {α : Type} {m : PointerMap α} {pointer : ℕ} (h : pointer ∈ m.keys) :
    (m.remove pointer).length < m.length := by
  rw [PointerMap.keys, List.mem_map] at h
  obtain ⟨e, he, rfl⟩ := h
  apply List.length_filter_lt_length_iff_exists.mpr
  exact ⟨e,he,by simp⟩

def Calm (s : Renderer) : Prop :=
  Single s.scrollController ∧
    (s.isTwoFingerScrolling = true → s.scrollController.ticker = false)

theorem endScroll_calm (condition : Bool) (now : ℤ) (h : Calm s) :
    Calm (endScroll condition now s) := by
  unfold endScroll
  split
  · rename_i hscroll
    have hscrolling := (Bool.and_eq_true_iff.mp hscroll).2
    exact ⟨startFling_single now h.1 (h.2 hscrolling),(fun hfalse => nomatch hfalse)⟩
  · exact h

theorem up_calm (event : PointerEvent) (h : Calm s) : Calm (handleTouchpadUp event s) :=
  up_preserves (fun condition now _ h => endScroll_calm condition now h) (fun _ _ h => h)
    (fun _ h => h) event h

/-- The scroll ends with the gesture. -/
theorem up_scrolls (event : PointerEvent) (h : Flinging s) :
    (handleTouchpadUp event s).initialPinchDistance.isSome →
      (handleTouchpadUp event s).isTwoFingerScrolling = true := by
  unfold handleTouchpadUp
  simp only [endScroll_screen, Renderer.withScreen, (up_pointers s.screen event).1]
  split
  · exact fun hnone => nomatch hnone
  · rename_i hmany
    have hquick : (isQuickTap s.screen event && decide (s.screen.touchpadPointers.length = 2)) =
        false := by
      rw [Bool.and_eq_false_iff, decide_eq_false_iff_not]
      by_contra hboth
      rw [not_or, not_not, Bool.not_eq_false] at hboth
      have hless := remove_length (h.known _ (quick_known hboth.1))
      omega
    rw [hquick]
    simp only [hmany, decide_false, Bool.and_false]
    exact h.scrolls

theorem startScroll_single (now : ℤ) (h : Single c) :
    Single (c.startScroll now) ∧ (c.startScroll now).ticker = false :=
  stopFling_single h

theorem down_flinging (event : PointerEvent) (h : Flinging s) :
    Flinging (handleTouchpadDown distance event s) := by
  have hknown : ∀ pointer ∈ (TouchInput.handleTouchpadDown s.screen
      event).screen.touchpadPointerDownTime.keys,
      pointer ∈ (TouchInput.handleTouchpadDown s.screen event).screen.touchpadPointers.keys := by
    intro pointer
    rw [(down_pointers s.screen event).1, (down_pointers s.screen event).2,
      PointerMap.mem_keys_insert, PointerMap.mem_keys_insert]
    exact Or.imp_left (h.known pointer)
  unfold handleTouchpadDown
  simp only
  split
  · have hstart := startScroll_single event.now h.one
    exact ⟨hstart.1,fun _ => hstart.2,fun _ => rfl,hknown⟩
  · exact ⟨h.one,h.still,h.scrolls,hknown⟩

/-- A move of fingers scrolls at most, and only in a gesture of two fingers. -/
structure OnlyScrolls (s s' : Renderer) : Prop where
  ticker : s'.scrollController.ticker = s.scrollController.ticker
  running : s'.scrollController.running = s.scrollController.running
  scrolling : s'.isTwoFingerScrolling = s.isTwoFingerScrolling
  initial : s'.initialPinchDistance = s.initialPinchDistance
  scrolled : s.initialPinchDistance = none →
    s'.scrollController.scrolled = s.scrollController.scrolled

variable (settings distance box) in
theorem pinch_scrolls (s : Renderer) : OnlyScrolls s (handlePinchZoom settings distance box s) := by
  have hzoomed (newScale : ℚ) : OnlyScrolls s (zoomed box newScale s) := by
    unfold zoomed
    split
    · exact ⟨rfl,rfl,rfl,rfl,fun _ => rfl⟩
    · split <;> exact ⟨rfl,rfl,rfl,rfl,fun _ => rfl⟩
  unfold handlePinchZoom
  split
  · split
    · exact ⟨rfl,rfl,rfl,rfl,fun _ => rfl⟩
    · split
      · exact ⟨rfl,rfl,rfl,rfl,fun _ => rfl⟩
      · rename_i last _ _
        have h := hzoomed (clamp (s.videoScale*(pinchDistance distance s/last)) 1 5)
        exact ⟨h.ticker,h.running,h.scrolling,h.initial,h.scrolled⟩
  · exact ⟨rfl,rfl,rfl,rfl,fun _ => rfl⟩

variable (settings distance box) in
theorem gesture_scrolls (a b : Offset) (s : Renderer) :
    OnlyScrolls s (handleTwoFingerGesture settings distance box a b s) := by
  obtain ⟨gesture, hg | hg | ⟨hsome, deltaX, deltaY, hg⟩⟩ :=
    gesture_cases settings distance box a b s
  · rw [hg]
    exact ⟨rfl,rfl,rfl,rfl,fun _ => rfl⟩
  · rw [hg]
    have h := pinch_scrolls settings distance box (moved (middle a b) gesture s)
    exact ⟨h.ticker,h.running,h.scrolling,h.initial,h.scrolled⟩
  · rw [hg]
    have hne : s.initialPinchDistance ≠ none := Option.isSome_iff_ne_none.mp hsome
    unfold handleTwoFingerScroll
    split <;> exact ⟨rfl,rfl,rfl,rfl,fun hnone => absurd hnone hne⟩

theorem move_scrolls (event : PointerEvent) :
    OnlyScrolls s (handleTouchpadMove settings distance box event s) := by
  unfold handleTouchpadMove
  simp only
  split
  · rename_i a b _
    have h := gesture_scrolls settings distance box a.2 b.2 (s.withScreen {s.screen with
        touchpadPointers := s.screen.touchpadPointers.insert event.pointer event.position})
    exact ⟨h.ticker,h.running,h.scrolling,h.initial,h.scrolled⟩
  · exact ⟨rfl,rfl,rfl,rfl,fun _ => rfl⟩

theorem move_flinging (event : PointerEvent) (h : Flinging s) :
    Flinging (handleTouchpadMove settings distance box event s) := by
  have hs : OnlyScrolls s (handleTouchpadMove settings distance box event s) := move_scrolls event
  refine ⟨?_,?_,?_,?_⟩
  · rw [hs.running, hs.ticker]
    exact h.one
  · rw [hs.scrolling, hs.ticker]
    exact h.still
  · rw [hs.initial, hs.scrolling]
    exact h.scrolls
  · intro pointer
    simp only [handleTouchpadMove, Renderer.withScreen, (move_pointers s.screen event).1,
      (move_pointers s.screen event).2, PointerMap.mem_keys_insert]
    exact fun hp => Or.inl (h.known pointer hp)

theorem up_flinging (event : PointerEvent) (h : Flinging s) :
    Flinging (handleTouchpadUp event s) := by
  have hcalm := up_calm event ⟨h.one,h.still⟩
  refine ⟨hcalm.1,hcalm.2,up_scrolls event h,?_⟩
  intro pointer
  simp only [up_screen, (up_pointers s.screen event).1, (up_pointers s.screen event).2,
    PointerMap.mem_keys_remove]
  exact fun hp => ⟨h.known pointer hp.1,hp.2⟩

theorem flinging_step (e : Event) (s : Renderer) (h : Flinging s) :
    Flinging (step settings distance e s) := by
  cases e with
  | down event box =>
    simp only [step]
    split
    · exact down_flinging event h
    · exact h
  | move event box =>
    cases box with
    | none => exact h
    | some box => exact move_flinging event h
  | up event => exact up_flinging event h
  | cancel event =>
    have hup := up_flinging event h
    exact ⟨hup.one,hup.still,hup.scrolls,hup.known⟩
  | settled =>
    have hstop := stopFling_single h.one
    exact ⟨hstop.1,fun _ => hstop.2,h.scrolls,h.known⟩

theorem start_flinging : Flinging {} where
  one := rfl
  still := by simp
  scrolls := by simp
  known := by simp [PointerMap.keys]

end Flings

/-- At most one scroll goes on by itself, and while it does the fingers scroll nothing. -/
theorem fling_alone (settings : StreamingSettings) (distance : Offset → Offset → ℚ)
    (es : List Event) :
    (run (step settings distance) es {}).scrollController.running ≤ 1 ∧
      (0 < (run (step settings distance) es {}).scrollController.running → ∀ event box,
        (step settings distance (.move event box)
          (run (step settings distance) es {})).scrollController.scrolled =
        (run (step settings distance) es {}).scrollController.scrolled) := by
  have h : Flinging (run (step settings distance) es {}) :=
    reachable_invariant (step settings distance) flinging_step
      start_flinging ⟨es,rfl⟩
  generalize run (step settings distance) es {} = s at h ⊢
  have hone := h.one
  constructor
  · rw [hone]
    split <;> omega
  · intro hrunning event box
    cases box with
    | none => rfl
    | some box =>
      apply (move_scrolls event).scrolled
      cases hinitial : s.initialPinchDistance with
      | none => rfl
      | some initial =>
        have hstill := h.still (h.scrolls (by rw [hinitial]; rfl))
        rw [hstill, if_neg Bool.false_ne_true] at hone
        omega

end CloudPlay.ScrollFlings
