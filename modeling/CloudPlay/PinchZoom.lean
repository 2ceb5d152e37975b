import CloudPlay.TwoFingerGestures
import Mathlib.Algebra.Order.Field.Basic
import Mathlib.Algebra.Order.Field.Rat
import Mathlib.Tactic.Linarith

/-!
# The zoomed picture under the fingers

The picture is never smaller than the view, and a view that is not scaled is not moved. So
a touch finds the point of the picture that is drawn where it is. What lies between two
fingers stays there unless they move along while they change the scale. Positions and
scales are exact numbers, which the source rounds to doubles.
-/

set_option autoImplicit false

namespace CloudPlay.PinchZoom
open TouchInput (Offset PointerEvent VideoScreen middle)
open TransitionRun ScaledView TwoFingerGestures

structure Zoomed (s : Renderer) : Prop where
  lower : 1 ≤ s.videoScale
  upper : s.videoScale ≤ 5
  rest : s.videoScale = 1 → s.videoOffset = ⟨0,0⟩

section Zoom
variable {settings : StreamingSettings} {distance : Offset → Offset → ℚ} {box : RenderBox}
  {s s' : Renderer}

theorem Zoomed.same (h : Zoomed s) (hscale : s'.videoScale = s.videoScale)
    (hoffset : s'.videoOffset = s.videoOffset) : Zoomed s' := by
  constructor
  · rw [hscale]
    exact h.lower
  · rw [hscale]
    exact h.upper
  · rw [hscale, hoffset]
    exact h.rest

theorem clamp_bounds (q : ℚ) : 1 ≤ clamp q 1 5 ∧ clamp q 1 5 ≤ 5 :=
  ⟨le_max_left _ _,max_le (by norm_num) (min_le_right _ _)⟩

theorem zoomed_zoomed {newScale : ℚ} (hl : 1 ≤ newScale) (hu : newScale ≤ 5) :
    Zoomed (zoomed box newScale s) := by
  unfold zoomed
  split
  · exact ⟨le_rfl,by norm_num,fun _ => rfl⟩
  · rename_i hne
    split <;> exact ⟨hl,hu,fun h => absurd h hne⟩

theorem handlePinchZoom_zoomed (h : Zoomed s) :
    Zoomed (handlePinchZoom settings distance box s) := by
  unfold handlePinchZoom
  split
  · split
    · exact h
    · split
      · exact h
      · exact (zoomed_zoomed (clamp_bounds _).1 (clamp_bounds _).2).same rfl rfl
  · exact h

theorem handleTwoFingerScroll_zoomed {deltaX deltaY : ℚ} (h : Zoomed s) :
    Zoomed (handleTwoFingerScroll settings deltaX deltaY s) := by
  unfold handleTwoFingerScroll
  split
  · exact h.same rfl rfl
  · exact h

theorem handleTwoFingerGesture_zoomed {a b : Offset} (h : Zoomed s) :
    Zoomed (handleTwoFingerGesture settings distance box a b s) := by
  obtain ⟨gesture, hg | hg | ⟨-, deltaX, deltaY, hg⟩⟩ :=
    gesture_cases settings distance box a b s
  · rw [hg]
    exact h.same rfl rfl
  · rw [hg]
    have hmoved : Zoomed (moved (middle a b) gesture s) := h.same rfl rfl
    exact (handlePinchZoom_zoomed hmoved).same rfl rfl
  · rw [hg]
    have hmoved : Zoomed (moved (middle a b) gesture s) := h.same rfl rfl
    exact (handleTwoFingerScroll_zoomed hmoved).same rfl rfl

theorem handleTouchpadDown_zoomed (event : PointerEvent) (h : Zoomed s) :
    Zoomed (handleTouchpadDown distance event s) := by
  unfold handleTouchpadDown
  simp only
  split <;> exact h.same rfl rfl

theorem handleTouchpadMove_zoomed (event : PointerEvent) (h : Zoomed s) :
    Zoomed (handleTouchpadMove settings distance box event s) := by
  unfold handleTouchpadMove
  simp only
  split
  · have hscreen : Zoomed (s.withScreen {s.screen with
        touchpadPointers := s.screen.touchpadPointers.insert event.pointer event.position}) :=
      h.same rfl rfl
    exact (handleTwoFingerGesture_zoomed hscreen).same rfl rfl
  · exact h.same rfl rfl

theorem endScroll_zoomed (condition : Bool) (now : ℤ) (h : Zoomed s) :
    Zoomed (endScroll condition now s) := by
  unfold endScroll
  split
  · exact h.same rfl rfl
  · exact h

theorem handleTouchpadUp_zoomed (event : PointerEvent) (h : Zoomed s) :
    Zoomed (handleTouchpadUp event s) :=
  up_preserves (fun condition now _ h => endScroll_zoomed condition now h)
    (fun _ _ h => h.same rfl rfl)
    (fun _ h => h.same rfl rfl) event h

theorem zoomed_step (e : Event) (s : Renderer) (h : Zoomed s) :
    Zoomed (step settings distance e s) := by
  cases e with
  | down event box =>
    simp only [step]
    split
    · exact handleTouchpadDown_zoomed event h
    · exact h
  | move event box =>
    cases box with
    | none => exact h
    | some box => exact handleTouchpadMove_zoomed event h
  | up event => exact handleTouchpadUp_zoomed event h
  | cancel event => exact (handleTouchpadUp_zoomed event h).same rfl rfl
  | settled => exact h.same rfl rfl

theorem zoomed_run (es : List Event) : Zoomed (run (step settings distance) es {}) :=
  reachable_invariant (step settings distance) zoomed_step ⟨le_rfl,by norm_num,fun _ => rfl⟩
    ⟨es,rfl⟩

theorem toVideo_drawn (h : Zoomed s) (v : Offset) : toVideo box s (drawn box s v) = v := by
  have hne : s.videoScale ≠ 0 := (lt_of_lt_of_le one_pos h.lower).ne'
  simp only [toVideo, drawn, locate_place hne]

theorem toVideo_rest (hscale : s.videoScale = 1) (hoffset : s.videoOffset = ⟨0,0⟩) (p : Offset) :
    toVideo box s p = p := by
  simp [toVideo, locate, hscale, hoffset]

theorem calculatePositionPercent_eq (p : Offset) :
    calculatePositionPercent box s p =
      ⟨clamp ((toVideo box s (box.globalToLocal p)).dx/box.width) 0 1,
        clamp ((toVideo box s (box.globalToLocal p)).dy/box.height) 0 1⟩ := by
  unfold calculatePositionPercent
  simp only
  split
  · rfl
  · rename_i hrest
    rw [not_or, not_not, not_not] at hrest
    rw [toVideo_rest hrest.1 hrest.2]

theorem clamp_percent {q length : ℚ} (hpos : 0 < length) (hl : 0 ≤ q) (hu : q ≤ length) :
    clamp (q/length) 0 1 = q/length := by
  have hq : q/length ≤ 1 := (div_le_one hpos).mpr hu
  rw [clamp, min_eq_left hq, max_eq_right (div_nonneg hl hpos.le)]

end Zoom

/-- After any gestures, a touch where a point of the picture is drawn finds that point. -/
theorem touch_finds_drawn (settings : StreamingSettings) (distance : Offset → Offset → ℚ)
    (es : List Event) {s : Renderer} (hs : s = run (step settings distance) es {})
    {box : RenderBox} (hwidth : 0 < box.width) (hheight : 0 < box.height) {v p : Offset}
    (hx : 0 ≤ v.dx ∧ v.dx ≤ box.width) (hy : 0 ≤ v.dy ∧ v.dy ≤ box.height)
    (hp : box.globalToLocal p = drawn box s v) :
    calculatePositionPercent box s p = ⟨v.dx/box.width,v.dy/box.height⟩ := by
  have hz : Zoomed s := hs ▸ zoomed_run es
  rw [calculatePositionPercent_eq, hp, toVideo_drawn hz, clamp_percent hwidth hx.1 hx.2,
    clamp_percent hheight hy.1 hy.2]

/-- The distance of points beside each other. -/
def across (a b : Offset) : ℚ := |a.dx-b.dx|+|a.dy-b.dy|

def square : RenderBox := ⟨id,100,100⟩

/-- Two fingers that draw apart, and one of them along. -/
def spread : List Event :=
  [.down ⟨1,⟨40,50⟩,0⟩ (some square), .down ⟨2,⟨60,50⟩,100⟩ (some square),
    .move ⟨2,⟨80,50⟩,400⟩ (some square)]

theorem spread_found :
    calculatePositionPercent square (run (step ⟨true,true⟩ across) spread {}) ⟨20,30⟩ =
      ⟨40/square.width,40/square.height⟩ := by
  apply touch_finds_drawn ⟨true,true⟩ across spread rfl (v := ⟨40,40⟩)
  all_goals decide +kernel

/-! Whether what was between the fingers stays between them. -/

def Follows (settings : StreamingSettings) (distance : Offset → Offset → ℚ) :
    Event → Renderer → Prop
  | .move event (some box), s =>
    ∀ last ∈ s.lastPinchFocalPoint,
      ∀ focal ∈ (handleTouchpadMove settings distance box event s).lastPinchFocalPoint,
        drawn box (handleTouchpadMove settings distance box event s)
          (toVideo box s (box.globalToLocal last)) = box.globalToLocal focal
  | _, _ => True

/-- The fingers stay or the scale does; a picture that is let go back to its own size has
the point in its own place. -/
def Anchored (settings : StreamingSettings) (distance : Offset → Offset → ℚ) :
    Event → Renderer → Prop
  | .move event (some box), s =>
    ∀ last ∈ s.lastPinchFocalPoint,
      ∀ focal ∈ (handleTouchpadMove settings distance box event s).lastPinchFocalPoint,
        if (handleTouchpadMove settings distance box event s).videoScale = 1 then
          toVideo box s (box.globalToLocal last) = box.globalToLocal focal
        else box.globalToLocal focal = box.globalToLocal last ∨
          (handleTouchpadMove settings distance box event s).videoScale = s.videoScale
  | _, _ => True

section Following
variable {settings : StreamingSettings} {distance : Offset → Offset → ℚ} {box : RenderBox}
  {s s' : Renderer} {last focal : Offset}

theorem offset_eq_iff (a b : Offset) : a = b ↔ a.dx = b.dx ∧ a.dy = b.dy := by
  cases a
  cases b
  exact Offset.mk.injEq _ _ _ _ ▸ Iff.rfl

theorem drawn_rest (hscale : s.videoScale = 1) (hoffset : s.videoOffset = ⟨0,0⟩) (v : Offset) :
    drawn box s v = v := by
  simp [drawn, place, hscale, hoffset]

theorem drawn_toVideo (h : Zoomed s) (p : Offset) : drawn box s (toVideo box s p) = p := by
  have hne : s.videoScale ≠ 0 := (lt_of_lt_of_le one_pos h.lower).ne'
  simp only [toVideo, drawn, place_locate hne]

/-- A view that has not changed. -/
theorem unchanged_iff (h : Zoomed s) (hscale : s'.videoScale = s.videoScale)
    (hoffset : s'.videoOffset = s.videoOffset) (hlast : focal = last) :
    drawn box s' (toVideo box s (box.globalToLocal last)) = box.globalToLocal focal ↔
      if s'.videoScale = 1 then toVideo box s (box.globalToLocal last) = box.globalToLocal focal
      else box.globalToLocal focal = box.globalToLocal last ∨ s'.videoScale = s.videoScale := by
  have hdrawn (v : Offset) : drawn box s' v = drawn box s v := by
    simp only [drawn, hscale, hoffset]
  rw [hdrawn, drawn_toVideo h, hlast]
  apply iff_of_true rfl
  split
  · rename_i hone
    rw [hscale] at hone
    exact toVideo_rest hone (h.rest hone) _
  · exact Or.inl rfl

/-- A view that has been zoomed. -/
theorem zoomed_iff (h : Zoomed s) {newScale : ℚ} (hf : s.pinchFocalPoint = some focal)
    (hl : s.lastPinchFocalPoint = some last) :
    drawn box (zoomed box newScale s) (toVideo box s (box.globalToLocal last)) =
        box.globalToLocal focal ↔
      if (zoomed box newScale s).videoScale = 1 then
        toVideo box s (box.globalToLocal last) = box.globalToLocal focal
      else box.globalToLocal focal = box.globalToLocal last ∨
        (zoomed box newScale s).videoScale = s.videoScale := by
  have hne : s.videoScale ≠ 0 := (lt_of_lt_of_le one_pos h.lower).ne'
  unfold zoomed
  by_cases hone : newScale = 1
  · rw [if_pos hone, if_pos rfl, drawn_rest rfl rfl]
  · rw [if_neg hone, hf, hl]
    simp only [hone, if_false]
    rw [offset_eq_iff, offset_eq_iff (box.globalToLocal focal)]
    simp only [drawn, toVideo, followed_iff hne]
    exact and_or_right.symm

/-- What the drawing of the picture depends on. -/
structure SameView (s s' : Renderer) : Prop where
  scale : s'.videoScale = s.videoScale
  offset : s'.videoOffset = s.videoOffset

structure Steady (s s' : Renderer) : Prop extends SameView s s' where
  last : s'.lastPinchFocalPoint = s.lastPinchFocalPoint

theorem SameView.drawn (h : SameView s s') (v : Offset) : drawn box s' v = drawn box s v := by
  simp only [TwoFingerGestures.drawn, h.scale, h.offset]

theorem SameView.toVideo (h : SameView s s') (p : Offset) :
    toVideo box s' p = toVideo box s p := by
  simp only [TwoFingerGestures.toVideo, h.scale, h.offset]

/-- The picture is zoomed in a state that draws it as before. -/
def ZoomsFrom (box : RenderBox) (s s' : Renderer) : Prop :=
  ∃ from' newScale, Steady s from' ∧ SameView (zoomed box newScale from') s' ∧
    s'.lastPinchFocalPoint = from'.pinchFocalPoint

variable (settings distance box) in
theorem pinch_cases (h : Steady s s') :
    Steady s (handlePinchZoom settings distance box s') ∨
      ZoomsFrom box s (handlePinchZoom settings distance box s') := by
  unfold handlePinchZoom
  split
  · split
    · exact Or.inl h
    · split
      · exact Or.inl h
      · exact Or.inr ⟨s',_,h,⟨rfl,rfl⟩,rfl⟩
  · exact Or.inl h

variable (settings distance box) in
theorem gesture_view (a b : Offset) (h : Steady s s') :
    Steady s (handleTwoFingerGesture settings distance box a b s') ∨
      ZoomsFrom box s (handleTwoFingerGesture settings distance box a b s') := by
  obtain ⟨gesture, hg | hg | ⟨-, deltaX, deltaY, hg⟩⟩ :=
    gesture_cases settings distance box a b s'
  · rw [hg]
    exact Or.inl ⟨⟨h.scale,h.offset⟩,h.last⟩
  · rw [hg]
    have hmoved : Steady s (moved (middle a b) gesture s') := ⟨⟨h.scale,h.offset⟩,h.last⟩
    rcases pinch_cases settings distance box hmoved with
      h | ⟨from', newScale, hfrom, hview, hlast⟩
    · exact Or.inl ⟨⟨h.scale,h.offset⟩,h.last⟩
    · exact Or.inr ⟨from',newScale,hfrom,⟨hview.scale,hview.offset⟩,hlast⟩
  · rw [hg]
    unfold handleTwoFingerScroll
    split <;> exact Or.inl ⟨⟨h.scale,h.offset⟩,h.last⟩

variable (settings distance box) in
theorem move_cases (event : PointerEvent) :
    Steady s (handleTouchpadMove settings distance box event s) ∨
      ZoomsFrom box s (handleTouchpadMove settings distance box event s) := by
  unfold handleTouchpadMove
  simp only
  split
  · rename_i a b _
    have hscreen : Steady s (s.withScreen {s.screen with
        touchpadPointers := s.screen.touchpadPointers.insert event.pointer event.position}) :=
      ⟨⟨rfl,rfl⟩,rfl⟩
    rcases gesture_view settings distance box a.2 b.2 hscreen with
      h | ⟨from', newScale, hfrom, hview, hlast⟩
    · exact Or.inl ⟨⟨h.scale,h.offset⟩,h.last⟩
    · exact Or.inr ⟨from',newScale,hfrom,⟨hview.scale,hview.offset⟩,hlast⟩
  · exact Or.inl ⟨⟨rfl,rfl⟩,rfl⟩

theorem follows_iff (e : Event) (s : Renderer) (h : Zoomed s) :
    Follows settings distance e s ↔ Anchored settings distance e s := by
  cases e with
  | move event box =>
    cases box with
    | none => rfl
    | some box =>
      simp only [Follows, Anchored]
      apply forall₂_congr
      intro last hlast
      apply forall₂_congr
      intro focal hfocal
      rcases move_cases settings distance box (s := s) event with
        hs | ⟨from', newScale, hfrom, hview, hpinch⟩
      · apply unchanged_iff h hs.scale hs.offset
        rw [hs.last] at hfocal
        exact Option.some.inj (hfocal.symm.trans hlast)
      · rw [hview.drawn, hview.scale, ← hfrom.toVideo, ← hfrom.scale]
        apply zoomed_iff
        · exact h.same hfrom.scale hfrom.offset
        · rw [← hpinch]
          exact hfocal
        · rw [hfrom.last]
          exact hlast
  | down event box => rfl
  | up event => rfl
  | cancel event => rfl
  | settled => rfl

end Following

/-- All along a run the point of the picture between the fingers stays between them exactly
when no zoom changes the scale while the fingers move along. -/
theorem fingers_keep_point_iff (settings : StreamingSettings) (distance : Offset → Offset → ℚ)
    (es : List Event) :
    Meets (step settings distance) (Follows settings distance) es {} ↔
      Meets (step settings distance) (Anchored settings distance) es {} :=
  meets_iff_of_invariant (step settings distance) follows_iff
    (fun e s _ h => zoomed_step e s h) es {} ⟨le_rfl,by norm_num,fun _ => rfl⟩

end CloudPlay.PinchZoom
