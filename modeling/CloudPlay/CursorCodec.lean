import CloudPlay.CursorUpdates

/-!
# Cursor events across the channel

What a controller does for an event of the host, stated on the event's own
fields, and what it does for the message. The two agree on every platform and in
every state, but for a cursor that appears: its coordinates are written in one
byte order and read in the other.
-/

set_option autoImplicit false

namespace CloudPlay.CursorCodec
open ByteViews CursorMessages CursorUpdates

/-- The position of an event on this controller's screen. -/
def here (s : InputController) (screen : ℤ) (x y : Coordinate) : Option (Coordinate × Coordinate) :=
  if s.screenId = screen then some (x,y) else none

def reactMobile (now : ℤ) (s : InputController) : CursorEvent → Change
  | .cached hash => chooseDrawn s hash
  | .shape _ => ignored s
  | .hidden _ => if s.autoHideLocalCursor then hideDrawn s else ignored s
  | .visible screen x y =>
      if s.autoHideLocalCursor && s.isCursorLocked then showDrawn s (here s screen x y)
      else ignored s
  | .positionChanged screen x y =>
      if !s.isCursorLocked && 1000 < now-s.lastAbslMoveTime then
        moveDrawn s screen x.toFloat32.toBits y.toFloat32.toBits
      else ignored s

def reactDesktop (p : AppPlatform) (now : ℤ) (s : InputController) :
    CursorEvent → Outcome (List Effect)
  | .cached hash => done (chooseCached s hash)
  | .shape info => done (chooseDefault p s info)
  | .hidden _ => done (if s.autoHideLocalCursor then hide p s else ignored s)
  | .visible screen x y =>
      if s.autoHideLocalCursor then startShowing s (afterUnlock p (here s screen x y))
      else done (ignored s)
  | .positionChanged screen x y =>
      done (moveCursor p s now screen x.toFloat32.toBits y.toFloat32.toBits)

def react (p : AppPlatform) (now : ℤ) (s : InputController) (e : CursorEvent) :
    Outcome (List Effect) :=
  if p.isMobile then done (reactMobile now s e) else reactDesktop p now s e

/-- An outcome with its closure run. The screen of a controller never changes, so
the closure does the same whenever it runs. -/
def settle (p : AppPlatform) (o : Outcome Continuation) : Option (Outcome (List Effect)) :=
  match o.later with
  | none => some (done o.toChange)
  | some k => (resume p o.controller.screenId k).map fun effects => ⟨o.toChange,some effects⟩

def Decoded (sim : HardwareSimulator) (e : CursorEvent) : Prop :=
  ∃ message, encode sim e = some [message] ∧ ∀ p now s,
    (handleCursorUpdate sim p now s message).bind (settle p) = some (react p now s e)

def Int32 (v : ℤ) : Prop := -2^31 ≤ v ∧ v < 2^31

def Palindrome (x : Coordinate) : Prop := (leBytes 4 x.toNat).reverse = leBytes 4 x.toNat

/-- The low four bytes name the cursor that the shape itself names. -/
def SameShape (info : ℤ) : Prop :=
  ∀ p, p.isMobile = false → remoteCursor p (signed 4 info) = remoteCursor p info

def RoundTrips : CursorEvent → Prop
  | .cached hash => Int32 hash
  | .shape info => SameShape info
  | .hidden _ => True
  | .visible screen x y => Int32 screen ∧ Palindrome x ∧ Palindrome y
  | .positionChanged screen _ _ => Int32 screen

/-! The reads of the messages. -/

section
variable (sim : HardwareSimulator) (p : AppPlatform) (now : ℤ) (s : InputController)

@[simp] theorem settle_done (c : Change) : settle p (done c) = some (done c) := rfl

theorem settle_startShowing {k : Continuation} {effects : List Effect}
    (h : resume p s.screenId k = some effects) :
    settle p (startShowing s k) = some (startShowing s effects) := by
  simp only [startShowing]
  split
  · simp [settle, h]
  · rfl

theorem resume_placed (e : Endian) (kind screen : ℤ) (x y : Coordinate) :
    resume p s.screenId ⟨message kind screen (place e x y),signed 4 screen⟩ =
      some (afterUnlock p (here s (signed 4 screen) (reread e .little x) (reread e .little y))) := by
  by_cases h : s.screenId = signed 4 screen
  · simp [resume, here, h]
  · simp [resume, here, h]

/-- What the messages do: the handler on the fields as they are read. -/
def readBack : CursorEvent → CursorEvent
  | .cached hash => .cached (signed 4 hash)
  | .shape info => .shape (signed 4 info)
  | .hidden info => .hidden (signed 4 info)
  | .visible screen x y =>
      .visible (signed 4 screen) (reread .big .little x) (reread .big .little y)
  | .positionChanged screen x y => .positionChanged (signed 4 screen) x y

theorem mobile_reads (e : CursorEvent) : handleCursorUpdateMobile sim now s (sent sim e) =
    some (done (reactMobile now s (readBack e))) := by
  cases e with
  | cached hash =>
    simp [handleCursorUpdateMobile, sent, decodeCursorBuffer, sim.int32, reactMobile, readBack]
  | shape info =>
    simp [handleCursorUpdateMobile, sent, decodeCursorBuffer, sim.int32, reactMobile, readBack]
  | hidden info =>
    cases h : s.autoHideLocalCursor <;>
      simp [handleCursorUpdateMobile, sent, decodeCursorBuffer, sim.int32, reactMobile, readBack, h]
  | visible screen x y =>
    cases h : s.autoHideLocalCursor
    · simp [handleCursorUpdateMobile, sent, decodeCursorBuffer, sim.int32, reactMobile, readBack, h]
    · cases hl : s.isCursorLocked
      · simp [handleCursorUpdateMobile, sent, sim.int32, reactMobile, readBack, h, hl]
      · by_cases hs : s.screenId = signed 4 screen <;>
          simp [handleCursorUpdateMobile, sent, sim.int32, reactMobile, readBack, here, h, hl, hs]
  | positionChanged screen x y =>
    cases h : s.isCursorLocked
    · by_cases ht : 1000 < now-s.lastAbslMoveTime <;>
        simp [handleCursorUpdateMobile, sent, sim.int32, reactMobile, readBack, h, ht]
    · simp [handleCursorUpdateMobile, sent, sim.int32, reactMobile, readBack, h]

theorem desktop_reads (e : CursorEvent) :
    (handleCursorUpdateDesktop sim p now s (sent sim e)).bind (settle p) =
      some (reactDesktop p now s (readBack e)) := by
  have htag : ¬LP_MOUSECURSOR_CHANGED = LP_MOUSECURSOR_CHANGED_WITHBUFFER := by decide
  cases e with
  | cached hash => simp [handleCursorUpdateDesktop, sent, htag, sim.int32, reactDesktop, readBack]
  | shape info => simp [handleCursorUpdateDesktop, sent, htag, sim.int32, reactDesktop, readBack]
  | hidden info =>
    cases h : s.autoHideLocalCursor <;>
      simp [handleCursorUpdateDesktop, sent, htag, sim.int32, reactDesktop, readBack, h]
  | visible screen x y =>
    cases h : s.autoHideLocalCursor
    · simp [handleCursorUpdateDesktop, sent, htag, sim.int32, reactDesktop, readBack, h]
    · simp [handleCursorUpdateDesktop, sent, htag, sim.int32, reactDesktop, readBack, h]
      exact settle_startShowing p s (resume_placed p s .big _ screen x y)
  | positionChanged screen x y =>
    simp [handleCursorUpdateDesktop, sent, htag, sim.int32, reactDesktop, readBack]

theorem handler_reads (e : CursorEvent) :
    (handleCursorUpdate sim p now s (sent sim e)).bind (settle p) =
      some (react p now s (readBack e)) := by
  simp only [handleCursorUpdate, react]
  split
  · rw [mobile_reads]
    exact settle_done p _
  · exact desktop_reads sim p now s e

theorem decoded_iff (e : CursorEvent) :
    Decoded sim e ↔ ∀ p now s, react p now s (readBack e) = react p now s e := by
  simp only [Decoded, encode_eq, Option.some.injEq, List.cons.injEq, and_true]
  constructor
  · rintro ⟨m, rfl, h⟩ p now s
    have hr := handler_reads sim p now s e
    rw [h] at hr
    exact (Option.some.inj hr).symm
  · intro h
    use sent sim e
    apply And.intro rfl
    intro p now s
    rw [handler_reads, h]

end

/-! Events that differ are told apart by some state. -/

section
variable (screen : ℤ)

/-- A controller of the screen whose cursor the host has hidden. -/
def viewer : InputController where
  screenId := screen
  isCursorLocked := true
  isCursorLockedbySyncMouse := false
  blockCursorMove := false
  blockNextAbsl := 0
  lastAbslMoveTime := 0
  cachedCursors := [screen]
  mouse := ⟨[],0⟩
  autoHideLocalCursor := true
  canControlOtherMonitors := false

theorem cached_read {hash : ℤ} (h : ∀ p now s, react p now s (readBack (.cached hash)) =
    react p now s (.cached hash)) : signed 4 hash = hash := by
  have hw := h .windows 0 (viewer hash)
  by_contra hne
  simp [react, reactDesktop, readBack, AppPlatform.isMobile, chooseCached, viewer, done, hne] at hw

theorem shape_read {info : ℤ} (h : ∀ p now s, react p now s (readBack (.shape info)) =
    react p now s (.shape info)) : SameShape info := by
  intro p hp
  have hw := congrArg (fun o => o.effects) (h p 0 (viewer info))
  simpa [react, hp, reactDesktop, readBack, done, chooseDefault] using hw

theorem visible_read {x y : Coordinate} (h : ∀ p now s,
    react p now s (readBack (.visible screen x y)) = react p now s (.visible screen x y)) :
    signed 4 screen = screen ∧ reread .big .little x = x ∧ reread .big .little y = y := by
  have hw := h .windows 0 (viewer screen)
  have hs : signed 4 screen = screen := by
    by_contra hne
    simp [react, reactDesktop, readBack, AppPlatform.isMobile, AppPlatform.isDeskTop, startShowing,
      afterUnlock, here, viewer, Ne.symm hne] at hw
  simp [react, reactDesktop, readBack, AppPlatform.isMobile, AppPlatform.isDeskTop, startShowing,
    afterUnlock, here, viewer, hs] at hw
  exact ⟨hs,hw⟩

theorem positionChanged_read {x y : Float} (h : ∀ p now s,
    react p now s (readBack (.positionChanged screen x y)) =
      react p now s (.positionChanged screen x y)) : signed 4 screen = screen := by
  have hw := h .windows 2000 {viewer screen with isCursorLocked := false}
  by_contra hne
  simp [react, reactDesktop, readBack, AppPlatform.isMobile, AppPlatform.isDeskTop, done,
    moveCursor, ignored, viewer, Ne.symm hne] at hw

end

/-! Events that read back as they were, or to the same effect. -/

theorem chooseDefault_congr {p : AppPlatform} {a b : ℤ} (s : InputController)
    (h : remoteCursor p a = remoteCursor p b) : chooseDefault p s a = chooseDefault p s b := by
  by_cases ha : isAsset p a <;> by_cases hb : isAsset p b <;>
    simp [remoteCursor, ha, hb] at h
  · rw [h]
  · simp [chooseDefault, remoteCursor, ha, hb, h]

theorem react_readBack {e : CursorEvent} (h : RoundTrips e) (p : AppPlatform) (now : ℤ)
    (s : InputController) : react p now s (readBack e) = react p now s e := by
  cases e with
  | cached hash => rw [readBack, (signed_eq_iff hash).mpr h]
  | shape info =>
    cases hp : p.isMobile
    · simp only [react, hp, Bool.false_eq_true, if_false, reactDesktop, readBack,
        chooseDefault_congr s (h p hp)]
    · simp only [react, hp, if_true, reactMobile, readBack]
  | hidden info => rfl
  | visible screen x y =>
    rw [readBack, (signed_eq_iff screen).mpr h.1, (reread_eq_iff x).mpr h.2.1,
      (reread_eq_iff y).mpr h.2.2]
  | positionChanged screen x y => rw [readBack, (signed_eq_iff screen).mpr h]

theorem roundTrips_of_react {e : CursorEvent}
    (h : ∀ p now s, react p now s (readBack e) = react p now s e) : RoundTrips e := by
  cases e with
  | cached hash => exact (signed_eq_iff hash).mp (cached_read h)
  | shape info => exact shape_read h
  | hidden info => trivial
  | visible screen x y =>
    have hv := visible_read screen h
    exact ⟨(signed_eq_iff screen).mp hv.1,(reread_eq_iff x).mp hv.2.1,(reread_eq_iff y).mp hv.2.2⟩
  | positionChanged screen x y => exact (signed_eq_iff screen).mp (positionChanged_read screen h)

/-- An event is decoded on every platform as the host reported it exactly when
its numbers fit the message and, for a cursor that appears, the bytes of both
coordinates are the same in either order. -/
theorem cursor_decoded (sim : HardwareSimulator) (e : CursorEvent) :
    Decoded sim e ↔ RoundTrips e := by
  rw [decoded_iff]
  constructor
  · exact roundTrips_of_react
  · intro h p now s
    exact react_readBack h p now s

/-- Six codes of a plugin. -/
def numbered : HardwareSimulator where
  code
    | .CURSOR_INVISIBLE => 1
    | .CURSOR_VISIBLE => 2
    | .CURSOR_UPDATED_DEFAULT => 3
    | .CURSOR_UPDATED_IMAGE => 4
    | .CURSOR_UPDATED_CACHED => 5
    | .CURSOR_POSITION_CHANGED => 6
  injective := by
    intro a b h
    cases a <;> cases b <;> first | rfl | exact absurd h (by decide)
  int32 := by
    intro message
    cases message <;> rfl

/-- A cursor that appears in the middle of the screen is put elsewhere. -/
theorem middle_misread : ¬Decoded numbered (.visible 0 half half) := by
  intro h
  exact absurd (visible_read 0 ((decoded_iff _ _).mp h)).2.1 (by decide)

end CloudPlay.CursorCodec
