import CloudPlay.CursorCodec
import CloudPlay.TransitionRun

/-!
# The lock on the local cursor

The flags of the controllers, the plugin's lock and the registrations of the
cursor-moved callback under messages of the host, closures that run late and the
end of a rendering session. The flags are static: the controller of the next
session finds them as the last one left them. `stop` frees the plugin and leaves
both flags, and a cursor that appears leaves the flag of a lock for another
screen.
-/

set_option autoImplicit false

namespace CloudPlay.CursorLock
open CursorMessages CursorUpdates CursorCodec TransitionRun

structure Plugin where
  cursorlocked : Bool
  moved : ℕ
  deriving DecidableEq, Repr

def perform (w : Plugin) : Effect → Plugin
  | .lockCursor => {w with cursorlocked := true}
  | .unlockCursor => {w with cursorlocked := false}
  | .addCursorMoved => {w with moved := w.moved+1}
  | .removeCursorMoved => {w with moved := w.moved-1}
  | _ => w

def performs (effects : List Effect) (w : Plugin) : Plugin := effects.foldl perform w

structure State where
  controller : InputController
  plugin : Plugin
  /-- The closures to run, each with the screen of its controller. -/
  pending : List (ℤ × Continuation)
  stopped : Bool
  deriving DecidableEq, Repr

inductive Event where
  | message (screenId now : ℤ) (e : CursorEvent)
  | unlocked (i : ℕ)
  | stop

section
variable (sim : HardwareSimulator) (p : AppPlatform)

def deliver (screenId now : ℤ) (e : CursorEvent) (c : State) : State :=
  match handleCursorUpdate sim p now {c.controller with screenId := screenId} (sent sim e) with
  | none => c
  | some o =>
    { controller := o.controller
      plugin := performs o.effects c.plugin
      pending := c.pending++o.later.toList.map fun k => (screenId,k)
      stopped := false }

def runLater (i : ℕ) (c : State) : State :=
  match c.pending[i]? with
  | none => c
  | some (screenId, k) =>
    { c with
      plugin := performs ((resume p screenId k).getD []) c.plugin
      pending := c.pending.eraseIdx i }

/-- The end of `StreamingSession.stop` for the session that is rendered. -/
def stop (c : State) : State :=
  { c with
    plugin := if c.plugin.cursorlocked && (p.isDeskTop || p.isWeb) then
        performs [.unlockCursor, .removeCursorMoved] {c.plugin with cursorlocked := false}
      else c.plugin
    stopped := true }

def step : Event → State → State
  | .message screenId now e => deliver sim p screenId now e
  | .unlocked i => runLater p i
  | .stop => stop p

end

/-- No session has shown a cursor yet. -/
def start (c : InputController) : State where
  controller := {c with
    isCursorLocked := false, isCursorLockedbySyncMouse := false, autoHideLocalCursor := true}
  plugin := ⟨false,0⟩
  pending := []
  stopped := false

/-- The flags, the registration and the plugin's lock agree. -/
structure Coherent (c : State) : Prop where
  locked : c.controller.isCursorLocked ↔ c.plugin.moved = 1 ∧ c.plugin.cursorlocked
  sync : c.controller.isCursorLockedbySyncMouse → c.controller.isCursorLocked
  stopped : c.stopped → ¬c.controller.isCursorLocked ∧ ¬c.controller.isCursorLockedbySyncMouse ∧
    c.plugin.moved = 0 ∧ ¬c.plugin.cursorlocked

def isVisible : CursorEvent → Bool
  | .visible _ _ _ => true
  | _ => false

/-- A session is stopped while the cursor is free, and no cursor appears while
another screen has the lock. -/
def Calm : Event → State → Prop
  | .message _ _ e, c => isVisible e → ¬c.controller.isCursorLockedbySyncMouse
  | .unlocked _, _ => True
  | .stop, c => ¬c.controller.isCursorLocked

instance : (e : Event) → (c : State) → Decidable (Calm e c)
  | .message _ _ e, c =>
      inferInstanceAs (Decidable (isVisible e → ¬c.controller.isCursorLockedbySyncMouse))
  | .unlocked _, _ => isTrue trivial
  | .stop, c => inferInstanceAs (Decidable ¬c.controller.isCursorLocked)

/-- All that a message can do to the lock, and whether a closure is left to run. -/
inductive Moves (e : CursorEvent) (s : InputController) (o : Change) : Bool → Prop
  | keeps (hl : o.controller.isCursorLocked = s.isCursorLocked)
      (hs : o.controller.isCursorLockedbySyncMouse = s.isCursorLockedbySyncMouse)
      (hw : ∀ w, performs o.effects w = w) : Moves e s o false
  | locks (hl : s.isCursorLocked = false) (hl' : o.controller.isCursorLocked)
      (hw : ∀ w, performs o.effects w = ⟨true,w.moved+1⟩) : Moves e s o false
  | frees (hv : isVisible e) (hl : s.isCursorLocked) (hl' : o.controller.isCursorLocked = false)
      (hs : o.controller.isCursorLockedbySyncMouse = s.isCursorLockedbySyncMouse)
      (hw : ∀ w, performs o.effects w = ⟨false,w.moved⟩) : Moves e s o true
  | returns (hl : s.isCursorLocked) (hl' : o.controller.isCursorLocked = false)
      (hs : o.controller.isCursorLockedbySyncMouse = false)
      (hw : ∀ w, performs o.effects w = ⟨false,w.moved-1⟩) : Moves e s o false

section
variable {p : AppPlatform} (s : InputController)

theorem afterUnlock_moved (position : Option (Coordinate × Coordinate)) (w : Plugin) :
    performs (afterUnlock p position) w = {w with moved := w.moved-1} := by
  cases hd : p.isDeskTop <;> cases hw : p.isWeb <;> cases position <;>
    simp [afterUnlock, performs, perform, hd, hw]

theorem ignored_moves (e : CursorEvent) : Moves e s (ignored s) false := by
  apply Moves.keeps
  · rfl
  · rfl
  · exact fun _ => rfl

theorem hide_moves (info : ℤ) : Moves (.hidden info) s (hide p s) false := by
  cases h : s.isCursorLocked with
  | false =>
    apply Moves.locks h
    · simp [hide, h]
    · intro w
      cases hw : p.isWeb <;> simp [hide, h, hw, performs, perform]
  | true =>
    simp only [hide, h, if_true]
    exact ignored_moves s _

theorem show_moves (screen : ℤ) (x y : Coordinate) (position : Option (Coordinate × Coordinate)) :
    Moves (.visible screen x y) s (startShowing s (afterUnlock p position)).toChange
      (startShowing s (afterUnlock p position)).later.isSome := by
  cases h : s.isCursorLocked with
  | false =>
    simp only [startShowing, h, Bool.false_eq_true, if_false]
    exact ignored_moves s _
  | true =>
    simp only [startShowing, h, if_true]
    apply Moves.frees rfl h
    · rfl
    · rfl
    · exact fun _ => rfl

theorem moveCursor_moves (now screen screen' : ℤ) (x y : Float) (x' y' : Coordinate) :
    Moves (.positionChanged screen x y) s (moveCursor p s now screen' x' y') false := by
  simp only [moveCursor]
  split
  · split
    · cases h : s.isCursorLocked with
      | false => apply Moves.keeps <;> simp [h, performs, perform]
      | true => apply Moves.returns h <;> simp [performs, perform]
    · exact ignored_moves s _
  · split
    · rename_i hmay
      simp only [Bool.and_eq_true, Bool.not_eq_true'] at hmay
      apply Moves.locks hmay.1.1.2 <;> simp [performs, perform]
    · exact ignored_moves s _

theorem react_moves (hs : s.autoHideLocalCursor) (now : ℤ) (e : CursorEvent) :
    Moves e s (reactDesktop p now s (readBack e)).toChange
      (reactDesktop p now s (readBack e)).later.isSome := by
  cases e with
  | cached hash =>
    simp only [readBack, reactDesktop, chooseCached, done]
    apply Moves.keeps
    · rfl
    · rfl
    · intro w
      split <;> rfl
  | shape info =>
    simp only [readBack, reactDesktop, chooseDefault, done]
    split <;> exact Moves.keeps rfl rfl fun _ => rfl
  | hidden info =>
    simp only [readBack, reactDesktop, hs, if_true]
    exact hide_moves s info
  | visible screen x y =>
    simp only [readBack, reactDesktop, hs, if_true]
    exact show_moves s screen x y _
  | positionChanged screen x y => exact moveCursor_moves s now screen _ x y _ _

/-- The closure of a message, stated on the event. -/
theorem react_later {now : ℤ} {e : CursorEvent} {effects : List Effect}
    (h : (reactDesktop p now s e).later = some effects) :
    ∃ position, effects = afterUnlock p position := by
  cases e with
  | visible screen x y =>
    simp only [reactDesktop, startShowing] at h
    split_ifs at h
    · exact ⟨_,(Option.some.inj h).symm⟩
    · cases h
    · cases h
  | _ => cases h

theorem react_settings (now : ℤ) (e : CursorEvent) :
    (reactDesktop p now s e).controller.autoHideLocalCursor = s.autoHideLocalCursor ∧
      (reactDesktop p now s e).controller.screenId = s.screenId := by
  cases e with
  | cached hash => exact ⟨rfl,rfl⟩
  | shape info =>
    simp only [reactDesktop, chooseDefault, done]
    split <;> exact ⟨rfl,rfl⟩
  | hidden info =>
    simp only [reactDesktop, hide, done]
    split_ifs <;> exact ⟨rfl,rfl⟩
  | visible screen x y =>
    simp only [reactDesktop, startShowing, done]
    split_ifs <;> exact ⟨rfl,rfl⟩
  | positionChanged screen x y =>
    simp only [reactDesktop, moveCursor, done]
    split_ifs <;> exact ⟨rfl,rfl⟩

/-- The handler on a message of the host, the closure left to run. -/
theorem handler_moves (sim : HardwareSimulator) (hp : p.isMobile = false)
    (hs : s.autoHideLocalCursor) (now : ℤ) (e : CursorEvent) :
    ∃ o, handleCursorUpdate sim p now s (sent sim e) = some o ∧
      Moves e s o.toChange o.later.isSome ∧ o.controller.autoHideLocalCursor ∧
      ∀ k ∈ o.later, ∃ position, resume p s.screenId k = some (afterUnlock p position) := by
  have h := handler_reads sim p now s e
  have hm := react_moves (p := p) s hs now e
  have hset := react_settings (p := p) s now (readBack e)
  obtain ⟨o, ho, hr⟩ := Option.bind_eq_some_iff.mp h
  simp only [react, hp, Bool.false_eq_true, if_false] at hr
  use o, ho
  cases hk : o.later with
  | none =>
    simp only [settle, hk, Option.some.injEq] at hr
    rw [← hr] at hm hset
    exact ⟨hm,hset.1.trans hs,by simp⟩
  | some k =>
    simp only [settle, hk, Option.map_eq_some_iff] at hr
    obtain ⟨effects, hrun, hr⟩ := hr
    have hlast : (reactDesktop p now s (readBack e)).later = some effects := by rw [← hr]
    have hlater := react_later s hlast
    rw [← hr] at hm hset
    apply And.intro hm
    apply And.intro (hset.1.trans hs)
    intro k' hk'
    obtain ⟨position, rfl⟩ := hlater
    use position
    rw [← Option.some.inj hk', ← hset.2]
    exact hrun

end

/-! The invariant: one registration for the lock and one for each closure. -/

structure Counted (p : AppPlatform) (c : State) : Prop where
  autoHide : c.controller.autoHideLocalCursor
  locked : c.plugin.cursorlocked = c.controller.isCursorLocked
  moved : c.plugin.moved = (if c.controller.isCursorLocked then 1 else 0)+c.pending.length
  sync : c.controller.isCursorLockedbySyncMouse → c.controller.isCursorLocked
  later : ∀ k ∈ c.pending, ∃ position, resume p k.1 k.2 = some (afterUnlock p position)
  stopped : c.stopped → ¬c.controller.isCursorLocked

section
variable {sim : HardwareSimulator} {p : AppPlatform} {c : State}

theorem Counted.coherent (h : Counted p c) (hp : c.pending = []) : Coherent c := by
  have hm := h.moved
  have hl := h.locked
  rw [hp, List.length_nil, Nat.add_zero] at hm
  constructor
  · cases hc : c.controller.isCursorLocked <;> simp [hm, hl, hc]
  · exact h.sync
  · intro hs
    have hc := h.stopped hs
    rw [if_neg hc] at hm
    exact ⟨hc,fun h' => hc (h.sync h'),hm,by rwa [hl]⟩

theorem deliver_counted (hp : p.isMobile = false) (screenId now : ℤ) (e : CursorEvent)
    (hcalm : isVisible e → ¬c.controller.isCursorLockedbySyncMouse) (h : Counted p c) :
    Counted p (deliver sim p screenId now e c) := by
  obtain ⟨o, ho, hm, ha, hk⟩ :=
    handler_moves {c.controller with screenId := screenId} sim hp h.autoHide now e
  have hlater : ∀ k ∈ c.pending++o.later.toList.map fun k => (screenId,k),
      ∃ position, resume p k.1 k.2 = some (afterUnlock p position) := by
    intro k hmem
    rcases List.mem_append.mp hmem with hmem | hmem
    · exact h.later k hmem
    · obtain ⟨k', hk', rfl⟩ := List.mem_map.mp hmem
      exact hk k' (Option.mem_toList.mp hk')
  have hmoved := h.moved
  have hlocked := h.locked
  have hsync := h.sync
  simp only [deliver, ho]
  cases hlast : o.later with
  | none =>
    rw [hlast] at hm hlater
    cases hm with
    | keeps hl hs hw =>
      apply Counted.mk ha
      · simp only [hw, hl, hlocked]
      · simpa [hw, hl] using hmoved
      · simpa only [hs, hl] using hsync
      · exact hlater
      · exact fun h' => nomatch h'
    | locks hl hl' hw =>
      apply Counted.mk ha
      · simp only [hw, hl']
      · have hfree : c.controller.isCursorLocked = false := hl
        simp [hw, hl', hmoved, hfree]
        omega
      · exact fun _ => hl'
      · exact hlater
      · exact fun h' => nomatch h'
    | returns hl hl' hs hw =>
      apply Counted.mk ha
      · simp only [hw, hl']
      · have hheld : c.controller.isCursorLocked = true := hl
        simp [hw, hl', hmoved, hheld]
      · simp [hs]
      · exact hlater
      · exact fun h' => nomatch h'
  | some k =>
    rw [hlast] at hm hlater
    cases hm with
    | frees hv hl hl' hs hw =>
      apply Counted.mk ha
      · simp only [hw, hl']
      · -- the lock's registration is now the closure's
        have hheld : c.controller.isCursorLocked = true := hl
        simp [hw, hl', hmoved, hheld]
        omega
      · intro h'
        rw [hs] at h'
        exact absurd h' (hcalm hv)
      · exact hlater
      · exact fun h' => nomatch h'

theorem runLater_counted (i : ℕ) (h : Counted p c) : Counted p (runLater p i c) := by
  cases hk : c.pending[i]? with
  | none => simpa only [runLater, hk] using h
  | some k =>
    have hi : i < c.pending.length := (List.getElem?_eq_some_iff.mp hk).1
    obtain ⟨position, hrun⟩ := h.later k (List.mem_of_getElem? hk)
    have hmoved := h.moved
    simp only [runLater, hk, hrun, Option.getD_some, afterUnlock_moved]
    constructor
    · exact h.autoHide
    · exact h.locked
    · simp only [List.length_eraseIdx, if_pos hi]
      omega
    · exact h.sync
    · exact fun k' hk' => h.later k' (List.mem_of_mem_eraseIdx hk')
    · exact h.stopped

theorem stop_counted (hcalm : ¬c.controller.isCursorLocked) (h : Counted p c) :
    Counted p (stop p c) := by
  have hfree : c.plugin.cursorlocked = false := by
    rw [h.locked]
    simpa using hcalm
  simp only [stop, hfree, Bool.false_and, Bool.false_eq_true, if_false]
  constructor
  · exact h.autoHide
  · exact h.locked
  · exact h.moved
  · exact h.sync
  · exact h.later
  · exact fun _ => hcalm

theorem start_counted (s : InputController) : Counted p (start s) := by
  apply Counted.mk rfl rfl rfl
  · exact id
  · exact fun _ hk => nomatch hk
  · exact fun hs => nomatch hs

theorem run_counted (hp : p.isMobile = false) (s : InputController) (es : List Event)
    (h : Meets (step sim p) Calm es (start s)) : Counted p (run (step sim p) es (start s)) := by
  have hstep : ∀ e c, Calm e c → Counted p c → Counted p (step sim p e c) := by
    intro e c hcalm hc
    cases e with
    | message screenId now e => exact deliver_counted hp screenId now e hcalm hc
    | unlocked i => exact runLater_counted i hc
    | stop => exact stop_counted hcalm hc
  exact run_invariant (step sim p) hstep es (start s) h (start_counted s)

/-- In every state without a closure to run, the flags, the registration and the
lock agree, and nothing is locked once the session has stopped. -/
theorem lock_coherent_run (sim : HardwareSimulator) (hp : p.isDeskTop) (s : InputController)
    (es : List Event) (h : Meets (step sim p) Calm es (start s))
    (hk : (run (step sim p) es (start s)).pending = []) :
    Coherent (run (step sim p) es (start s)) := by
  have hm : p.isMobile = false := by
    cases p <;> first | rfl | exact absurd hp (by decide)
  exact (run_counted hm s es h).coherent hk

end

def hiddenThenShown : List Event :=
  [.message 0 0 (.hidden 0), .message 0 0 (.visible 0 half half), .unlocked 0, .stop]

theorem shown_coherent :
    Coherent (run (step numbered .windows) hiddenThenShown (start (viewer 0))) :=
  lock_coherent_run numbered rfl (viewer 0) hiddenThenShown (by decide +kernel) (by decide +kernel)

/-- The session is stopped while the host hides the cursor: the flag stays. -/
theorem stopped_locked :
    ¬Coherent (run (step numbered .windows) [.message 0 0 (.hidden 0), .stop]
      (start (viewer 0))) := by
  intro h
  exact absurd (h.stopped rfl).1 (by decide +kernel)

end CloudPlay.CursorLock
