import CloudPlay.WasdJoystick

/-!
# Keys of the joystick that are let go

Every key the joystick holds belongs to a direction it remembers or to a
threshold key whose flag is set, so a stick that is let go leaves no key down.
When the key codes are distinct the directions it remembers are also the ones
whose keys are held.
-/

set_option autoImplicit false

namespace CloudPlay.JoystickKeys
open PressLog TransitionRun WasdJoystick WasdJoystick.WASDJoystickController

/-- The calls that let go of the stick. -/
def Releases (c : Config) : Call → WASDJoystickController → Prop
  | .updatePosition _ _ _, _ => False
  | .reset, s => ¬s.latched c
  | .forceReset, _ => True
  | .dispose, _ => True

def Distinct (c : Config) : Prop :=
  (c.keyMapping.map Prod.snd ++ (c.sneakKeyCode.toList ++ c.sprintKeyCode.toList)).Nodup

instance (c : Config) : Decidable (Distinct c) := inferInstanceAs (Decidable (List.Nodup _))

structure Kept (c : Config) (call : Call) (s : WASDJoystickController) : Prop where
  released : Releases c call s → ∀ key, Released key (step c call s).sent
  pointed : Distinct c → ∀ offset radius touchPosition,
    call = .updatePosition offset radius touchPosition →
    ∀ direction key, c.keyMapping.lookup direction = some key →
      (held key (step c call s).sent = true ↔ direction ∈ directionsFromOffset offset radius)

/-- The keys of some directions. -/
def keysOf (c : Config) (directions : List String) : List ℤ :=
  directions.filterMap fun direction => c.keyMapping.lookup direction

/-- A key that is held belongs to a direction or to a threshold key that is down. -/
def Accounted (c : Config) (s : WASDJoystickController) : Prop :=
  ∀ key, held key s.sent = true → key ∈ keysOf c s.pressedDirections ∨
    c.sneakKeyCode = some key ∧ s.isSneakPressed = true ∨
    c.sprintKeyCode = some key ∧ s.isSprintPressed = true

/-- The keys held are those of the remembered directions. -/
def Pointed (c : Config) (s : WASDJoystickController) : Prop :=
  ∀ direction key, c.keyMapping.lookup direction = some key →
    (held key s.sent = true ↔ direction ∈ s.pressedDirections)

section
variable {c : Config} {s : WASDJoystickController}

theorem mem_keysOf {directions : List String} {key : ℤ} :
    key ∈ keysOf c directions ↔
      ∃ direction ∈ directions, c.keyMapping.lookup direction = some key := List.mem_filterMap

/-! What the parts of a call send. -/

theorem sendDirections_eq (isDown : Bool) (directions : List String)
    (s : WASDJoystickController) : sendDirections c isDown directions s =
      {s with sent := s.sent ++ (keysOf c directions).map fun key => (key,isDown)} := by
  induction directions generalizing s with
  | nil => simp [sendDirections, keysOf]
  | cons direction directions ih =>
    have hcons : sendDirections c isDown (direction::directions) s =
        sendDirections c isDown directions (sendDirection c isDown s direction) := rfl
    rw [hcons, ih]
    cases hk : c.keyMapping.lookup direction <;> simp [sendDirection, keysOf, onEvent, hk]

theorem tapAgain_eq (directions : List String) (direction : String)
    (s : WASDJoystickController) : ∃ taps : List ℤ, (∀ key ∈ taps, key ∈ keysOf c directions) ∧
      tapAgain c directions direction s =
        {s with
          sent := s.sent ++ taps.map fun key => (key,false)
          microtasks := s.microtasks ++ taps.map fun key => (key,true)} := by
  unfold tapAgain
  split
  · rename_i key hkey
    split
    · rename_i hd
      have hmem : key ∈ keysOf c directions := mem_keysOf.mpr ⟨direction,hd,hkey⟩
      exact ⟨[key],by simpa using hmem,rfl⟩
    · exact ⟨[],by simp,by simp⟩
  · exact ⟨[],by simp,by simp⟩

/-- The arcade mode lets go of keys it is about to press again. -/
theorem handleArcadeMode_eq (directions : List String) (s : WASDJoystickController) :
    ∃ (taps : List ℤ) (triggered : Bool), (∀ key ∈ taps, key ∈ keysOf c directions) ∧
      handleArcadeMode c directions s =
        {s with
          arcadeTriggered := triggered
          sent := s.sent ++ taps.map fun key => (key,false)
          microtasks := s.microtasks ++ taps.map fun key => (key,true)} := by
  simp only [handleArcadeMode]
  split
  · obtain ⟨left, hleft, heq⟩ := tapAgain_eq (c := c) directions "left"
      {s with arcadeTriggered := true}
    obtain ⟨right, hright, heq'⟩ := tapAgain_eq (c := c) directions "right"
      (tapAgain c directions "left" {s with arcadeTriggered := true})
    refine ⟨left ++ right,true,?_,?_⟩
    · intro key hkey
      rcases List.mem_append.mp hkey with hkey | hkey
      · exact hleft key hkey
      · exact hright key hkey
    · rw [heq', heq]
      simp
  · split
    · exact ⟨[],false,by simp,by simp⟩
    · exact ⟨[],s.arcadeTriggered,by simp,by simp⟩

theorem held_moveKey (log : List (ℤ × Bool)) (keyCode : Option ℤ) (pressed shouldPress : Bool)
    (key : ℤ) : held key (log ++ (moveKey keyCode pressed shouldPress).2) =
      if keyCode = some key ∧ shouldPress ≠ pressed then shouldPress else held key log := by
  unfold moveKey
  split
  · rename_i code
    split
    · rename_i hmoves
      simp only [held_concat, touch, Option.some.injEq, hmoves, ne_eq, not_false_eq_true, and_true]
    · rename_i hsame
      rw [if_neg (fun h => hsame h.2), List.append_nil]
  · simp

theorem moveKey_flag {keyCode : Option ℤ} {key : ℤ} (pressed shouldPress : Bool)
    (h : keyCode = some key) : (moveKey keyCode pressed shouldPress).1 = shouldPress := by
  subst h
  unfold moveKey
  dsimp only
  split
  · rfl
  · rename_i hsame
    exact (not_not.mp hsame).symm

theorem held_moveKeys (sneak sprint : Bool) (s : WASDJoystickController) (key : ℤ) :
    held key (moveKeys c sneak sprint s).sent =
      if c.sprintKeyCode = some key ∧ sprint ≠ s.isSprintPressed then sprint
      else if c.sneakKeyCode = some key ∧ sneak ≠ s.isSneakPressed then sneak
      else held key s.sent := by
  rw [moveKeys, held_moveKey, held_moveKey]

theorem moveKeys_accounted (sneak sprint : Bool) (h : Accounted c s) :
    Accounted c (moveKeys c sneak sprint s) := by
  intro key hkey
  rw [held_moveKeys] at hkey
  split at hkey
  · rename_i hmoved
    exact Or.inr (Or.inr ⟨hmoved.1,(moveKey_flag _ _ hmoved.1).trans hkey⟩)
  · rename_i hsprint
    split at hkey
    · rename_i hmoved
      exact Or.inr (Or.inl ⟨hmoved.1,(moveKey_flag _ _ hmoved.1).trans hkey⟩)
    · rename_i hsneak
      -- neither key was moved here, so a flag that was set stays set
      rcases h key hkey with hdirection | ⟨hcode, hflag⟩ | ⟨hcode, hflag⟩
      · exact Or.inl hdirection
      · have hsame : sneak = s.isSneakPressed := not_not.mp fun hne => hsneak ⟨hcode,hne⟩
        exact Or.inr (Or.inl ⟨hcode,by rw [moveKeys, moveKey_flag _ _ hcode, hsame, hflag]⟩)
      · have hsame : sprint = s.isSprintPressed := not_not.mp fun hne => hsprint ⟨hcode,hne⟩
        exact Or.inr (Or.inr ⟨hcode,by rw [moveKeys, moveKey_flag _ _ hcode, hsame, hflag]⟩)

theorem releaseAllKeys_accounted (h : Accounted c s) : Accounted c (releaseAllKeys c s) := by
  intro key hkey
  rw [releaseAllKeys, sendDirections_eq] at hkey ⊢
  rw [held_releases, Bool.and_eq_true, decide_eq_true_eq] at hkey
  rcases h key hkey.1 with hdirection | hthreshold
  · exact absurd hdirection hkey.2
  · exact Or.inr hthreshold

/-- With no direction left and both threshold keys let go nothing is held. -/
theorem let_go (h : Accounted c s) (key : ℤ) :
    held key (releaseSneakSprintKeys c (releaseAllKeys c s)).sent = false := by
  have hreleased := moveKeys_accounted false false (releaseAllKeys_accounted h)
  rw [← Bool.not_eq_true]
  intro hkey
  rcases hreleased key hkey with hdirection | ⟨hcode, hflag⟩ | ⟨hcode, hflag⟩
  · simp [moveKeys, releaseAllKeys, keysOf] at hdirection
  · rw [moveKeys, moveKey_flag _ _ hcode] at hflag
    cases hflag
  · rw [moveKeys, moveKey_flag _ _ hcode] at hflag
    cases hflag

/-! Moving the stick: the keys that were tapped are pressed again last. -/

/-- The threshold keys are moved before the directions. -/
def moved (c : Config) (radius : Float) (touchPosition : Offset) (s : WASDJoystickController) :
    WASDJoystickController :=
  updateSneakSprintKeys c (touchPosition.distance/radius) (pull c touchPosition.distance radius s)

theorem update_spec (offset : Offset) (radius : Float) (touchPosition : Offset)
    (hm : s.microtasks = []) :
    let now := moved c radius touchPosition s
    let next := step c (.updatePosition offset radius touchPosition) s
    let directions := directionsFromOffset offset radius
    ∃ taps : List ℤ, (∀ key ∈ taps, key ∈ keysOf c directions) ∧ next.pressedDirections = directions ∧
      next.isSneakPressed = now.isSneakPressed ∧ next.isSprintPressed = now.isSprintPressed ∧
      next.microtasks = [] ∧
      ∀ key, held key next.sent = true ↔ key ∈ taps ∨
        key ∈ keysOf c (directions.filter (· ∉ now.pressedDirections)) ∨
        held key now.sent = true ∧ key ∉ taps ∧
          key ∉ keysOf c (now.pressedDirections.filter (· ∉ directions)) := by
  intro now next directions
  have hnow : now.microtasks = [] := by
    simp only [now, moved, updateSneakSprintKeys, moveKeys, pull]
    split <;> exact hm
  have htaps : ∃ (taps : List ℤ) (triggered : Bool), (∀ key ∈ taps, key ∈ keysOf c directions) ∧
      next = runMicrotasks (updatePressedKeys c directions
        {now with
          arcadeTriggered := triggered
          sent := now.sent ++ taps.map fun key => (key,false)
          microtasks := now.microtasks ++ taps.map fun key => (key,true)}) := by
    simp only [next, step, perform, updatePosition]
    split
    · obtain ⟨taps, triggered, htaps, heq⟩ := handleArcadeMode_eq (c := c) directions now
      exact ⟨taps,triggered,htaps,by rw [← heq]; rfl⟩
    · exact ⟨[],now.arcadeTriggered,by simp,by simp [now, moved, directions]⟩
  obtain ⟨taps, triggered, hmem, heq⟩ := htaps
  simp only [updatePressedKeys, sendDirections_eq, runMicrotasks, hnow, List.nil_append] at heq
  refine ⟨taps,hmem,?_⟩
  rw [heq]
  refine ⟨rfl,rfl,rfl,rfl,fun key => ?_⟩
  simp only [held_presses, held_releases, Bool.or_eq_true, Bool.and_eq_true, decide_eq_true_eq]
  tauto

theorem pull_accounted (distance radius : Float) (h : Accounted c s) :
    Accounted c (pull c distance radius s) := by
  unfold pull
  split <;> exact h

theorem update_accounted (offset : Offset) (radius : Float) (touchPosition : Offset)
    (hm : s.microtasks = []) (h : Accounted c s) :
    Accounted c (step c (.updatePosition offset radius touchPosition) s) := by
  have hnow : Accounted c (moved c radius touchPosition s) :=
    moveKeys_accounted _ _ (pull_accounted _ _ h)
  obtain ⟨taps, htaps, hdirections, hsneak, hsprint, -, hheld⟩ :=
    update_spec (c := c) offset radius touchPosition hm
  intro key hkey
  rw [hdirections, hsneak, hsprint]
  rcases (hheld key).mp hkey with htap | hpress | ⟨hold, -, hkept⟩
  · exact Or.inl (htaps key htap)
  · obtain ⟨direction, hd, hcode⟩ := mem_keysOf.mp hpress
    exact Or.inl (mem_keysOf.mpr ⟨direction,List.mem_of_mem_filter hd,hcode⟩)
  · rcases hnow key hold with hdirection | hthreshold
    · -- a remembered direction that is not let go is still pointed to
      obtain ⟨direction, hd, hcode⟩ := mem_keysOf.mp hdirection
      by_cases hstill : direction ∈ directionsFromOffset offset radius
      · exact Or.inl (mem_keysOf.mpr ⟨direction,hstill,hcode⟩)
      · exact absurd (mem_keysOf.mpr ⟨direction,by simpa using ⟨hd,hstill⟩,hcode⟩) hkept
    · exact Or.inr hthreshold

/-! Distinct codes: a key belongs to one direction, and to no threshold key. -/

theorem Distinct.direction_unique (h : Distinct c) {direction other : String} {key : ℤ}
    (hd : c.keyMapping.lookup direction = some key)
    (ho : c.keyMapping.lookup other = some key) : direction = other := by
  obtain ⟨_, _, hmem, -⟩ := List.lookup_eq_some_iff.mp hd
  obtain ⟨_, _, hmem', -⟩ := List.lookup_eq_some_iff.mp ho
  have hin : (direction,key) ∈ c.keyMapping := by rw [hmem]; simp
  have hin' : (other,key) ∈ c.keyMapping := by rw [hmem']; simp
  exact congrArg Prod.fst (List.inj_on_of_nodup_map (List.Nodup.of_append_left h) hin hin' rfl)

theorem Distinct.not_threshold (h : Distinct c) {direction : String} {key : ℤ}
    (hd : c.keyMapping.lookup direction = some key) :
    c.sneakKeyCode ≠ some key ∧ c.sprintKeyCode ≠ some key := by
  obtain ⟨_, _, hmem, -⟩ := List.lookup_eq_some_iff.mp hd
  have hin : key ∈ c.keyMapping.map Prod.snd := by rw [hmem]; simp
  have hout := List.disjoint_of_nodup_append h hin
  constructor <;> intro hcode <;> simp [hcode] at hout

theorem Distinct.mem_keysOf_iff (h : Distinct c) {directions : List String}
    {direction : String} {key : ℤ} (hd : c.keyMapping.lookup direction = some key) :
    key ∈ keysOf c directions ↔ direction ∈ directions := by
  rw [mem_keysOf]
  constructor
  · rintro ⟨other, ho, hcode⟩
    rwa [h.direction_unique hd hcode]
  · intro hmem
    exact ⟨direction,hmem,hd⟩

theorem moved_pointed (hc : Distinct c) (radius : Float) (touchPosition : Offset)
    (h : Pointed c s) : Pointed c (moved c radius touchPosition s) := by
  intro direction key hd
  obtain ⟨hsneak, hsprint⟩ := hc.not_threshold hd
  have hpull : (pull c touchPosition.distance radius s).sent = s.sent ∧
      (pull c touchPosition.distance radius s).pressedDirections = s.pressedDirections := by
    unfold pull
    split <;> exact ⟨rfl,rfl⟩
  rw [moved, updateSneakSprintKeys, held_moveKeys, if_neg (fun hk => hsprint hk.1),
    if_neg (fun hk => hsneak hk.1), hpull.1, moveKeys, hpull.2]
  exact h direction key hd

theorem update_pointed (hc : Distinct c) (offset : Offset) (radius : Float)
    (touchPosition : Offset) (hm : s.microtasks = []) (h : Pointed c s) :
    Pointed c (step c (.updatePosition offset radius touchPosition) s) := by
  have hnow := moved_pointed hc radius touchPosition h
  obtain ⟨taps, htaps, hdirections, -, -, -, hheld⟩ :=
    update_spec (c := c) offset radius touchPosition hm
  intro direction key hd
  have htap := htaps key
  rw [hc.mem_keysOf_iff hd] at htap
  rw [hheld, hdirections, hc.mem_keysOf_iff hd, hc.mem_keysOf_iff hd, hnow direction key hd]
  simp only [List.mem_filter, decide_eq_true_eq]
  tauto

theorem released_pointed (hc : Distinct c) (h : Pointed c s) :
    Pointed c (releaseSneakSprintKeys c (releaseAllKeys c s)) := by
  intro direction key hd
  obtain ⟨hsneak, hsprint⟩ := hc.not_threshold hd
  rw [releaseSneakSprintKeys, held_moveKeys, if_neg (fun hk => hsprint hk.1),
    if_neg (fun hk => hsneak hk.1), releaseAllKeys, sendDirections_eq, held_releases]
  simp [moveKeys, hc.mem_keysOf_iff hd, h direction key hd]

end

/-- What holds between calls. -/
structure Settled (c : Config) (s : WASDJoystickController) : Prop where
  idle : s.microtasks = []
  accounted : Accounted c s
  pointed : Distinct c → Pointed c s

section
variable {c : Config} {s : WASDJoystickController}

theorem letGo_idle (h : s.microtasks = []) :
    (releaseSneakSprintKeys c (releaseAllKeys c s)).microtasks = [] := by
  simpa [releaseSneakSprintKeys, moveKeys, releaseAllKeys, sendDirections_eq] using h

/-- Letting go of everything, whatever becomes of the latch and of the arcade mode. -/
theorem Settled.letGo (h : Settled c s) :
    Settled c (releaseSneakSprintKeys c (releaseAllKeys c s)) :=
  ⟨letGo_idle h.idle,moveKeys_accounted _ _ (releaseAllKeys_accounted h.accounted),
    fun hc => released_pointed hc (h.pointed hc)⟩

theorem Settled.with_flags (h : Settled c s) (latch triggered : Bool) :
    Settled c {s with isLongPulled := latch, arcadeTriggered := triggered} :=
  ⟨h.idle,h.accounted,h.pointed⟩

theorem runMicrotasks_idle (h : s.microtasks = []) : s.runMicrotasks = s := by
  rw [runMicrotasks, h, List.append_nil, ← h]

theorem perform_settled (call : Call) (h : Settled c s)
    (hcall : call.moves = false) : Settled c (perform c call s) := by
  cases call with
  | updatePosition offset radius touchPosition => cases hcall
  | reset =>
    simp only [perform, WASDJoystickController.reset]
    split
    · exact h
    · exact h.letGo.with_flags _ _
  | forceReset => exact (h.with_flags false s.arcadeTriggered).letGo.with_flags _ _
  | dispose => exact h.letGo

theorem still_settled (call : Call) (h : Settled c s) (hcall : call.moves = false) :
    Settled c (step c call s) := by
  have hnext := perform_settled call h hcall
  rw [step, runMicrotasks_idle hnext.idle]
  exact hnext

theorem settled_step (call : Call) (h : Settled c s) : Settled c (step c call s) := by
  cases call with
  | updatePosition offset radius touchPosition =>
    obtain ⟨_, -, -, -, -, hidle, -⟩ := update_spec (c := c) offset radius touchPosition h.idle
    exact ⟨hidle,update_accounted _ _ _ h.idle h.accounted,
      fun hc => update_pointed hc _ _ _ h.idle (h.pointed hc)⟩
  | reset => exact still_settled .reset h rfl
  | forceReset => exact still_settled .forceReset h rfl
  | dispose => exact still_settled .dispose h rfl

theorem perform_released (call : Call) (h : Settled c s) (hr : Releases c call s) (key : ℤ) :
    held key (perform c call s).sent = false := by
  cases call with
  | updatePosition offset radius touchPosition => exact hr.elim
  | reset =>
    simp only [perform, WASDJoystickController.reset]
    rw [if_neg hr]
    exact let_go h.accounted key
  | forceReset => exact let_go (h.with_flags false s.arcadeTriggered).accounted key
  | dispose => exact let_go h.accounted key

theorem kept_of_settled (call : Call) (h : Settled c s) : Kept c call s := by
  constructor
  · intro hr key
    have hnot : call.moves = false := by
      cases call <;> first | exact hr.elim | rfl
    rw [step, runMicrotasks_idle (perform_settled call h hnot).idle, released_iff]
    exact perform_released call h hr key
  · rintro hc offset radius touchPosition rfl direction key hd
    obtain ⟨_, -, hdirections, -⟩ := update_spec (c := c) offset radius touchPosition h.idle
    rw [← hdirections]
    exact (settled_step _ h).pointed hc direction key hd

end

/-- No call that lets go of the stick leaves a key down, and with distinct codes the
direction keys held are those the stick points to. -/
theorem joystick_keys (c : Config) (calls : List Call) : Meets (step c) (Kept c) calls {} := by
  have hi : Settled c {} := by
    constructor
    · rfl
    · intro key hkey
      cases hkey
    · intro _ direction key _
      simp [held]
  have hstep : ∀ call s, Settled c s → Settled c (step c call s) := fun call _ h =>
    settled_step call h
  exact meets_of_preserved _ hstep (fun call _ h => kept_of_settled call h) calls {} hi

end CloudPlay.JoystickKeys
