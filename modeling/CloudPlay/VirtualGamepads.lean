import CloudPlay.ControlManager
import CloudPlay.GamepadState
import Mathlib.Data.Finset.Option

/-!
# Virtual controllers of remote pads

The host drives one virtual controller for each pad of a client. The id of a pad
is its place in the list of controllers. A message of a pad whose id is not below
the number of controllers asked for asks for one more and waits for it, and
messages that arrive meanwhile are handled at once. A pad keeps its controller,
but a pad with a large id asks for a controller with each of its messages.
-/

set_option autoImplicit false

namespace CloudPlay.VirtualGamepads
open ControlManager GamepadState TransitionRun

structure GamepadMessage where
  id : String
  event : String

/-- What a call of the plugin ends with. -/
inductive Creation
  | controller | nothing | failure
  deriving DecidableEq

/-- The controllers are numbered as the plugin makes them. -/
structure Host where
  controllerCount : ℕ := 0
  controllers : List ℕ := []
  pending : List (ℤ × String) := []
  created : ℕ := 0
  simulated : List (ℤ × ℕ × String) := []

/-- `int.parse`, which throws what does not fit in 64 bits. -/
def parse (s : String) : Option ℤ := (tryParse s).filter fun n => -2^63 ≤ n ∧ n < 2^63

/-- An index of the list, or a range error. -/
def Host.controllerAt (h : Host) (id : ℤ) : Option ℕ :=
  if 0 ≤ id then h.controllers[id.toNat]? else none

def Host.simulate (h : Host) (id : ℤ) (event : String) : Host :=
  if id < h.controllers.length then
    match h.controllerAt id with
    | some controller => {h with simulated := (id,controller,event)::h.simulated}
    | none => h
  else h

/-- The handler until it ends or waits for the plugin. -/
def handleGamePadEvent (p : Platform) (message : GamepadMessage) (h : Host) : Host :=
  match parse message.id with
  | none => h
  | some id =>
    if p ≠ .windows then h
    else if h.controllerCount ≤ id then
      {h with
        controllerCount := h.controllerCount+1
        pending := h.pending ++ [(id,message.event)]}
    else h.simulate id message.event

def Host.addController (h : Host) : Creation → Host
  | .controller =>
    {h with controllers := h.controllers ++ [h.created], created := h.created+1}
  | _ => h

/-- The rest of the handler when the plugin has ended. -/
def resume (i : ℕ) (result : Creation) (h : Host) : Host :=
  match h.pending[i]? with
  | none => h
  | some (id, event) =>
    let rest := {h with pending := h.pending.eraseIdx i}
    if result = .failure then rest else (rest.addController result).simulate id event

inductive Event
  | message (m : GamepadMessage)
  | ended (i : ℕ) (result : Creation)

/-- A host and the ids of the pads that it has heard of. -/
structure Watched where
  host : Host := {}
  seen : Finset ℤ := ∅

def step (p : Platform) : Event → Watched → Watched
  | .message m, w => ⟨handleGamePadEvent p m w.host,w.seen ∪ (parse m.id).toFinset⟩
  | .ended i result, w => {w with host := resume i result w.host}

def Drives (h : Host) (id : ℤ) (controller : ℕ) : Prop :=
  ∃ event, (id,controller,event) ∈ h.simulated

structure Separate (w : Watched) : Prop where
  exclusive : ∀ i j controller, Drives w.host i controller → Drives w.host j controller → i = j
  stable : ∀ i c d, Drives w.host i c → Drives w.host i d → c = d
  bounded : w.host.created ≤ w.seen.card

/-- A message of this pad asks for one more controller. -/
def Asks (p : Platform) (m : GamepadMessage) (count : ℕ) (id : ℤ) : Prop :=
  p = .windows ∧ parse m.id = some id ∧ count ≤ id

/-- A pad that is known asks for a controller only while fewer have been asked for
than there are pads. -/
def Paced (p : Platform) : Event → Watched → Prop
  | .message m, w => ∀ id, Asks p m w.host.controllerCount id → id ∈ w.seen →
      w.host.controllerCount < w.seen.card
  | .ended _ _, _ => True

/-! A pad drives the controller of its own number. -/

structure Own (h : Host) : Prop where
  controllers : h.controllers = List.range h.created
  simulated : ∀ i c event, (i,c,event) ∈ h.simulated → i = c

section
variable {h : Host} {id : ℤ} {event : String}

theorem simulate_kept (h : Host) (id : ℤ) (event : String) :
    (h.simulate id event).controllerCount = h.controllerCount ∧
      (h.simulate id event).controllers = h.controllers ∧
      (h.simulate id event).pending = h.pending ∧ (h.simulate id event).created = h.created := by
  unfold Host.simulate
  split
  · split <;> exact ⟨rfl,rfl,rfl,rfl⟩
  · exact ⟨rfl,rfl,rfl,rfl⟩

theorem Own.controllerAt (h' : Own h) {controller : ℕ} (hc : h.controllerAt id = some controller) :
    id = controller := by
  unfold Host.controllerAt at hc
  split at hc
  · rw [h'.controllers, List.getElem?_eq_some_iff] at hc
    obtain ⟨hlt, hget⟩ := hc
    rw [List.getElem_range] at hget
    omega
  · cases hc

theorem Own.simulate (h' : Own h) : Own (h.simulate id event) := by
  unfold Host.simulate
  split
  · split
    · rename_i controller hc
      constructor
      · exact h'.controllers
      · intro i c text hmem
        rcases List.mem_cons.mp hmem with heq | hmem
        · cases heq
          exact h'.controllerAt hc
        · exact h'.simulated i c text hmem
    · exact h'
  · exact h'

theorem Own.with_asked (h' : Own h) (count : ℕ) (pending : List (ℤ × String)) :
    Own {h with controllerCount := count, pending := pending} :=
  ⟨h'.controllers,h'.simulated⟩

theorem Own.addController (h' : Own h) (result : Creation) : Own (h.addController result) := by
  cases result with
  | controller =>
    constructor
    · simp only [Host.addController, h'.controllers, List.range_succ]
    · exact h'.simulated
  | nothing => exact h'
  | failure => exact h'

theorem own_step (p : Platform) (e : Event) (w : Watched) (h : Own w.host) :
    Own (step p e w).host := by
  cases e with
  | message m =>
    simp only [step, handleGamePadEvent]
    split
    · exact h
    · split_ifs
      · exact h
      · exact h.with_asked _ _
      · exact h.simulate
  | ended i result =>
    simp only [step, resume]
    split
    · exact h
    · have hrest := h.with_asked w.host.controllerCount (w.host.pending.eraseIdx i)
      split
      · exact hrest
      · exact (hrest.addController result).simulate

theorem Own.separate {w : Watched} (h' : Own w.host) (hb : w.host.created ≤ w.seen.card) :
    Separate w := by
  constructor
  · rintro i j controller ⟨_, hi⟩ ⟨_, hj⟩
    rw [h'.simulated _ _ _ hi, h'.simulated _ _ _ hj]
  · rintro i c d ⟨_, hc⟩ ⟨_, hd⟩
    have hcd := (h'.simulated _ _ _ hc).symm.trans (h'.simulated _ _ _ hd)
    exact Int.ofNat_inj.mp hcd
  · exact hb

end

/-! Controllers that exist or are waited for have been asked for, each for a pad. -/

structure Counted (w : Watched) : Prop where
  asked : w.host.created+w.host.pending.length ≤ w.host.controllerCount
  pads : w.host.controllerCount ≤ w.seen.card

section
variable {p : Platform} {w : Watched}

/-- A message asks for a controller and waits, or asks for none. -/
theorem message_cases (p : Platform) (m : GamepadMessage) (h : Host) :
    (handleGamePadEvent p m h).created = h.created ∧
      ((∃ id, Asks p m h.controllerCount id) ∧
          (handleGamePadEvent p m h).controllerCount = h.controllerCount+1 ∧
          (handleGamePadEvent p m h).pending.length = h.pending.length+1 ∨
        (∀ id, ¬Asks p m h.controllerCount id) ∧
          (handleGamePadEvent p m h).controllerCount = h.controllerCount ∧
          (handleGamePadEvent p m h).pending = h.pending) := by
  unfold handleGamePadEvent
  split
  · rename_i hid
    exact ⟨rfl,Or.inr ⟨fun id ha => by simp [ha.2.1] at hid,rfl,rfl⟩⟩
  · rename_i id hid
    split_ifs with hp hcount
    · exact ⟨rfl,Or.inr ⟨fun _ ha => hp ha.1,rfl,rfl⟩⟩
    · exact ⟨rfl,Or.inl ⟨⟨id,not_not.mp hp,hid,hcount⟩,rfl,List.length_append⟩⟩
    · obtain ⟨hc, -, hw, hm⟩ := simulate_kept h id m.event
      refine ⟨hm,Or.inr ⟨?_,hc,hw⟩⟩
      rintro other ⟨-, hother, hle⟩
      rw [hid] at hother
      exact hcount (by rwa [Option.some.inj hother])

theorem resume_count (i : ℕ) (result : Creation) (h : Host) :
    (resume i result h).controllerCount = h.controllerCount := by
  unfold resume
  split
  · rfl
  · split
    · rfl
    · rw [(simulate_kept _ _ _).1]
      cases result <;> rfl

theorem resume_asked (i : ℕ) (result : Creation) (h : Host) :
    (resume i result h).created+(resume i result h).pending.length ≤
      h.created+h.pending.length := by
  unfold resume
  split
  · exact le_rfl
  · rename_i id event hi
    obtain ⟨hlt, -⟩ := List.getElem?_eq_some_iff.mp hi
    have hlength := List.length_eraseIdx_of_lt hlt
    split
    · simp only [hlength]
      omega
    · obtain ⟨-, -, hw, hm⟩ := simulate_kept
        (Host.addController {h with pending := h.pending.eraseIdx i} result) id event
      rw [hw, hm]
      cases result <;> simp only [Host.addController, hlength] <;> omega

theorem seen_grows (m : GamepadMessage) : w.seen.card ≤ (step p (.message m) w).seen.card :=
  Finset.card_le_card Finset.subset_union_left

theorem seen_new {m : GamepadMessage} {id : ℤ} (hid : parse m.id = some id) (hnew : id ∉ w.seen) :
    (step p (.message m) w).seen.card = w.seen.card+1 := by
  simp only [step, hid, Option.toFinset_some, Finset.union_singleton]
  exact Finset.card_insert_of_notMem hnew

theorem counted_step (e : Event) (w : Watched) (hg : Paced p e w) (h : Counted w) :
    Counted (step p e w) := by
  obtain ⟨hasked, hpads⟩ := h
  cases e with
  | message m =>
    have hseen := seen_grows (p := p) (w := w) m
    obtain ⟨hm, ⟨⟨id, ha⟩, hcount, hwait⟩ | ⟨-, hcount, hwait⟩⟩ := message_cases p m w.host
    · constructor
      · simp only [step, hm, hcount, hwait]
        omega
      · by_cases hnew : id ∈ w.seen
        · have hlt := hg id ha hnew
          simp only [step, hcount] at hseen ⊢
          omega
        · rw [seen_new ha.2.1 hnew]
          simpa only [step, hcount] using Nat.add_le_add_right hpads 1
    · constructor
      · simpa only [step, hm, hcount, hwait] using hasked
      · exact (le_of_eq hcount).trans (hpads.trans hseen)
  | ended i result =>
    constructor
    · simp only [step, resume_count]
      exact (resume_asked i result w.host).trans hasked
    · simpa only [step, resume_count] using hpads

end

/-! What is asked for is decided by the messages alone. -/

def messageOf : Event → Option GamepadMessage
  | .message m => some m
  | .ended _ _ => none

def SameAsked (w v : Watched) : Prop :=
  w.host.controllerCount = v.host.controllerCount ∧ w.seen = v.seen

section
variable {p : Platform} {w v : Watched}

theorem message_sameAsked (m : GamepadMessage) (h : SameAsked w v) :
    SameAsked (step p (.message m) w) (step p (.message m) v) := by
  obtain ⟨hcount, hseen⟩ := h
  constructor
  · have hw := (message_cases p m w.host).2
    have hv := (message_cases p m v.host).2
    rw [hcount] at hw
    simp only [step]
    rcases hw with ⟨⟨id, ha⟩, hw, -⟩ | ⟨hnone, hw, -⟩ <;>
      rcases hv with ⟨⟨id', ha'⟩, hv, -⟩ | ⟨hnone', hv, -⟩
    · rw [hw, hv]
    · exact absurd ha (hnone' id)
    · exact absurd ha' (hnone id')
    · rw [hw, hv]
  · simp only [step, hseen]

theorem paced_sameAsked (m : GamepadMessage) (h : SameAsked w v) :
    Paced p (.message m) w ↔ Paced p (.message m) v := by
  obtain ⟨hcount, hseen⟩ := h
  simp only [Paced, hcount, hseen]

/-- The ends of creations change nothing for the guard. -/
theorem paced_messages (es : List Event) (h : SameAsked w v) :
    Meets (step p) (Paced p) es w ↔
      Meets (step p) (Paced p) ((es.filterMap messageOf).map .message) v := by
  induction es generalizing w v with
  | nil => rfl
  | cons e es ih =>
    cases e with
    | message m =>
      have hnext := message_sameAsked (p := p) m h
      have hm : messageOf (.message m) = some m := rfl
      rw [List.filterMap_cons_some hm, List.map_cons, Meets, Meets, ih hnext,
        paced_sameAsked m h]
    | ended i result =>
      have hnext : SameAsked (step p (.ended i result) w) v :=
        ⟨(resume_count i result w.host).trans h.1,h.2⟩
      have hm : messageOf (.ended i result) = none := rfl
      rw [List.filterMap_cons_none hm, Meets, ih hnext]
      exact iff_of_eq (true_and _)

end

/-! When every creation succeeds at once, the controllers made are those asked
for. -/

def eager (ms : List GamepadMessage) : List Event :=
  ms.flatMap fun m => [.message m, .ended 0 .controller]

theorem eager_messages (ms : List GamepadMessage) : (eager ms).filterMap messageOf = ms := by
  induction ms with
  | nil => rfl
  | cons m ms ih =>
    rw [eager, List.flatMap_cons, List.filterMap_append]
    exact congrArg (m :: ·) ih

section
variable {p : Platform} {w : Watched}

def Idle (w : Watched) : Prop :=
  w.host.pending = [] ∧ w.host.created = w.host.controllerCount

theorem resume_only (h : Host) {id : ℤ} {event : String} (hp : h.pending = [(id,event)]) :
    (resume 0 .controller h).pending = [] ∧
      (resume 0 .controller h).created = h.created+1 := by
  obtain ⟨-, -, hw, hm⟩ := simulate_kept
    (Host.addController {h with pending := h.pending.eraseIdx 0} .controller) id event
  simp only [resume, hp, List.getElem?_cons_zero, reduceCtorEq, if_false]
  simp only [hp] at hw hm
  exact ⟨hw,hm⟩

theorem idle_pair (m : GamepadMessage) (h : Idle w) :
    Idle (run (step p) [.message m, .ended 0 .controller] w) := by
  obtain ⟨hnone, hcreated⟩ := h
  simp only [run, step, Idle, resume_count]
  obtain ⟨hm, ⟨-, hcount, hwait⟩ | ⟨-, hcount, hwait⟩⟩ := message_cases p m w.host
  · rw [hnone, List.length_nil] at hwait
    obtain ⟨⟨id, event⟩, hone⟩ := List.length_eq_one_iff.mp hwait
    obtain ⟨hw, hc⟩ := resume_only _ hone
    exact ⟨hw,by rw [hc, hm, hcount, hcreated]⟩
  · rw [hnone] at hwait
    simp only [resume, hwait, List.getElem?_nil]
    exact ⟨trivial,by rw [hm, hcount, hcreated]⟩

theorem eager_paced (ms : List GamepadMessage) (w : Watched) (h : Idle w)
    (hb : ∀ before after, eager ms = before ++ after →
      (run (step p) before w).host.created ≤ (run (step p) before w).seen.card) :
    Meets (step p) (Paced p) (eager ms) w := by
  induction ms generalizing w with
  | nil => trivial
  | cons m ms ih =>
    have hnext := idle_pair (p := p) m h
    have hbound := hb [.message m, .ended 0 .controller] (eager ms) rfl
    refine ⟨?_,trivial,ih _ hnext ?_⟩
    · intro id ha hknown
      rw [hnext.2] at hbound
      simp only [run, step, resume_count, ha.2.1, Option.toFinset_some,
        Finset.union_singleton, Finset.insert_eq_self.mpr hknown] at hbound
      obtain ⟨-, ⟨-, hcount, -⟩ | ⟨hnone, -⟩⟩ := message_cases p m w.host
      · omega
      · exact absurd ha (hnone id)
    · intro before after heager
      have hcons : eager (m::ms) = [Event.message m, .ended 0 .controller] ++ eager ms := rfl
      exact hb ([Event.message m, .ended 0 .controller] ++ before) after
        (by rw [hcons, heager, List.append_assoc])

end

/-- Whatever the creations end with and whenever they end, every pad keeps a
controller of its own and there are no more controllers than pads, exactly when the
messages ask for them in pace. -/
theorem controllers_separate (p : Platform) (ms : List GamepadMessage) :
    (∀ es : List Event, es.filterMap messageOf = ms →
      ∀ before after, es = before ++ after → Separate (run (step p) before {})) ↔
      Meets (step p) (Paced p) (ms.map .message) {} := by
  constructor
  · intro h
    have hall := h (eager ms) (eager_messages ms)
    have hidle : Idle {} := ⟨rfl,rfl⟩
    have hpaced := eager_paced (p := p) ms {} hidle fun before after heager =>
      (hall before after heager).bounded
    rwa [paced_messages (v := {}) _ ⟨rfl,rfl⟩, eager_messages] at hpaced
  · rintro h es rfl before after rfl
    have hpaced := (paced_messages (w := {}) (v := {}) _ ⟨rfl,rfl⟩).mpr h
    have hbefore := meets_of_append _ _ _ _ _ hpaced
    have hcounted : Counted (run (step p) before {}) :=
      run_invariant _ counted_step _ _ hbefore ⟨le_rfl,le_rfl⟩
    have hown : Own (run (step p) before {}).host :=
      reachable_invariant _ (own_step p) ⟨rfl,by simp⟩ ⟨before,rfl⟩
    apply hown.separate
    have hasked := hcounted.asked
    have hpads := hcounted.pads
    omega

/-- A client that moves its second pad first: two messages of one pad make two
controllers. -/
theorem two_controllers_for_one_pad : ¬Separate (run (step .windows)
    [.message ⟨"1",""⟩, .ended 0 .controller, .message ⟨"1",""⟩, .ended 0 .controller] {}) := by
  intro h
  exact absurd h.bounded (by decide +kernel)

end CloudPlay.VirtualGamepads
