import CloudPlay.GamepadAnalogs
import CloudPlay.GamepadTexts
import CloudPlay.VirtualGamepads

/-!
# Reports from the pads of a client to the controllers of the host

A client sends the whole state of a pad when it changes, as long as a session is being
rendered. The reports arrive in order, and the host drives the controller of the pad with
each, or waits with it for a controller that it asks for. A report that arrives before its
controller exists and does not ask for one is dropped.
-/

set_option autoImplicit false

namespace CloudPlay.GamepadReports
open TransitionRun GamepadState VirtualGamepads GamepadTexts

/-- What `CGamepadController` knows of the pads. -/
structure Client where
  platform : Platform
  gamepads : List String := []
  ignoreFirst : Bool := false

/-- The place of the last gamepad with this id. -/
def Client.realId (c : Client) (gamepadId : String) : ℕ :=
  c.gamepads.zipIdx.foldl (fun realId pad =>
    if pad.1 = gamepadId then
      if c.ignoreFirst ∧ 0 < pad.2 then pad.2-1 else pad.2
    else realId) 0

def Client.reportId (c : Client) (gamepadId : String) : String :=
  if c.platform = .android ∨ c.platform = .windows then toString (c.realId gamepadId)
  else gamepadId

/-- The reports sent for the pads and those on the way, the oldest first. -/
structure System where
  gamepadstates : String → CGamepadState := fun _ => {}
  rendering : Bool := false
  sent : List (String × String) := []
  wire : List GamepadMessage := []
  host : Host := {}

inductive Event
  | gamepad (gamepadId : String) (event : GamepadEvent)
  | rendering (current : Bool)
  | deliver
  | ended (i : ℕ) (result : Creation)

def report (c : Client) (sent : String × String) : GamepadMessage := ⟨c.reportId sent.1,sent.2⟩

def System.setState (gamepadId : String) (state : CGamepadState) (s : System) : System :=
  {s with gamepadstates := Function.update s.gamepadstates gamepadId state}

def System.onEvent (c : Client) (gamepadId : String) (event : GamepadEvent) (s : System) :
    System :=
  let updated := (s.gamepadstates gamepadId).update c.platform event
  let moved := s.setState gamepadId updated.1
  if updated.2 ∧ s.rendering then
    { moved with
      sent := s.sent ++ [(gamepadId,updated.1.getStateString)]
      wire := s.wire ++ [report c (gamepadId,updated.1.getStateString)] }
  else moved

/-- A client and a host that runs on some platform. -/
def step (c : Client) (p : Platform) : Event → System → System
  | .gamepad gamepadId event, s => s.onEvent c gamepadId event
  | .rendering current, s => {s with rendering := current}
  | .deliver, s =>
    match s.wire with
    | [] => s
    | m::rest => {s with wire := rest, host := handleGamePadEvent p m s.host}
  | .ended i result, s => {s with host := resume i result s.host}

/-! The last report of a pad tells its state. -/

/-- A pad that has not been reported is at rest. -/
def System.lastReport (s : System) (gamepadId : String) : String :=
  ((s.sent.filter fun sent => sent.1 = gamepadId).map Prod.snd).getLastD
    ({} : CGamepadState).getStateString

def Current (s : System) : Prop :=
  ∀ gamepadId, s.lastReport gamepadId = (s.gamepadstates gamepadId).getStateString

/-- A pad that moves is rendered. -/
def Rendered (c : Client) : Event → System → Prop
  | .gamepad gamepadId event, s =>
    s.rendering = true ∨
      ((s.gamepadstates gamepadId).update c.platform event).1 = s.gamepadstates gamepadId
  | _, _ => True

section Client
variable {c : Client} {p : Platform} {s : System} {gamepadId : String} {event : GamepadEvent}

theorem current_same {s' : System} (hs : s'.sent = s.sent)
    (hg : s'.gamepadstates = s.gamepadstates) : Current s' ↔ Current s := by
  simp only [Current, System.lastReport, hs, hg]

theorem unreported_current_iff (h : Current s) (state : CGamepadState) :
    Current (s.setState gamepadId state) ↔ state = s.gamepadstates gamepadId := by
  constructor
  · intro hnext
    have hpad := hnext gamepadId
    simp only [System.setState, Function.update_self] at hpad
    exact getStateString_injective (hpad.symm.trans (h gamepadId))
  · rintro rfl
    rwa [System.setState, Function.update_eq_self]

theorem reported_current (h : Current s) (hr : s.rendering = true)
    (hu : ((s.gamepadstates gamepadId).update c.platform event).2 = true) :
    Current (s.onEvent c gamepadId event) := by
  intro other
  simp only [System.onEvent, hu, hr, and_self, if_true]
  by_cases ho : other = gamepadId
  · subst ho
    simp [System.lastReport, System.setState]
  · have hkept := h other
    simpa [System.lastReport, System.setState, Function.update_of_ne ho, Ne.symm ho] using hkept

theorem current_step_iff (e : Event) (s : System) (h : Current s) :
    Current (step c p e s) ↔ Rendered c e s := by
  cases e with
  | gamepad gamepadId event =>
    rw [step, Rendered]
    by_cases hr : s.rendering = true
    · cases hu : ((s.gamepadstates gamepadId).update c.platform event).2 with
      | false =>
        apply iff_of_true _ (Or.inl hr)
        simp only [System.onEvent, hu, Bool.false_eq_true, false_and, if_false]
        exact (unreported_current_iff h _).mpr (GamepadAnalogs.update_kept hu)
      | true => exact iff_of_true (reported_current h hr hu) (Or.inl hr)
    · have hmoved : s.onEvent c gamepadId event =
          s.setState gamepadId ((s.gamepadstates gamepadId).update c.platform event).1 :=
        if_neg fun hsent => hr hsent.2
      rw [hmoved, unreported_current_iff h, or_iff_right hr]
  | rendering current => exact iff_of_true h trivial
  | deliver =>
    apply iff_of_true _ trivial
    simp only [step]
    split
    · exact h
    · exact (current_same rfl rfl).mpr h
  | ended i result => exact iff_of_true ((current_same rfl rfl).mpr h) trivial

end Client

/-- The last report of each pad is the text of its state and of no other, whenever in a run
that may be, exactly when no pad moves while no session is rendered. -/
theorem reports_tell_iff (c : Client) (p : Platform) (es : List Event) :
    (∀ before after, es = before ++ after → ∀ gamepadId state,
      state.getStateString = (run (step c p) before {}).lastReport gamepadId ↔
        state = (run (step c p) before {}).gamepadstates gamepadId) ↔
      Meets (step c p) (Rendered c) es {} := by
  have htell (s : System) : (∀ gamepadId state, state.getStateString = s.lastReport gamepadId ↔
      state = s.gamepadstates gamepadId) ↔ Current s := by
    constructor
    · intro h gamepadId
      exact ((h gamepadId _).mpr rfl).symm
    · intro h gamepadId state
      rw [h gamepadId]
      exact ⟨getStateString_injective,fun heq => by rw [heq]⟩
  simp only [htell]
  exact always_iff_meets (step c p) current_step_iff es {} fun _ => rfl

/-! What a report finds at the host. -/

def texts (n : ℤ) (ms : List GamepadMessage) : List String :=
  ms.filterMap fun m => if parse m.id = some n then some m.event else none

/-- The texts that a controller has been driven with. -/
def shown (n : ℤ) (h : Host) : List String :=
  (h.simulated.filterMap fun q => if q.1 = n then some q.2.2 else none).reverse

def waitingIn (n : ℤ) (pending : List (ℤ × String)) : List String :=
  pending.filterMap fun q => if q.1 = n then some q.2 else none

def waiting (n : ℤ) (h : Host) : List String := waitingIn n h.pending

/-- Every report of every pad has been shown, waits for its controller or is on the way,
each once and in the order they were sent in. -/
def Lossless (c : Client) (s : System) : Prop :=
  ∀ n, shown n s.host ++ waiting n s.host ++ texts n s.wire = texts n (s.sent.map (report c))

/-- The host can show the report, and no other of the pad waits. -/
def Host.Shows (h : Host) (n : ℤ) (event : String) (earlier : List String) : Prop :=
  0 ≤ n ∧ n < h.controllers.length ∧ ∀ text ∈ earlier, text = event

def Prompt (p : Platform) : Event → System → Prop
  | .deliver, s => ∀ m ∈ s.wire.head?, ∀ n, parse m.id = some n →
      p = .windows ∧ (s.host.controllerCount ≤ n ∨
        Host.Shows s.host n m.event (waiting n s.host))
  | .ended i result, s => ∀ q ∈ s.host.pending[i]?, result ≠ .failure ∧
      Host.Shows (s.host.addController result) q.1 q.2 (waitingIn q.1 (s.host.pending.take i))
  | _, _ => True

section Reports
variable {c : Client} {p : Platform} {s : System} {h : Host} {n k : ℤ} {event : String}

theorem cons_eq_concat_iff {x : String} {l r : List String} :
    l ++ x::r = x::(l ++ r) ↔ ∀ y ∈ l, y = x := by
  induction l with
  | nil => simp
  | cons y l ih =>
    rw [List.forall_mem_cons, ← ih, List.cons_append, List.cons_append, List.cons.injEq]
    constructor
    · rintro ⟨rfl, h⟩
      exact ⟨rfl,h⟩
    · rintro ⟨rfl, h⟩
      exact ⟨rfl,h⟩

theorem shown_cons (h : Host) (q : ℤ × ℕ × String) (n : ℤ) :
    shown n {h with simulated := q::h.simulated} =
      shown n h ++ if q.1 = n then [q.2.2] else [] := by
  unfold shown
  by_cases hq : q.1 = n <;> simp [hq]

theorem simulate_shown (h : Host) (k : ℤ) (event : String) (n : ℤ) :
    shown n (h.simulate k event) =
      shown n h ++ if k = n ∧ 0 ≤ k ∧ k < h.controllers.length then [event] else [] := by
  unfold Host.simulate
  by_cases hlt : k < h.controllers.length
  · rw [if_pos hlt]
    unfold Host.controllerAt
    by_cases hpos : 0 ≤ k
    · have hget : h.controllers[k.toNat]? = some (h.controllers.get ⟨k.toNat,by omega⟩) :=
        List.getElem?_eq_getElem _
      rw [if_pos hpos, hget]
      simp only [shown_cons]
      simp [hlt, hpos]
    · simp [hpos]
  · simp [hlt]

theorem waitingIn_append (n : ℤ) (before after : List (ℤ × String)) :
    waitingIn n (before ++ after) = waitingIn n before ++ waitingIn n after :=
  List.filterMap_append

theorem waitingIn_cons (n : ℤ) (q : ℤ × String) (rest : List (ℤ × String)) :
    waitingIn n (q::rest) = if q.1 = n then q.2::waitingIn n rest else waitingIn n rest := by
  unfold waitingIn
  by_cases hq : q.1 = n <;> simp [hq]

theorem simulate_waiting (h : Host) (k : ℤ) (event : String) (n : ℤ) :
    waiting n (h.simulate k event) = waiting n h := by
  rw [waiting, (simulate_kept h k event).2.2.1, waiting]

/-- What has come of the reports of a pad. -/
def kept (n : ℤ) (h : Host) : List String := shown n h ++ waiting n h

/-- A report that is driven at once comes before those that wait. -/
theorem simulate_kept_iff (h : Host) (k : ℤ) (event : String) :
    kept k (h.simulate k event) = kept k h ++ [event] ↔ Host.Shows h k event (waiting k h) := by
  unfold kept Host.Shows
  rw [simulate_shown, simulate_waiting]
  by_cases hshown : 0 ≤ k ∧ k < h.controllers.length
  · have hiff := cons_eq_concat_iff (x := event) (l := waiting k h) (r := [])
    rw [List.append_nil] at hiff
    rw [if_pos ⟨rfl,hshown⟩, List.append_assoc, List.append_assoc, List.append_cancel_left_eq,
      List.singleton_append, eq_comm, hiff]
    simp [hshown.1, hshown.2]
  · rw [if_neg fun hall => hshown hall.2, List.append_nil]
    apply iff_of_false
    · intro heq
      exact absurd (congrArg List.length heq) (by simp)
    · exact fun hall => hshown ⟨hall.1,hall.2.1⟩

theorem handled_iff {m : GamepadMessage} (hk : parse m.id = some k) :
    kept k (handleGamePadEvent p m h) = kept k h ++ [m.event] ↔
      p = .windows ∧ (h.controllerCount ≤ k ∨ Host.Shows h k m.event (waiting k h)) := by
  simp only [handleGamePadEvent, hk]
  by_cases hp : p = .windows
  · by_cases hcount : (h.controllerCount : ℤ) ≤ k
    · simp [hp, hcount, kept, shown, waiting, waitingIn]
    · simp only [hp, ne_eq, not_true_eq_false, if_false, hcount, simulate_kept_iff, false_or,
        true_and]
  · simp [hp]

theorem handled_other {m : GamepadMessage} (hk : parse m.id = some k) (hn : n ≠ k) :
    kept n (handleGamePadEvent p m h) = kept n h := by
  simp only [handleGamePadEvent, hk]
  split
  · rfl
  · split
    · simp [kept, shown, waiting, waitingIn, hn.symm]
    · rw [kept, simulate_shown, simulate_waiting, if_neg fun hall => hn hall.1.symm,
        List.append_nil, kept]

section Resumed
variable {i : ℕ} {result : Creation}

theorem pending_split {q : ℤ × String} (hi : h.pending[i]? = some q) :
    h.pending = h.pending.take i ++ q::h.pending.drop (i+1) := by
  obtain ⟨hlt, hget⟩ := List.getElem?_eq_some_iff.mp hi
  calc h.pending = h.pending.take i ++ h.pending.drop i := (List.take_append_drop i _).symm
    _ = h.pending.take i ++ q::h.pending.drop (i+1) := by
      rw [List.drop_eq_getElem_cons hlt, hget]

theorem waiting_split {q : ℤ × String} (hi : h.pending[i]? = some q) (n : ℤ) :
    waiting n h = waitingIn n (h.pending.take i) ++ waitingIn n (q::h.pending.drop (i+1)) := by
  rw [waiting, ← waitingIn_append, ← pending_split hi]

theorem waiting_erase (n : ℤ) : waiting n {h with pending := h.pending.eraseIdx i} =
    waitingIn n (h.pending.take i) ++ waitingIn n (h.pending.drop (i+1)) := by
  rw [waiting, List.eraseIdx_eq_take_drop_succ, waitingIn_append]

theorem addController_waiting (h : Host) (result : Creation) (n : ℤ) :
    waiting n (h.addController result) = waiting n h := by
  cases result <;> rfl

theorem addController_shown (h : Host) (result : Creation) (n : ℤ) :
    shown n (h.addController result) = shown n h := by
  cases result <;> rfl

theorem addController_controllers (h : Host) (result : Creation) (pending : List (ℤ × String)) :
    (Host.addController {h with pending := pending} result).controllers =
      (h.addController result).controllers := by
  cases result <;> rfl

theorem resumed_iff (hi : h.pending[i]? = some (k,event)) :
    kept k (resume i result h) = kept k h ↔ result ≠ .failure ∧
      Host.Shows (h.addController result) k event (waitingIn k (h.pending.take i)) := by
  simp only [resume, hi]
  by_cases hf : result = .failure
  · rw [if_pos hf]
    apply iff_of_false _ fun hall => hall.1 hf
    intro heq
    have hlength := congrArg List.length heq
    rw [kept, kept, waiting_erase, waiting_split hi, waitingIn_cons, if_pos rfl] at hlength
    have hshown : shown k {h with pending := h.pending.eraseIdx i} = shown k h := rfl
    simp only [hshown, List.length_append, List.length_cons] at hlength
    omega
  · rw [if_neg hf, kept, kept, simulate_shown, simulate_waiting, addController_shown,
      addController_waiting, waiting_erase, waiting_split hi, waitingIn_cons, if_pos rfl,
      addController_controllers]
    show shown k h ++ _ ++ _ = _ ↔ _
    by_cases hshown : 0 ≤ k ∧ k < (h.addController result).controllers.length
    · rw [if_pos ⟨rfl,hshown⟩, List.append_assoc, List.append_cancel_left_eq,
        List.singleton_append, eq_comm, cons_eq_concat_iff]
      simp [hf, Host.Shows, hshown.1, hshown.2]
    · rw [if_neg fun hall => hshown hall.2, List.append_nil]
      apply iff_of_false
      · intro heq
        exact absurd (congrArg List.length heq) (by simp)
      · exact fun hall => hshown ⟨hall.2.1,hall.2.2.1⟩

theorem resumed_other (hi : h.pending[i]? = some (k,event)) (hn : n ≠ k) :
    kept n (resume i result h) = kept n h := by
  have hwaiting : waiting n {h with pending := h.pending.eraseIdx i} = waiting n h := by
    rw [waiting_erase, waiting_split hi, waitingIn_cons, if_neg hn.symm]
  simp only [resume, hi]
  split
  · rw [kept, hwaiting, kept]
    rfl
  · rw [kept, simulate_shown, simulate_waiting, addController_shown, addController_waiting,
      hwaiting, if_neg fun hall => hn hall.1.symm, List.append_nil, kept]
    rfl

end Resumed

theorem lossless_iff : Lossless c s ↔
    ∀ n, kept n s.host ++ texts n s.wire = texts n (s.sent.map (report c)) :=
  Iff.rfl

theorem texts_append (n : ℤ) (ms ms' : List GamepadMessage) :
    texts n (ms ++ ms') = texts n ms ++ texts n ms' :=
  List.filterMap_append

theorem texts_cons (n : ℤ) (m : GamepadMessage) (ms : List GamepadMessage) :
    texts n (m::ms) = if parse m.id = some n then m.event::texts n ms else texts n ms := by
  unfold texts
  by_cases hm : parse m.id = some n <;> simp [hm]

theorem onEvent_lossless (gamepadId : String) (e : GamepadEvent) (hs : Lossless c s) :
    Lossless c (s.onEvent c gamepadId e) := by
  simp only [System.onEvent]
  split
  · intro n
    rw [List.map_append, texts_append, texts_append, ← hs n, ← List.append_assoc]
    rfl
  · exact hs

theorem deliver_lossless_iff {m : GamepadMessage} {rest : List GamepadMessage} (hs : Lossless c s)
    (hw : s.wire = m::rest) :
    Lossless c {s with wire := rest, host := handleGamePadEvent p m s.host} ↔
      ∀ n, parse m.id = some n → p = .windows ∧ (s.host.controllerCount ≤ n ∨
        Host.Shows s.host n m.event (waiting n s.host)) := by
  have htotal (n : ℤ) := lossless_iff.mp hs n
  simp only [hw, texts_cons] at htotal
  rw [lossless_iff]
  cases hm : parse m.id with
  | none =>
    apply iff_of_true
    · intro n
      have hsame : handleGamePadEvent p m s.host = s.host := by simp only [handleGamePadEvent, hm]
      have hn := htotal n
      rw [hm] at hn
      simpa [hsame] using hn
    · intro n hn
      cases hn
  | some k =>
    constructor
    · rintro hall n ⟨⟩
      have hn := htotal k
      rw [if_pos hm, ← hall k] at hn
      rw [← handled_iff hm]
      apply (List.append_left_inj (texts k rest)).mp
      rw [List.append_assoc, List.singleton_append]
      exact hn.symm
    · intro hprompt n
      rw [← htotal n]
      by_cases hn : n = k
      · subst hn
        rw [if_pos hm, (handled_iff hm).mpr (hprompt n rfl), List.append_assoc,
          List.singleton_append]
      · rw [if_neg (by simpa [hm] using Ne.symm hn), handled_other hm hn]

theorem ended_lossless_iff {i : ℕ} {result : Creation} (hs : Lossless c s)
    (hi : s.host.pending[i]? = some (k,event)) :
    Lossless c {s with host := resume i result s.host} ↔ result ≠ .failure ∧
      Host.Shows (s.host.addController result) k event
        (waitingIn k (s.host.pending.take i)) := by
  rw [← resumed_iff hi, lossless_iff]
  constructor
  · intro hall
    apply (List.append_left_inj (texts k s.wire)).mp
    exact (hall k).trans (hs k).symm
  · intro hk n
    rw [← lossless_iff.mp hs n]
    by_cases hn : n = k
    · subst hn
      rw [hk]
    · rw [resumed_other hi hn]

theorem lossless_step_iff (e : Event) (s : System) (hs : Lossless c s) :
    Lossless c (step c p e s) ↔ Prompt p e s := by
  cases e with
  | gamepad gamepadId e => exact iff_of_true (onEvent_lossless gamepadId e hs) trivial
  | rendering current => exact iff_of_true hs trivial
  | deliver =>
    simp only [step, Prompt]
    cases hw : s.wire with
    | nil => exact iff_of_true hs (fun _ h => by cases h)
    | cons m rest =>
      rw [deliver_lossless_iff hs hw]
      simp
  | ended i result =>
    simp only [step, Prompt]
    cases hi : s.host.pending[i]? with
    | none =>
      apply iff_of_true _ (fun _ h => by cases h)
      have hsame : resume i result s.host = s.host := by simp only [resume, hi]
      rw [hsame]
      exact hs
    | some q =>
      rw [ended_lossless_iff hs hi]
      simp

/-- The reports with the number of a pad are the reports of the pad. -/
theorem texts_of_pad {gamepadId : String} {sent : List (String × String)}
    (hk : parse (c.reportId gamepadId) = some k)
    (halone : ∀ other ∈ sent, parse (c.reportId other.1) = some k → other.1 = gamepadId) :
    texts k (sent.map (report c)) =
      (sent.filter fun sent => sent.1 = gamepadId).map Prod.snd := by
  induction sent with
  | nil => rfl
  | cons first sent ih =>
    rw [List.forall_mem_cons] at halone
    rw [List.map_cons, texts_cons, ih halone.2]
    by_cases hfirst : first.1 = gamepadId
    · simp [report, hfirst, hk]
    · have hother : ¬parse (c.reportId first.1) = some k := fun h => hfirst (halone.1 h)
      simp [report, hfirst, hother]

end Reports

/-- No report is lost, repeated or overtaken by another report of its pad, whenever in a run
that may be, exactly when every report is driven at once or waits for its controller, in the
order of its pad. -/
theorem reports_lossless_iff (c : Client) (p : Platform) (es : List Event) :
    (∀ before after, es = before ++ after → Lossless c (run (step c p) before {})) ↔
      Meets (step c p) (Prompt p) es {} :=
  always_iff_meets (step c p) lossless_step_iff es {} fun _ => rfl

/-- When no report of a pad is under way, the host has last driven its controller with the
state that the pad is in. -/
theorem host_follows (c : Client) (p : Platform) (es : List Event) {s : System}
    (hs : s = run (step c p) es {})
    (hrendered : Meets (step c p) (Rendered c) es {})
    (hprompt : Meets (step c p) (Prompt p) es {}) {gamepadId : String} {k : ℤ}
    (hk : parse (c.reportId gamepadId) = some k)
    (halone : ∀ other ∈ s.sent, parse (c.reportId other.1) = some k → other.1 = gamepadId)
    (hwire : texts k s.wire = []) (hwaiting : waiting k s.host = []) :
    (shown k s.host).getLastD ({} : CGamepadState).getStateString =
      (s.gamepadstates gamepadId).getStateString := by
  have hcurrent : Current s := by
    rw [hs]
    exact run_invariant (step c p) (fun e s hg h => (current_step_iff e s h).mpr hg) es {}
      hrendered fun _ => rfl
  have hlossless : Lossless c s := by
    rw [hs]
    exact run_invariant (step c p) (fun e s hg h => (lossless_step_iff e s h).mpr hg) es {}
      hprompt fun _ => rfl
  have hshown := hlossless k
  rw [hwaiting, hwire, List.append_nil, List.append_nil, texts_of_pad hk halone] at hshown
  rw [hshown]
  exact hcurrent gamepadId

def phone : Client := {platform := .android, gamepads := ["pad"]}

/-- The first press of a pad makes its controller. -/
def firstPress : List Event :=
  [.rendering true, .gamepad "pad" ⟨.button,"KEYCODE_BUTTON_A",0⟩, .deliver,
    .ended 0 .controller]

theorem firstPress_prompt : Meets (step phone .windows) (Prompt .windows) firstPress {} := by
  refine ⟨trivial,trivial,?_,?_,trivial⟩
  · have hwire : (run (step phone .windows) (firstPress.take 2) {}).wire.head?.map (fun m =>
        parse m.id) = some (some 0) := by decide +kernel
    intro m hm n hn
    have hid : (run (step phone .windows) (firstPress.take 2) {}).wire.head? = some m := hm
    rw [hid, Option.map_some, hn, Option.some.injEq, Option.some.injEq] at hwire
    rw [hwire]
    exact ⟨rfl,Or.inl (by decide +kernel)⟩
  · have hpending : (run (step phone .windows) (firstPress.take 3) {}).host.pending[0]?.map
        Prod.fst = some 0 := by decide +kernel
    intro q hq
    have hid : (run (step phone .windows) (firstPress.take 3) {}).host.pending[0]? = some q := hq
    rw [hid, Option.map_some, Option.some.injEq] at hpending
    rw [hpending]
    refine ⟨by decide,by decide,by decide +kernel,?_⟩
    rw [List.take_zero]
    intro other h
    cases h

theorem firstPress_followed :
    (shown 0 (run (step phone .windows) firstPress {}).host).getLastD
        ({} : CGamepadState).getStateString =
      ((run (step phone .windows) firstPress {}).gamepadstates "pad").getStateString := by
  have hsent : (run (step phone .windows) firstPress {}).sent = [("pad","4096 0 0 0 0 0 0")] := by
    decide +kernel
  refine host_follows phone .windows firstPress rfl ?_ firstPress_prompt (by decide +kernel) ?_
    (by decide +kernel) (by decide +kernel)
  · exact ⟨trivial,Or.inl rfl,trivial,trivial,trivial⟩
  · rw [hsent]
    intro other hother _
    rw [List.mem_singleton.mp hother]

end CloudPlay.GamepadReports
