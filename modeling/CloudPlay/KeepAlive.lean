import CloudPlay.TimedRun
import Mathlib.Logic.Function.Basic

/-!
# The pings that keep a session alive

The controller pings the host when the data channel opens. Whoever hears the other
side restarts its timeout and answers a second later, so that one ping or pong goes
round. A side whose timeout runs out stops the session and tells the other side. The
channel gives up on a message after a while, and nothing sends a lost ping again.
Times are in milliseconds.
-/

set_option autoImplicit false

namespace CloudPlay.KeepAlive
open TransitionRun TimedRun

inductive Side
  | controller | controlled
  deriving DecidableEq

def Side.other : Side → Side
  | .controller => .controlled
  | .controlled => .controller

/-- `LP_PING` with `RP_PING` or `RP_PONG`, and `LP_DISCONNECT`. -/
inductive Message
  | ping | pong | disconnect
  deriving DecidableEq

/-- What a side sends when it answers. -/
def Side.answer : Side → Message
  | .controller => .ping
  | .controlled => .pong

/-- The timeout of a side and its timers of a second that are to send the answers. -/
structure Peer where
  pingTimeoutTimer : Option ℕ := none
  answers : List ℕ := []
  stopped : Bool := false

/-- The messages on the way from a side, the oldest first, with the times they were
sent at. -/
structure Link where
  now : ℕ := 0
  peer : Side → Peer := fun _ => {}
  wire : Side → List (ℕ × Message) := fun _ => []

namespace Link

def set (x : Side) (p : Peer) (s : Link) : Link := {s with peer := Function.update s.peer x p}

def setWire (x : Side) (ms : List (ℕ × Message)) (s : Link) : Link :=
  {s with wire := Function.update s.wire x ms}

def send (x : Side) (m : Message) (s : Link) : Link := s.setWire x (s.wire x ++ [(s.now,m)])

def restartPingTimeoutTimer (seconds : ℕ) (x : Side) (s : Link) : Link :=
  s.set x {s.peer x with pingTimeoutTimer := some (s.now+1000*seconds)}

/-- The end of the session is sent several times. -/
def stop (resendCount : ℕ) (x : Side) (s : Link) : Link :=
  if (s.peer x).stopped then s
  else (s.set x {s.peer x with pingTimeoutTimer := none, stopped := true}).setWire x
    (s.wire x ++ List.replicate (resendCount+3) (s.now,.disconnect))

def hear (x : Side) (s : Link) : Link :=
  s.set x
    { s.peer x with
      pingTimeoutTimer := some (s.now+1000*30)
      answers := (s.peer x).answers ++ [s.now+1000] }

/-- `processDataChannelMessageFromClient` and `processDataChannelMessageFromHost`. A side
that has stopped ignores what it hears; in the source it still restarts its timeout, which
then finds nothing to stop, and its timer sends no answer any more. -/
def process (resendCount : ℕ) (x : Side) (m : Message) (s : Link) : Link :=
  if (s.peer x).stopped then s
  else if m = x.other.answer then s.hear x
  else if m = .disconnect then s.stop resendCount x
  else s

def deliver (resendCount : ℕ) (x : Side) (s : Link) : Link :=
  match s.wire x.other with
  | [] => s
  | m::rest => (s.setWire x.other rest).process resendCount x m.2

def lose (x : Side) (s : Link) : Link := s.setWire x (s.wire x).tail

/-- The timer of the first answer fires. -/
def answer (x : Side) (s : Link) : Link :=
  let rest := s.set x {s.peer x with answers := (s.peer x).answers.tail}
  if (s.peer x).stopped then rest else rest.send x x.answer

end Link

inductive Act
  | connected (x : Side)
  | deliver (x : Side)
  | lose (x : Side)
  | answer (x : Side)
  | expire (x : Side)
  | stop (x : Side)

def act (resendCount : ℕ) : Act → Link → Link
  | .connected x, s => if (s.peer x).stopped then s else s.restartPingTimeoutTimer 40 x
  | .deliver x, s => s.deliver resendCount x
  | .lose x, s => s.lose x
  | .answer x, s => s.answer x
  | .expire x, s => s.stop resendCount x
  | .stop x, s => s.stop resendCount x

/-- Timers fire on time, and a message takes no longer than the latency. -/
inductive Due (latency : ℕ) (s : Link) : ℕ → Prop
  | timeout (x : Side) (t : ℕ) (h : (s.peer x).pingTimeoutTimer = some t) : Due latency s t
  | answer (x : Side) (t : ℕ) (h : t ∈ (s.peer x).answers) : Due latency s t
  | message (x : Side) (m : ℕ × Message) (h : m ∈ s.wire x) : Due latency s (m.1+latency)

/-- A timer fires when its time has come. -/
def Enabled : Act → Link → Prop
  | .answer x, s => ∃ u rest, (s.peer x).answers = u::rest ∧ u ≤ s.now
  | .expire x, s => ∃ t, (s.peer x).pingTimeoutTimer = some t ∧ t ≤ s.now
  | _, _ => True

section Moments
variable {latency resendCount : ℕ} {x y : Side} {s : Link} {t : ℕ}

theorem set_peer (p : Peer) : (s.set x p).peer = Function.update s.peer x p := rfl

theorem setWire_wire (ms : List (ℕ × Message)) :
    (s.setWire x ms).wire = Function.update s.wire x ms := rfl

theorem due_set {p : Peer} (h : Due latency (s.set x p) t) :
    Due latency s t ∨ p.pingTimeoutTimer = some t ∨ t ∈ p.answers := by
  cases h with
  | timeout y t h =>
    by_cases hy : y = x
    · subst hy
      rw [set_peer, Function.update_self] at h
      exact Or.inr (Or.inl h)
    · rw [set_peer, Function.update_of_ne hy] at h
      exact Or.inl (.timeout y t h)
  | answer y t h =>
    by_cases hy : y = x
    · subst hy
      rw [set_peer, Function.update_self] at h
      exact Or.inr (Or.inr h)
    · rw [set_peer, Function.update_of_ne hy] at h
      exact Or.inl (.answer y t h)
  | message y m h => exact Or.inl (.message y m h)

theorem due_setWire {ms : List (ℕ × Message)} (h : Due latency (s.setWire x ms) t) :
    Due latency s t ∨ ∃ m ∈ ms, t = m.1+latency := by
  cases h with
  | timeout y t h => exact Or.inl (.timeout y t h)
  | answer y t h => exact Or.inl (.answer y t h)
  | message y m h =>
    rw [setWire_wire] at h
    by_cases hy : y = x
    · subst hy
      rw [Function.update_self] at h
      exact Or.inr ⟨m,h,rfl⟩
    · rw [Function.update_of_ne hy] at h
      exact Or.inl (.message y m h)

/-- Nothing becomes due before the present. -/
def Ahead (latency : ℕ) (s s' : Link) : Prop :=
  s'.now = s.now ∧ ∀ t, Due latency s' t → Due latency s t ∨ s.now ≤ t

theorem Ahead.refl (s : Link) : Ahead latency s s := ⟨rfl,fun _ h => Or.inl h⟩

theorem Ahead.trans {s s' s'' : Link} (h : Ahead latency s s') (h' : Ahead latency s' s'') :
    Ahead latency s s'' := by
  refine ⟨h'.1.trans h.1,fun t hdue => ?_⟩
  rcases h'.2 t hdue with hdue | hle
  · exact h.2 t hdue
  · rw [h.1] at hle
    exact Or.inr hle

theorem ahead_set {p : Peer}
    (htimer : ∀ t, p.pingTimeoutTimer = some t →
      (s.peer x).pingTimeoutTimer = some t ∨ s.now ≤ t)
    (hanswers : ∀ t ∈ p.answers, t ∈ (s.peer x).answers ∨ s.now ≤ t) :
    Ahead latency s (s.set x p) := by
  refine ⟨rfl,fun t h => ?_⟩
  rcases due_set h with h | h | h
  · exact Or.inl h
  · exact (htimer t h).imp (Due.timeout x t) id
  · exact (hanswers t h).imp (Due.answer x t) id

theorem ahead_setWire {ms : List (ℕ × Message)}
    (h : ∀ m ∈ ms, m ∈ s.wire x ∨ m.1 = s.now) : Ahead latency s (s.setWire x ms) := by
  refine ⟨rfl,fun t hdue => ?_⟩
  rcases due_setWire hdue with hdue | ⟨m, hm, rfl⟩
  · exact Or.inl hdue
  · rcases h m hm with hm | hm
    · exact Or.inl (.message x m hm)
    · rw [hm]
      exact Or.inr (Nat.le_add_right _ _)

theorem ahead_restart (seconds : ℕ) : Ahead latency s (s.restartPingTimeoutTimer seconds x) := by
  apply ahead_set
  · rintro t ⟨⟩
    exact Or.inr (Nat.le_add_right _ _)
  · exact fun t h => Or.inl h

theorem ahead_stop : Ahead latency s (s.stop resendCount x) := by
  unfold Link.stop
  split
  · exact Ahead.refl s
  · have hquiet : Ahead latency s
        (s.set x {s.peer x with pingTimeoutTimer := none, stopped := true}) := by
      apply ahead_set
      · exact fun t h => nomatch h
      · exact fun t h => Or.inl h
    · apply hquiet.trans
      apply ahead_setWire
      intro m hm
      rcases List.mem_append.mp hm with hm | hm
      · exact Or.inl hm
      · rw [List.eq_of_mem_replicate hm]
        exact Or.inr rfl

theorem ahead_process (m : Message) : Ahead latency s (s.process resendCount x m) := by
  unfold Link.process
  split
  · exact Ahead.refl s
  · split
    · apply ahead_set
      · rintro t ⟨⟩
        exact Or.inr (Nat.le_add_right _ _)
      · intro t ht
        rcases List.mem_append.mp ht with ht | ht
        · exact Or.inl ht
        · rw [List.mem_singleton.mp ht]
          exact Or.inr (Nat.le_add_right _ _)
    · split
      · exact ahead_stop
      · exact Ahead.refl s

theorem ahead_deliver : Ahead latency s (s.deliver resendCount x) := by
  unfold Link.deliver
  split
  · exact Ahead.refl s
  · rename_i m rest hw
    apply Ahead.trans _ (ahead_process m.2)
    apply ahead_setWire
    intro m' hm'
    rw [hw]
    exact Or.inl (List.mem_cons_of_mem _ hm')

theorem ahead_answer : Ahead latency s (s.answer x) := by
  have hrest : Ahead latency s (s.set x {s.peer x with answers := (s.peer x).answers.tail}) := by
    apply ahead_set
    · exact fun t h => Or.inl h
    · exact fun t h => Or.inl (List.mem_of_mem_tail h)
  unfold Link.answer
  split
  · exact hrest
  · apply hrest.trans
    apply ahead_setWire
    intro m hm
    rcases List.mem_append.mp hm with hm | hm
    · exact Or.inl hm
    · rw [List.mem_singleton.mp hm]
      exact Or.inr rfl

variable (latency) in
theorem ahead_act (a : Act) (s : Link) : Ahead latency s (act resendCount a s) := by
  cases a with
  | connected x =>
    simp only [act]
    split
    · exact Ahead.refl s
    · exact ahead_restart 40
  | deliver x => exact ahead_deliver
  | lose x => exact ahead_setWire fun m hm => Or.inl (List.mem_of_mem_tail hm)
  | answer x => exact ahead_answer
  | expire x => exact ahead_stop
  | stop x => exact ahead_stop

end Moments

def timed (latency resendCount : ℕ) : Timed Link Act where
  now := Link.now
  pass d s := {s with now := s.now+d}
  act := act resendCount
  Due := Due latency
  now_pass _ _ := rfl
  due_pass d s t := by
    constructor <;> rintro (⟨x, t, h⟩ | ⟨x, t, h⟩ | ⟨x, m, h⟩)
    · exact .timeout x t h
    · exact .answer x t h
    · exact .message x m h
    · exact .timeout x t h
    · exact .answer x t h
    · exact .message x m h
  now_act a s := (ahead_act latency a s).1
  due_act a s := (ahead_act latency a s).2

end CloudPlay.KeepAlive
