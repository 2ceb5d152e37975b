import CloudPlay.PingRound

/-!
# Sessions that end

A ping or pong that is lost is not sent again, so both sides give up when their timeouts
run out. A side that stops tells the other, and if that is not lost the other side stops
within the latency of the channel.
-/

set_option autoImplicit false

namespace CloudPlay.LostPings
open TransitionRun TimedRun KeepAlive PingRound

/-- No ping or pong is on the way or about to be sent. -/
structure Tokenless (s : Link) : Prop where
  wire : ∀ y, ∀ m ∈ s.wire y, m.2 = .disconnect
  answers : ∀ y, (s.peer y).answers = []

/-- The pings and pongs of a side that are on the way or about to be sent. -/
def pingsOf (s : Link) (y : Side) : ℕ :=
  (s.wire y).countP (fun m => m.2 ≠ .disconnect) + (s.peer y).answers.length

def pings (s : Link) : ℕ := pingsOf s .controller + pingsOf s .controlled

/-- The connection is not set up anew. -/
def Unrenewed : Act → Link → Prop
  | .connected _, _ => False
  | a, s => Enabled a s

section Lost
variable {latency resendCount : ℕ} {x y : Side} {s : Link} {m : Message}

theorem stop_self (h : ¬(s.peer x).stopped = true) : (s.stop resendCount x).peer x =
    {s.peer x with pingTimeoutTimer := none, stopped := true} := by
  rw [Link.stop, if_neg h]
  exact Function.update_self x _ s.peer

theorem stop_stopped : ((s.stop resendCount x).peer x).stopped = true := by
  by_cases h : (s.peer x).stopped = true
  · rw [Link.stop, if_pos h]
    exact h
  · rw [stop_self h]

theorem stop_other (hy : y ≠ x) : (s.stop resendCount x).peer y = s.peer y := by
  unfold Link.stop
  split
  · rfl
  · exact Function.update_of_ne hy _ s.peer

theorem stop_wire (y : Side) :
    ∀ m ∈ (s.stop resendCount x).wire y, m ∈ s.wire y ∨ m.2 = .disconnect := by
  intro m hm
  unfold Link.stop at hm
  split at hm
  · exact Or.inl hm
  · rw [setWire_wire] at hm
    by_cases hy : y = x
    · subst hy
      rw [Function.update_self] at hm
      rcases List.mem_append.mp hm with hm | hm
      · exact Or.inl hm
      · rw [List.eq_of_mem_replicate hm]
        exact Or.inr rfl
    · rw [Function.update_of_ne hy] at hm
      exact Or.inl hm

theorem stop_answers (y : Side) :
    ((s.stop resendCount x).peer y).answers = (s.peer y).answers := by
  by_cases hy : y = x
  · subst hy
    by_cases h : (s.peer y).stopped = true
    · rw [Link.stop, if_pos h]
    · rw [stop_self h]
  · rw [stop_other hy]

theorem Tokenless.stop (h : Tokenless s) : Tokenless (s.stop resendCount x) := by
  constructor
  · intro y m hm
    rcases stop_wire y m hm with hm | hm
    · exact h.wire y m hm
    · exact hm
  · intro y
    rw [stop_answers]
    exact h.answers y

theorem Tokenless.setWire (h : Tokenless s) {ms : List (ℕ × Message)}
    (hms : ∀ m ∈ ms, m ∈ s.wire x) : Tokenless (s.setWire x ms) := by
  refine ⟨fun y m hm => ?_,h.answers⟩
  rw [setWire_wire] at hm
  by_cases hy : y = x
  · subst hy
    rw [Function.update_self] at hm
    exact h.wire y m (hms m hm)
  · rw [Function.update_of_ne hy] at hm
    exact h.wire y m hm

variable (resendCount x) in
/-- All that can arrive is the end of the session. -/
theorem Tokenless.deliver_eq (h : Tokenless s) :
    s.deliver resendCount x = s ∨
      s.deliver resendCount x = (s.setWire x.other (s.wire x.other).tail).stop resendCount x := by
  unfold Link.deliver
  split
  · exact Or.inl rfl
  · rename_i m rest hw
    right
    have hm : m.2 = .disconnect := h.wire x.other m (by rw [hw]; exact List.mem_cons_self)
    rw [hw, List.tail_cons, Link.process, hm]
    split
    · rename_i hstopped
      rw [Link.stop, if_pos hstopped]
    · rw [if_neg (answer_ne x.other).symm, if_pos rfl]

theorem Tokenless.act (h : Tokenless s) {e : Act} (he : Unrenewed e s) :
    Tokenless (act resendCount e s) := by
  cases e with
  | connected y => cases he
  | deliver y =>
    have hrest : Tokenless (s.setWire y.other (s.wire y.other).tail) :=
      h.setWire fun m hm => List.mem_of_mem_tail hm
    rcases h.deliver_eq resendCount y with hd | hd
    · rw [KeepAlive.act, hd]
      exact h
    · rw [KeepAlive.act, hd]
      exact hrest.stop
  | lose y => exact h.setWire fun m hm => List.mem_of_mem_tail hm
  | answer y =>
    obtain ⟨u, rest, hu, -⟩ := he
    rw [h.answers y] at hu
    cases hu
  | expire y => exact h.stop
  | stop y => exact h.stop

/-! One ping or pong goes round: an answer is sent for each that is heard. -/

theorem pings_eq (x : Side) (s : Link) : pings s = pingsOf s x + pingsOf s x.other := by
  cases x
  · rfl
  · exact Nat.add_comm _ _

theorem tokenless_iff : Tokenless s ↔ pings s = 0 := by
  have hside (y : Side) : pingsOf s y = 0 ↔
      (∀ m ∈ s.wire y, m.2 = .disconnect) ∧ (s.peer y).answers = [] := by
    simp [pingsOf, List.countP_eq_zero]
  rw [pings, Nat.add_eq_zero_iff, ← side_forall (p := fun y => pingsOf s y = 0)]
  simp only [hside]
  exact ⟨fun h y => ⟨h.wire y,h.answers y⟩,fun h => ⟨fun y => (h y).1,fun y => (h y).2⟩⟩

theorem pingsOf_set (p : Peer) : pingsOf (s.set x p) y =
    if y = x then (s.wire x).countP (fun m => m.2 ≠ .disconnect) + p.answers.length
    else pingsOf s y := by
  unfold pingsOf
  rw [set_peer]
  by_cases hy : y = x
  · subst hy
    rw [if_pos rfl, Function.update_self]
    rfl
  · rw [if_neg hy, Function.update_of_ne hy]
    rfl

theorem pingsOf_setWire (ms : List (ℕ × Message)) : pingsOf (s.setWire x ms) y =
    if y = x then ms.countP (fun m => m.2 ≠ .disconnect) + (s.peer x).answers.length
    else pingsOf s y := by
  unfold pingsOf
  rw [setWire_wire]
  by_cases hy : y = x
  · subst hy
    rw [if_pos rfl, Function.update_self]
    rfl
  · rw [if_neg hy, Function.update_of_ne hy]
    rfl

theorem stop_pings : pings (s.stop resendCount x) = pings s := by
  have hside (y : Side) : pingsOf (s.stop resendCount x) y = pingsOf s y := by
    unfold Link.stop
    split
    · rfl
    · rw [pingsOf_setWire]
      by_cases hy : y = x
      · subst hy
        simp [set_peer, pingsOf, List.countP_append, List.countP_replicate]
      · rw [if_neg hy, pingsOf_set, if_neg hy]
  rw [pings, hside, hside]
  rfl

theorem restart_pings (seconds : ℕ) : pings (s.restartPingTimeoutTimer seconds x) = pings s := by
  have hside (y : Side) : pingsOf (s.restartPingTimeoutTimer seconds x) y = pingsOf s y := by
    rw [Link.restartPingTimeoutTimer, pingsOf_set]
    split
    · rename_i hy
      rw [hy]
      rfl
    · rfl
  rw [pings, hside, hside]
  rfl

theorem hear_pings : pings (s.hear x) = pings s+1 := by
  have hx : pingsOf s x = (s.wire x).countP (fun m => m.2 ≠ .disconnect) +
      (s.peer x).answers.length := rfl
  rw [pings_eq x, pings_eq x s, Link.hear, pingsOf_set, pingsOf_set, if_pos rfl,
    if_neg (other_ne x), List.length_append, List.length_singleton, hx]
  omega

/-- What the head of a wire is when it goes. -/
theorem tail_pings {n : ℕ × Message} {rest : List (ℕ × Message)} (h : s.wire x = n::rest) :
    pings (s.setWire x rest) + (if n.2 = .disconnect then 0 else 1) = pings s := by
  have hx : pingsOf s x = (n::rest).countP (fun m => m.2 ≠ .disconnect) +
      (s.peer x).answers.length := by rw [← h]; rfl
  rw [pings_eq x, pings_eq x s, pingsOf_setWire, pingsOf_setWire, if_pos rfl, if_neg (other_ne x),
    hx, List.countP_cons]
  by_cases hn : n.2 = .disconnect
  · simp [hn]
  · simp [hn]
    omega

theorem lose_pings {n : ℕ × Message} (h : n ∈ (s.wire x).head?) (hn : n.2 ≠ .disconnect) :
    pings (act resendCount (.lose x) s) + 1 = pings s := by
  obtain ⟨rest, hw⟩ : ∃ rest, s.wire x = n::rest := List.head?_eq_some_iff.mp h
  have htail := tail_pings hw
  rw [if_neg hn] at htail
  rw [act, Link.lose, hw, List.tail_cons]
  exact htail

theorem process_pings : pings (s.process resendCount x m) ≤
    pings s + (if m = .disconnect then 0 else 1) := by
  unfold Link.process
  split
  · exact Nat.le_add_right _ _
  · split
    · rename_i hm
      have hping : m ≠ .disconnect := hm ▸ answer_ne x.other
      rw [if_neg hping]
      exact Nat.le_of_eq hear_pings
    · split
      · rw [stop_pings]
        exact Nat.le_add_right _ _
      · exact Nat.le_add_right _ _

theorem answer_pings {u : ℕ} {rest : List ℕ} (h : (s.peer x).answers = u::rest) :
    pings (s.answer x) ≤ pings s := by
  have hx : pingsOf s x = (s.wire x).countP (fun m => m.2 ≠ .disconnect) + (rest.length+1) := by
    rw [pingsOf, h, List.length_cons]
  have htail : (s.peer x).answers.tail.length = rest.length := by rw [h, List.tail_cons]
  rw [pings_eq x, pings_eq x s, hx]
  unfold Link.answer
  split
  · rw [pingsOf_set, pingsOf_set, if_pos rfl, if_neg (other_ne x)]
    have hsum : (s.wire x).countP (fun m => m.2 ≠ .disconnect) + (s.peer x).answers.tail.length ≤
        (s.wire x).countP (fun m => m.2 ≠ .disconnect) + (rest.length+1) := by
      omega
    exact Nat.add_le_add_right hsum _
  · have hone : [(s.now,x.answer)].countP (fun m => m.2 ≠ .disconnect) ≤ 1 :=
      List.countP_le_length
    rw [Link.send, pingsOf_setWire, pingsOf_setWire, if_pos rfl, if_neg (other_ne x), pingsOf_set,
      if_neg (other_ne x), set_peer, Function.update_self, List.countP_append]
    have hsum : (s.wire x).countP (fun m => m.2 ≠ .disconnect) +
        [(s.now,x.answer)].countP (fun m => m.2 ≠ .disconnect) + (s.peer x).answers.tail.length ≤
        (s.wire x).countP (fun m => m.2 ≠ .disconnect) + (rest.length+1) := by
      omega
    exact Nat.add_le_add_right hsum _

theorem act_pings {e : Act} (he : Enabled e s) : pings (act resendCount e s) ≤ pings s := by
  cases e with
  | connected y =>
    simp only [act]
    split
    · exact Nat.le_refl _
    · exact Nat.le_of_eq (restart_pings 40)
  | deliver y =>
    simp only [act, Link.deliver]
    split
    · exact Nat.le_refl _
    · rename_i n rest hw
      have htail := tail_pings hw
      exact htail ▸ process_pings
  | lose y =>
    cases hw : s.wire y with
    | nil =>
      have hsame : act resendCount (.lose y) s = s := by
        rw [act, Link.lose, hw, List.tail_nil, ← hw, Link.setWire, Function.update_eq_self]
      exact Nat.le_of_eq (congrArg pings hsame)
    | cons n rest =>
      have htail := tail_pings hw
      rw [act, Link.lose, hw, List.tail_cons]
      omega
  | answer y =>
    obtain ⟨u, rest, hu, -⟩ := he
    exact answer_pings hu
  | expire y => exact Nat.le_of_eq stop_pings
  | stop y => exact Nat.le_of_eq stop_pings

theorem pings_run {n : ℕ} (es : List (Event Act)) (s : Link)
    (hm : Meets (timed latency resendCount).step ((timed latency resendCount).Timely Enabled)
      es s) (hs : pings s ≤ n) : pings (run (timed latency resendCount).step es s) ≤ n := by
  refine run_invariant _ (fun e s he (hs : pings s ≤ n) => ?_) es s hm hs
  cases e with
  | pass d => exact hs
  | act e => exact Nat.le_trans (act_pings he) hs

theorem established_pings (left : Side → ℕ) : pings (established left) = 1 := rfl

/-- A side waits until a time at the latest. -/
def Waiting (y : Side) (d : ℕ) (s : Link) : Prop :=
  (s.peer y).stopped = true ∨ ∃ t, (s.peer y).pingTimeoutTimer = some t ∧ t ≤ d

theorem Waiting.stop {d : ℕ} (h : Waiting y d s) : Waiting y d (s.stop resendCount x) := by
  by_cases hy : y = x
  · subst hy
    exact Or.inl stop_stopped
  · unfold Waiting
    rw [stop_other hy]
    exact h

/-- Without a ping or pong the timeouts stay as they are. -/
theorem Waiting.act {d : ℕ} (h : Waiting y d s) (hs : Tokenless s) {e : Act}
    (he : Unrenewed e s) : Waiting y d (act resendCount e s) := by
  cases e with
  | connected z => cases he
  | deliver z =>
    have hrest : Waiting y d (s.setWire z.other (s.wire z.other).tail) := h
    rcases hs.deliver_eq resendCount z with hd | hd
    · rw [KeepAlive.act, hd]
      exact h
    · rw [KeepAlive.act, hd]
      exact hrest.stop
  | lose z => exact h
  | answer z =>
    obtain ⟨u, rest, hu, -⟩ := he
    rw [hs.answers z] at hu
    cases hu
  | expire z => exact h.stop
  | stop z => exact h.stop

theorem restart_waiting {seconds d : ℕ} (hd : s.now+1000*seconds ≤ d) (h : Waiting y d s) :
    Waiting y d (s.restartPingTimeoutTimer seconds x) := by
  unfold Waiting Link.restartPingTimeoutTimer
  rw [set_peer]
  by_cases hy : y = x
  · subst hy
    rw [Function.update_self]
    exact Or.inr ⟨_,rfl,hd⟩
  · rw [Function.update_of_ne hy]
    exact h

theorem process_waiting {d : ℕ} (hd : s.now+30000 ≤ d) (h : Waiting y d s) :
    Waiting y d (s.process resendCount x m) := by
  unfold Link.process
  split
  · exact h
  · split
    · unfold Waiting Link.hear
      rw [set_peer]
      by_cases hy : y = x
      · subst hy
        rw [Function.update_self]
        exact Or.inr ⟨_,rfl,hd⟩
      · rw [Function.update_of_ne hy]
        exact h
    · split
      · exact h.stop
      · exact h

theorem watched_act (e : Act) (h : ∀ y, Waiting y (s.now+40000) s) (y : Side) :
    Waiting y (s.now+40000) (act resendCount e s) := by
  cases e with
  | connected x =>
    simp only [act]
    split
    · exact h y
    · exact restart_waiting (Nat.le_refl _) (h y)
  | deliver x =>
    simp only [act, Link.deliver]
    split
    · exact h y
    · rename_i n rest hw
      have hrest : Waiting y (s.now+40000) (s.setWire x.other rest) := h y
      exact process_waiting (by simp only [Link.setWire]; omega) hrest
  | lose x => exact h y
  | answer x =>
    have hrest : Waiting y (s.now+40000)
        (s.set x {s.peer x with answers := (s.peer x).answers.tail}) := by
      unfold Waiting
      rw [set_peer]
      by_cases hy : y = x
      · subst hy
        rw [Function.update_self]
        exact h y
      · rw [Function.update_of_ne hy]
        exact h y
    simp only [act, Link.answer]
    split
    · exact hrest
    · exact hrest
  | expire x => exact (h y).stop
  | stop x => exact (h y).stop

theorem watched_step (e : Event Act) (s : Link) (h : ∀ y, Waiting y (s.now+40000) s) (y : Side) :
    Waiting y (((timed latency resendCount).step e s).now+40000)
      ((timed latency resendCount).step e s) := by
  cases e with
  | pass d =>
    rcases h y with hstopped | ⟨t, ht, hle⟩
    · exact Or.inl hstopped
    · refine Or.inr ⟨t,ht,Nat.le_trans hle ?_⟩
      exact Nat.add_le_add_right (Nat.le_add_right _ _) _
  | act e =>
    have hnow : ((timed latency resendCount).step (.act e) s).now = s.now :=
      (timed latency resendCount).now_act e s
    rw [hnow]
    exact watched_act e h y

/-- The ping or pong is lost, and a side waits until a time at the latest. -/
structure Forsaken (y : Side) (d : ℕ) (s : Link) : Prop where
  lost : Tokenless s
  waiting : Waiting y d s

theorem forsaken_run {d : ℕ} (es : List (Event Act))
    (hm : Meets (timed latency resendCount).step ((timed latency resendCount).Timely Unrenewed)
      es s)
    (hs : (timed latency resendCount).Punctual s) (h : Forsaken y d s) :
    Forsaken y d (run (timed latency resendCount).step es s) := by
  apply Timed.timely_invariant _ _ es s hm hs h
  · exact fun d s _ h => ⟨⟨h.lost.wire,h.lost.answers⟩,h.waiting⟩
  · exact fun e s he _ h => ⟨h.lost.act he,h.waiting.act h.lost he⟩

theorem established_watched {left : Side → ℕ} (hleft : ∀ y, left y ≤ 40000) (y : Side) :
    Waiting y ((established left).now+40000) (established left) := by
  refine Or.inr ⟨left y,rfl,?_⟩
  exact Nat.le_trans (hleft y) (Nat.le_add_left _ _)

end Lost

/-- There is one ping or pong at most, and when it is lost in a session, then both sides
have stopped it forty seconds later, unless the connection is set up anew. -/
theorem lost_ping_closes (latency resendCount : ℕ) {left : Side → ℕ}
    (hleft : ∀ y, left y ≤ 40000) {before : List (Event Act)} {s : Link}
    (hbefore : Meets (timed latency resendCount).step ((timed latency resendCount).Timely Enabled)
      before (established left))
    (hs : s = run (timed latency resendCount).step before (established left)) :
    pings s ≤ 1 ∧
    (∀ x, ∀ m ∈ (s.wire x).head?, m.2 ≠ .disconnect → Tokenless (act resendCount (.lose x) s)) ∧
    (Tokenless s → ∀ after s',
      Meets (timed latency resendCount).step ((timed latency resendCount).Timely Unrenewed)
        after s →
      s' = run (timed latency resendCount).step after s → s.now+40000 < s'.now →
      ∀ y, (s'.peer y).stopped = true) := by
  have hone : pings s ≤ 1 := by
    rw [hs]
    exact pings_run before _ hbefore (Nat.le_of_eq (established_pings left))
  refine ⟨hone,fun x m hm hping => ?_,fun hlost after s' hafter hs' hlate y => ?_⟩
  · have hlose : pings (act resendCount (.lose x) s) + 1 = pings s := lose_pings hm hping
    exact tokenless_iff.mpr (by omega)
  · have hpunctual : (timed latency resendCount).Punctual s := by
      rw [hs]
      exact Timed.punctual_run before _ hbefore (established_punctual left)
    have hwatched : Waiting y (s.now+40000) s :=
      reachable_invariant (timed latency resendCount).step watched_step
        (established_watched hleft) ⟨before,hs.symm⟩ y
    have hforsaken : Forsaken y (s.now+40000) (run (timed latency resendCount).step after s) :=
      forsaken_run after hafter hpunctual ⟨hlost,hwatched⟩
    rw [hs'] at hlate ⊢
    apply Timed.ends_by after s hafter hpunctual _ hlate
    rcases hforsaken.waiting with hstopped | ⟨t, ht, hle⟩
    · exact Or.inr hstopped
    · exact Or.inl ⟨t,hle,.timeout y t ht⟩

def giveUp : List (Event Act) :=
  [.pass 40000, .act (.expire .controlled), .act (.expire .controller), .pass 1]

theorem giveUp_timely :
    Meets (timed 100 3).step ((timed 100 3).Timely Unrenewed) giveUp
      ((established fun _ => 40000).lose .controller) := by
  refine ⟨timely_pass ?_ ?_ ?_,⟨40000,rfl,?_⟩,⟨40000,rfl,?_⟩,timely_pass ?_ ?_ ?_,trivial⟩
  · simp [established, Link.lose, Link.setWire]
  · simp [established, Link.lose, Link.setWire]
  · simp [side_forall, established, Link.lose, Link.setWire]
  all_goals
    simp [side_forall, Timed.step, timed, act, established, Link.lose, Link.stop, Link.setWire,
      Link.set, Function.update_apply]

/-- The first ping is lost, and both sides give up when their timeouts run out. -/
theorem lost_first_ping :
    ((run (timed 100 3).step giveUp ((established fun _ => 40000).lose .controller)).peer
      .controlled).stopped = true := by
  have hlong : ∀ y : Side, (fun _ : Side => 40000) y ≤ 40000 := fun _ => Nat.le_refl _
  have hnone : Meets (timed 100 3).step ((timed 100 3).Timely Enabled) []
      (established fun _ => 40000) := trivial
  have hlost : Tokenless ((established fun _ => 40000).lose .controller) :=
    (lost_ping_closes 100 3 hlong hnone rfl).2.1 .controller (0,.ping) rfl Message.noConfusion
  have hbefore : Meets (timed 100 3).step ((timed 100 3).Timely Enabled)
      [.act (.lose .controller)] (established fun _ => 40000) := ⟨trivial,trivial⟩
  exact (lost_ping_closes 100 3 hlong hbefore rfl).2.2 hlost giveUp _ giveUp_timely rfl (by decide)
    .controlled

/-! The end of a session is heard if it is not lost. -/

def Kept : Act → Link → Prop
  | .lose _, _ => False
  | a, s => Enabled a s

/-- The end of the session is on its way from a side, or the other side has stopped. -/
def Told (x : Side) (t : ℕ) (s : Link) : Prop :=
  (t,Message.disconnect) ∈ s.wire x ∨ (s.peer x.other).stopped = true

section Ends
variable {latency resendCount t : ℕ} {x y : Side} {s : Link}

theorem Told.stop (h : Told x t s) (y : Side) : Told x t (s.stop resendCount y) := by
  rcases h with h | h
  · left
    unfold Link.stop
    split
    · exact h
    · rw [setWire_wire]
      by_cases hy : x = y
      · subst hy
        rw [Function.update_self]
        exact List.mem_append_left _ h
      · rw [Function.update_of_ne hy]
        exact h
  · right
    by_cases hy : x.other = y
    · subst hy
      exact stop_stopped
    · rw [stop_other hy]
      exact h

theorem process_disconnect : ((s.process resendCount x .disconnect).peer x).stopped = true := by
  unfold Link.process
  split
  · assumption
  · rw [if_neg (answer_ne x.other).symm, if_pos rfl]
    exact stop_stopped

theorem hear_stopped (y z : Side) : ((s.hear y).peer z).stopped = (s.peer z).stopped := by
  unfold Link.hear
  rw [set_peer]
  by_cases hz : z = y
  · subst hz
    rw [Function.update_self]
  · rw [Function.update_of_ne hz]

theorem Told.process (h : Told x t s) (y : Side) (m : Message) :
    Told x t (s.process resendCount y m) := by
  unfold Link.process
  split
  · exact h
  · split
    · exact h.imp id fun h => (hear_stopped y x.other).trans h
    · split
      · exact h.stop y
      · exact h

theorem Told.deliver (h : Told x t s) (y : Side) : Told x t (s.deliver resendCount y) := by
  unfold Link.deliver
  split
  · exact h
  · rename_i m rest hw
    by_cases hy : y.other = x
    · subst hy
      rcases h with h | h
      · rw [hw, List.mem_cons] at h
        rcases h with rfl | h
        · right
          rw [other_other]
          exact process_disconnect
        · apply Told.process
          left
          rw [setWire_wire, Function.update_self]
          exact h
      · have hrest : Told y.other t (s.setWire y.other rest) := Or.inr h
        exact hrest.process y m.2
    · apply Told.process
      refine h.imp (fun h => ?_) id
      rw [setWire_wire, Function.update_of_ne (Ne.symm hy)]
      exact h

theorem Told.answer (h : Told x t s) (y : Side) : Told x t (s.answer y) := by
  have hrest : Told x t (s.set y {s.peer y with answers := (s.peer y).answers.tail}) := by
    refine h.imp id fun h => ?_
    rw [set_peer]
    by_cases hy : x.other = y
    · subst hy
      rw [Function.update_self]
      exact h
    · rw [Function.update_of_ne hy]
      exact h
  unfold Link.answer
  split
  · exact hrest
  · refine hrest.imp (fun h => ?_) id
    rw [Link.send, setWire_wire]
    by_cases hy : x = y
    · subst hy
      rw [Function.update_self]
      exact List.mem_append_left _ h
    · rw [Function.update_of_ne hy]
      exact h

theorem Told.act (h : Told x t s) {e : Act} (he : Kept e s) :
    Told x t (act resendCount e s) := by
  cases e with
  | connected y =>
    simp only [KeepAlive.act]
    split
    · exact h
    · refine h.imp id fun h => ?_
      rw [Link.restartPingTimeoutTimer, set_peer]
      by_cases hy : x.other = y
      · subst hy
        rw [Function.update_self]
        exact h
      · rw [Function.update_of_ne hy]
        exact h
  | deliver y => exact h.deliver y
  | lose y => cases he
  | answer y => exact h.answer y
  | expire y => exact h.stop y
  | stop y => exact h.stop y

theorem stop_told (h : (s.peer x).stopped = false) : Told x s.now (s.stop resendCount x) := by
  left
  rw [Link.stop, h, if_neg Bool.false_ne_true, setWire_wire, Function.update_self]
  apply List.mem_append_right
  exact List.mem_replicate.mpr ⟨Nat.succ_ne_zero _,rfl⟩

end Ends

/-- When a side stops and nothing is lost, the other side stops within the latency. -/
theorem stop_heard (latency resendCount : ℕ) {x : Side} {s s' : Link} {es : List (Event Act)}
    (hs : (timed latency resendCount).Punctual s) (hx : (s.peer x).stopped = false)
    (hm : Meets (timed latency resendCount).step ((timed latency resendCount).Timely Kept) es
      (s.stop resendCount x))
    (hs' : s' = run (timed latency resendCount).step es (s.stop resendCount x))
    (hlate : s.now+latency < s'.now) : (s'.peer x.other).stopped = true := by
  have hahead : Ahead latency s (s.stop resendCount x) := ahead_stop
  have hpunctual : (timed latency resendCount).Punctual (s.stop resendCount x) := by
    intro t hdue
    show (s.stop resendCount x).now ≤ t
    rw [hahead.1]
    rcases hahead.2 t hdue with hdue | hle
    · exact hs t hdue
    · exact hle
  have htold : Told x s.now (run (timed latency resendCount).step es (s.stop resendCount x)) := by
    apply Timed.timely_invariant _ _ es _ hm hpunctual (stop_told hx)
    · exact fun d s _ h => h
    · exact fun e s he _ h => h.act he
  rw [hs'] at hlate ⊢
  apply Timed.ends_by es _ hm hpunctual _ hlate
  rcases htold with hway | hstopped
  · exact Or.inl ⟨s.now+latency,Nat.le_refl _,.message x (s.now,.disconnect) hway⟩
  · exact Or.inr hstopped

def leave : List (Event Act) :=
  [.pass 100, .act (.deliver .controlled), .act (.deliver .controlled),
    .act (.deliver .controlled), .act (.deliver .controlled), .pass 1]

theorem leave_timely :
    Meets (timed 100 0).step ((timed 100 0).Timely Kept) leave
      ((established fun _ => 40000).stop 0 .controller) := by
  refine ⟨timely_pass ?_ ?_ ?_,trivial,trivial,trivial,trivial,timely_pass ?_ ?_ ?_,trivial⟩
  all_goals
    simp [side_forall, Timed.step, timed, act, established, Link.stop, Link.deliver, Link.process,
      Link.hear, Link.setWire, Link.set, Side.other, Side.answer, Function.update_apply]

/-- The controller leaves as soon as the channel is open. -/
theorem leave_heard :
    ((run (timed 100 0).step leave ((established fun _ => 40000).stop 0 .controller)).peer
      .controlled).stopped = true := by
  have hrunning : ((established fun _ => 40000).peer .controller).stopped = false := rfl
  exact stop_heard 100 0 (established_punctual _) hrunning leave_timely rfl (by decide)

end CloudPlay.LostPings
