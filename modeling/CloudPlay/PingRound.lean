import CloudPlay.KeepAlive

/-!
# The ping or pong that goes round

As long as nothing is lost, there is one ping or pong between the two sides. The time by
which it reaches a side bounds the time by which it reaches the other, and both timeouts
are longer as long as a message takes less than fourteen seconds.
-/

set_option autoImplicit false

namespace CloudPlay.PingRound
open TransitionRun TimedRun KeepAlive

/-- No message is lost, and nobody stops the session by hand. -/
def Lossless : Act → Link → Prop
  | .lose _, _ => False
  | .stop _, _ => False
  | a, s => Enabled a s

/-- Where the ping or pong is that reaches a side by a time. -/
inductive Token (latency : ℕ) (x : Side) (a : ℕ) (s : Link) : Prop
  | sent (t : ℕ) (hw : s.wire x.other = [(t,x.other.answer)])
      (ha : (s.peer x.other).answers = []) (ht : t ≤ s.now) (h : a = t+latency)
  | kept (u : ℕ) (hw : s.wire x.other = []) (ha : (s.peer x.other).answers = [u])
      (hu : u ≤ s.now+1000) (h : a = u+latency)

/-- Both sides wait long enough for the one ping or pong there is. -/
structure Circulating (latency : ℕ) (x : Side) (a : ℕ) (s : Link) : Prop where
  running : ∀ y, (s.peer y).stopped = false
  behind : s.wire x = [] ∧ (s.peer x).answers = []
  token : Token latency x a s
  hears : ∃ d, (s.peer x).pingTimeoutTimer = some d ∧ a < d
  waits : ∃ d, (s.peer x.other).pingTimeoutTimer = some d ∧ a+1000+latency < d

def Alive (latency : ℕ) (s : Link) : Prop := ∃ x a, Circulating latency x a s

/-- The channel is open, and its first ping is on its way. -/
def established (left : Side → ℕ) : Link where
  peer x := { pingTimeoutTimer := some (left x) }
  wire x := if x = .controller then [(0,.ping)] else []

section Round
variable {latency resendCount : ℕ} {x y : Side} {a : ℕ} {s : Link}

theorem other_ne (x : Side) : x.other ≠ x := by cases x <;> decide

theorem other_other (x : Side) : x.other.other = x := by cases x <;> rfl

theorem side_cases (x y : Side) : y = x ∨ y = x.other := by
  cases x <;> cases y <;> decide

theorem answer_ne (x : Side) : x.answer ≠ .disconnect := by cases x <;> decide

theorem Token.soon (h : Token latency x a s) : a ≤ s.now+1000+latency := by
  cases h <;> omega

theorem Circulating.punctual (h : Circulating latency x a s)
    (hs : (timed latency resendCount).Punctual s) : s.now ≤ a := by
  cases h.token with
  | sent t hw ha ht heq =>
    rw [heq]
    apply hs
    exact .message x.other (t,x.other.answer) (by rw [hw]; exact List.mem_singleton_self _)
  | kept u hw ha hu heq =>
    have hnow : s.now ≤ u := hs u (.answer x.other u (by rw [ha]; exact List.mem_singleton_self _))
    omega

/-- Nobody gives up before the ping or pong has come round. -/
theorem Circulating.not_due (h : Circulating latency x a s)
    (hs : (timed latency resendCount).Punctual s) (y : Side) : ¬Enabled (.expire y) s := by
  rintro ⟨t, ht, hle⟩
  have hnow := h.punctual hs
  rcases side_cases x y with rfl | rfl
  · obtain ⟨d, hd, hlt⟩ := h.hears
    rw [hd] at ht
    have heq := Option.some.inj ht
    omega
  · obtain ⟨d, hd, hlt⟩ := h.waits
    rw [hd] at ht
    have heq := Option.some.inj ht
    omega

theorem Circulating.pass (h : Circulating latency x a s) (d : ℕ) :
    Circulating latency x a {s with now := s.now+d} := by
  refine ⟨h.running,h.behind,?_,h.hears,h.waits⟩
  cases h.token with
  | sent t hw ha ht heq => exact .sent t hw ha (by simp only; omega) heq
  | kept u hw ha hu heq => exact .kept u hw ha (by simp only; omega) heq

/-- A new timeout is long enough wherever the ping or pong is. -/
theorem Circulating.restart (h : Circulating latency x a s) (hl : latency < 14000) (y : Side) :
    Circulating latency x a (s.restartPingTimeoutTimer 40 y) := by
  have hsoon := h.token.soon
  have hpeer (z : Side) : ((s.restartPingTimeoutTimer 40 y).peer z).answers = (s.peer z).answers ∧
      ((s.restartPingTimeoutTimer 40 y).peer z).stopped = (s.peer z).stopped := by
    unfold Link.restartPingTimeoutTimer
    rw [set_peer]
    by_cases hz : z = y
    · subst hz
      rw [Function.update_self]
      exact ⟨rfl,rfl⟩
    · rw [Function.update_of_ne hz]
      exact ⟨rfl,rfl⟩
  have htimer (z : Side) (b : ℕ) (hb : b < s.now+1000*40)
      (hz : ∃ d, (s.peer z).pingTimeoutTimer = some d ∧ b < d) :
      ∃ d, ((s.restartPingTimeoutTimer 40 y).peer z).pingTimeoutTimer = some d ∧ b < d := by
    unfold Link.restartPingTimeoutTimer
    rw [set_peer]
    by_cases hy : z = y
    · subst hy
      rw [Function.update_self]
      exact ⟨_,rfl,hb⟩
    · rw [Function.update_of_ne hy]
      exact hz
  constructor
  · intro z
    rw [(hpeer z).2]
    exact h.running z
  · rw [(hpeer x).1]
    exact h.behind
  · cases h.token with
    | sent t hw ha ht heq => exact .sent t hw (by rw [(hpeer _).1, ha]) ht heq
    | kept u hw ha hu heq => exact .kept u hw (by rw [(hpeer _).1, ha]) hu heq
  · exact htimer x a (by omega) h.hears
  · exact htimer x.other _ (by omega) h.waits

/-- The side that hears the other is to answer next. -/
theorem Circulating.deliver (h : Circulating latency x a s) (hl : latency < 14000)
    (hnow : s.now ≤ a) (y : Side) : Alive latency (s.deliver resendCount y) := by
  rcases side_cases x y with rfl | rfl
  · cases h.token with
    | sent t hw ha ht heq =>
      have hheard : s.deliver resendCount y = (s.setWire y.other []).hear y := by
        simp only [Link.deliver, hw, Link.process, Link.setWire, h.running y, if_true,
          Bool.false_eq_true, if_false]
      rw [hheard]
      refine ⟨y.other,s.now+1000+latency,?_⟩
      have hself : ((s.setWire y.other []).hear y).peer y =
          ⟨some (s.now+1000*30),[s.now+1000],false⟩ := by
        simp only [Link.hear, set_peer, Function.update_self, Link.setWire, h.behind.2,
          h.running y, List.nil_append]
      have hother : ((s.setWire y.other []).hear y).peer y.other = s.peer y.other := by
        simp only [Link.hear, set_peer, Function.update_of_ne (other_ne y), Link.setWire]
      have hwire : ((s.setWire y.other []).hear y).wire y.other = [] := by
        simp only [Link.hear, Link.set, setWire_wire, Function.update_self]
      have hwire' : ((s.setWire y.other []).hear y).wire y = [] := by
        simp only [Link.hear, Link.set, setWire_wire, Function.update_of_ne (other_ne y).symm,
          h.behind.1]
      constructor
      · intro z
        rcases side_cases y z with rfl | rfl
        · rw [hself]
        · rw [hother]
          exact h.running _
      · rw [hother]
        exact ⟨hwire,ha⟩
      · apply Token.kept (s.now+1000)
        · rw [other_other, hwire']
        · rw [other_other, hself]
        · exact Nat.le_refl _
        · rfl
      · obtain ⟨d, hd, hlt⟩ := h.waits
        rw [hother]
        exact ⟨d,hd,by omega⟩
      · rw [other_other, hself]
        exact ⟨_,rfl,by omega⟩
    | kept u hw ha hu heq =>
      have hsame : s.deliver resendCount y = s := by simp only [Link.deliver, hw]
      rw [hsame]
      exact ⟨y,a,h⟩
  · have hsame : s.deliver resendCount x.other = s := by
      simp only [Link.deliver, other_other, h.behind.1]
    rw [hsame]
    exact ⟨x,a,h⟩

theorem Circulating.answer (h : Circulating latency x a s)
    (hs : (timed latency resendCount).Punctual s) (y : Side) (he : Enabled (.answer y) s) :
    Circulating latency x a (s.answer y) := by
  obtain ⟨u, rest, hu, hle⟩ := he
  rcases side_cases x y with rfl | rfl
  · rw [h.behind.2] at hu
    cases hu
  · cases h.token with
    | sent t hw ha ht heq =>
      rw [ha] at hu
      cases hu
    | kept v hw ha hv heq =>
      rw [ha] at hu
      obtain ⟨rfl, rfl⟩ := List.cons.inj hu
      have hnow : s.now ≤ v :=
        hs v (.answer x.other v (by rw [ha]; exact List.mem_singleton_self _))
      have hsent : s.answer x.other = (s.set x.other {s.peer x.other with answers := []}).setWire
          x.other [(s.now,x.other.answer)] := by
        simp only [Link.answer, h.running x.other, Bool.false_eq_true, if_false, ha, List.tail_cons,
          Link.send, Link.set, hw, List.nil_append]
      have hpeer : (s.answer x.other).peer =
          Function.update s.peer x.other {s.peer x.other with answers := []} := by
        rw [hsent]
        rfl
      have hwire : (s.answer x.other).wire =
          Function.update s.wire x.other [(s.now,x.other.answer)] := by
        rw [hsent]
        rfl
      constructor
      · intro z
        rw [hpeer]
        rcases side_cases x z with rfl | rfl
        · rw [Function.update_of_ne (other_ne z).symm]
          exact h.running z
        · rw [Function.update_self]
          exact h.running _
      · rw [hpeer, hwire, Function.update_of_ne (other_ne x).symm,
          Function.update_of_ne (other_ne x).symm]
        exact h.behind
      · apply Token.sent s.now
        · rw [hwire, Function.update_self]
        · rw [hpeer, Function.update_self]
        · rw [hsent]
          exact Nat.le_refl _
        · omega
      · rw [hpeer, Function.update_of_ne (other_ne x).symm]
        exact h.hears
      · rw [hpeer, Function.update_self]
        exact h.waits

theorem alive_act (hl : latency < 14000) (e : Act) (s : Link) (he : Lossless e s)
    (hs : (timed latency resendCount).Punctual s) (h : Alive latency s) :
    Alive latency (act resendCount e s) := by
  obtain ⟨x, a, h⟩ := h
  cases e with
  | connected y =>
    rw [act, h.running y]
    exact ⟨x,a,h.restart hl y⟩
  | deliver y => exact h.deliver hl (h.punctual hs) y
  | lose y => cases he
  | answer y => exact ⟨x,a,h.answer hs y he⟩
  | expire y => exact absurd he (h.not_due hs y)
  | stop y => cases he

theorem established_alive {left : Side → ℕ} (hl : latency < 14000)
    (hleft : ∀ y, 30000 ≤ left y) : Alive latency (established left) := by
  refine ⟨.controlled,latency,?_⟩
  constructor
  · exact fun _ => rfl
  · exact ⟨rfl,rfl⟩
  · exact .sent 0 rfl rfl (Nat.le_refl 0) (Nat.zero_add latency).symm
  · have hlong := hleft .controlled
    exact ⟨_,rfl,by omega⟩
  · have hlong := hleft .controller
    exact ⟨_,rfl,by simp only [Side.other]; omega⟩

theorem established_punctual (left : Side → ℕ) :
    (timed latency resendCount).Punctual (established left) := fun t _ => Nat.zero_le t

/-- A run with messages of fourteen seconds, at the end of which the host gives up. -/
def slow : List (Event Act) :=
  [.pass 14000, .act (.deliver .controlled), .pass 1000, .act (.answer .controlled),
    .pass 14000, .act (.deliver .controller), .pass 1000, .act (.answer .controller),
    .pass 14000, .act (.expire .controlled)]

theorem timely_pass {allowed : Act → Link → Prop} {d : ℕ}
    (htimer : ∀ x t, (s.peer x).pingTimeoutTimer = some t → s.now+d ≤ t)
    (hanswer : ∀ x, ∀ t ∈ (s.peer x).answers, s.now+d ≤ t)
    (hmessage : ∀ x, ∀ m ∈ s.wire x, s.now+d ≤ m.1+latency) :
    (timed latency resendCount).Timely allowed (.pass d) s := by
  rintro t (⟨x, t, h⟩ | ⟨x, t, h⟩ | ⟨x, m, h⟩)
  · exact htimer x t h
  · exact hanswer x t h
  · exact hmessage x m h

theorem side_forall {p : Side → Prop} : (∀ x, p x) ↔ p .controller ∧ p .controlled := by
  constructor
  · exact fun h => ⟨h .controller,h .controlled⟩
  · rintro ⟨hcontroller, hcontrolled⟩ x
    cases x <;> assumption

theorem slow_timely (hl : 14000 ≤ latency) :
    Meets (timed latency resendCount).step ((timed latency resendCount).Timely Lossless) slow
      (established fun _ => 30000) := by
  refine ⟨timely_pass ?_ ?_ ?_,trivial,timely_pass ?_ ?_ ?_,⟨_,_,rfl,?_⟩,
    timely_pass ?_ ?_ ?_,trivial,timely_pass ?_ ?_ ?_,⟨_,_,rfl,?_⟩,
    timely_pass ?_ ?_ ?_,⟨_,rfl,?_⟩,trivial⟩
  all_goals
    simp [side_forall, Timed.step, timed, act, established, Link.deliver, Link.process,
      Link.setWire, Link.set, Link.hear, Link.answer, Link.send, Side.other, Side.answer,
      Function.update_apply]
  all_goals omega

end Round

/-- Sessions whose messages are not lost and whose timeouts start with half a minute stay
alive whatever happens exactly when a message takes less than fourteen seconds. -/
theorem keeps_alive_iff (latency resendCount : ℕ) :
    (∀ left : Side → ℕ, (∀ y, 30000 ≤ left y) → ∀ es,
      Meets (timed latency resendCount).step ((timed latency resendCount).Timely Lossless) es
        (established left) →
      ∀ y, ((run (timed latency resendCount).step es (established left)).peer y).stopped = false) ↔
    latency < 14000 := by
  constructor
  · intro h
    by_contra hl
    have hrunning := h (fun _ => 30000) (fun _ => Nat.le_refl _) slow
      (slow_timely (Nat.le_of_not_lt hl)) .controlled
    cases hrunning
  · intro hl left hleft es hm y
    obtain ⟨x, a, h⟩ :
        Alive latency (run (timed latency resendCount).step es (established left)) := by
      apply Timed.timely_invariant _ _ es _ hm (established_punctual left)
        (established_alive hl hleft)
      · rintro d s - ⟨x, a, h⟩
        exact ⟨x,a,h.pass d⟩
      · exact fun e s he hs h => alive_act hl e s he hs h
    exact h.running y

end CloudPlay.PingRound
