import CloudPlay.SharedResource
import CloudPlay.StreamedManager
import CloudPlay.TransitionRun

/-!
# Counting the sessions that share a screen

The count of a screen is the number of its sessions, and its stream and the
display made for it are there while there is one. Starts that capture another
screen than they were asked for, forget a display in use, register a session
without settings or never return break this, and stops whose display the platform
does not remove.
-/

set_option autoImplicit false

namespace CloudPlay.SharedCapture
open KeyedTable NodeAgentService ControlPlaneSerializers HostDisplays StreamedManager
open SharedResource TransitionRun

def count (m : Manager) (k : ScreenId) : ℤ := (m.localVideoStreamsCount k).getD 0

theorem count_update {m m' : Manager} {k : ScreenId} {n : ℤ}
    (h : m'.localVideoStreamsCount = Function.update m.localVideoStreamsCount k (some n))
    (j : ScreenId) : count m' j = if j = k then n else count m j := by
  unfold count
  rw [h]
  by_cases hj : j = k
  · subst hj
    rw [if_pos rfl, Function.update_self]
    rfl
  · rw [if_neg hj, Function.update_of_ne hj]

/-- The number of registered sessions that stream the screen. -/
def streaming (m : Manager) (k : ScreenId) : ℕ := users Session.screen m.sessions.rows k

/-- What a stop of the registered session leaves. -/
structure Stops (m : Manager) (target : ConnectionId) (session : Session)
    (removeDisplay : Option Bool) (m' : Manager) : Prop where
  unregisters : m'.sessions.get? target = none
  last : ∃ k, session.screen = some k ∧ (streaming m k = 1 →
    (∀ v, m.localVideoStreams k = some v → v ∈ m'.stoppedStreams) ∧
      (removeDisplay = some true → ∀ d, (k,d) ∈ m.made → d ∉ m'.displays))
  others : ∀ other ∈ m.sessions, other.controller ≠ target → ∀ v, other.stream = some v →
    v ∉ m'.stoppedStreams

structure Counted (m : Manager) : Prop where
  counts : ∀ k, count m k = streaming m k
  present : ∀ k, (m.localVideoStreams k).isSome ↔ 0 < streaming m k
  stops : ∀ target session, m.sessions.get? target = some session → ∀ removeDisplay,
    Stops m target session removeDisplay (m.stopStreaming target removeDisplay)

/-- The state in which a start looks for the stream of its screen. -/
def opened (m : Manager) (host : Host) (settings : StreamedSettings) (k : ScreenId) :
    Option Manager :=
  if host.wantsDisplay settings then
    match host.displayFor settings with
    | .display d => some (m.recordDisplay k d)
    | _ => none
  else some m

/-- The start returns, forgets no display in use, and registers a session that
has settings and streams the screen asked for. -/
structure Sharable (m : Manager) (host : Host) (call : StreamCall) (k : ScreenId) : Prop where
  returns : host.wantsDisplay call.settings → ∀ d, host.displayFor call.settings ≠ .waiting d
  free : host.wantsDisplay call.settings → ∀ d, host.displayFor call.settings = .display d →
    ∀ d', (k,d') ∉ m.made
  accepted : ∀ m', opened m host call.settings k = some m' → ∀ j,
    m'.picture host call.settings k = .stream j → j = k ∧ ∃ device,
      host.thisDevice = some device ∧
        host.accepts device { call.settings with screenId := some j } = true

/-- The platform removes the display of a stop that has one to remove. -/
def Removable (m : Manager) (target : ConnectionId) (removeDisplay : Option Bool) : Prop :=
  ∀ session k d, m.sessions.get? target = some session → session.screen = some k →
    streaming m k = 1 → (k,d) ∈ m.made → removeDisplay = some true

section Hashing
variable (hash : String → String)

def Kept : Action → Manager → Prop
  | .startStreaming host call, m => ∀ k, Manager.admitted hash host call = some k →
      m.sessions.get? call.target.connectionId = none → Sharable m host call k
  | .stopStreaming target removeDisplay, m => Removable m target removeDisplay

end Hashing

structure Valid (m : Manager) : Prop where
  running : m.running = false
  balanced : Balanced (count m) (fun k => (m.localVideoStreams k).isSome) Session.screen
    m.sessions.rows
  streams : ∀ s ∈ m.sessions, ∃ k, s.screen = some k ∧ s.stream = m.localVideoStreams k
  fresh : ∀ k v, m.localVideoStreams k = some v → v < m.captures ∧ v ∉ m.stoppedStreams
  apart : ∀ j k v, m.localVideoStreams j = some v → m.localVideoStreams k = some v → j = k
  stopped : ∀ v ∈ m.stoppedStreams, v < m.captures
  made : ∀ k d, (k,d) ∈ m.made → m.virtualDisplayIds k = some d ∧ 0 < streaming m k

theorem valid_initial : Valid {} where
  running := rfl
  balanced := ⟨fun _ => rfl,fun _ => ⟨fun h => (Bool.false_ne_true h).elim,
    fun h => absurd h (Nat.lt_irrefl 0)⟩⟩
  streams := fun _ hs => (Table.not_mem_empty _ hs).elim
  fresh := fun _ _ h => by cases h
  apart := fun _ _ _ h => by cases h
  stopped := fun _ h => by cases h
  made := fun _ _ h => by cases h

section Displays
variable {m : Manager} {k : ScreenId} {d : DisplayId}

theorem Valid.addDisplay (hv : Valid m) : Valid (m.addDisplay d) :=
  ⟨hv.running,hv.balanced,hv.streams,hv.fresh,hv.apart,hv.stopped,hv.made⟩

theorem Valid.recordDisplay (hv : Valid m) (hfree : ∀ d', (k,d') ∉ m.made) :
    Valid (m.recordDisplay k d) :=
  { hv.addDisplay (d := d) with
    made := by
      intro j d' hm
      have hj : j ≠ k := fun h => hfree d' (h ▸ hm)
      refine ⟨?_,(hv.made j d' hm).2⟩
      show Function.update m.virtualDisplayIds k (some d) j = some d'
      rw [Function.update_of_ne hj]
      exact (hv.made j d' hm).1 }

theorem mem_dropDisplay_made {removeDisplay : Option Bool} {j : ScreenId} {d' : DisplayId} :
    (j,d') ∈ (m.dropDisplay k d removeDisplay).made ↔
      (j,d') ∈ m.made ∧ (removeDisplay = some true → d' ≠ d) := by
  show (j,d') ∈ (if removeDisplay = some true then m.made.filter (·.2 ≠ d) else m.made) ↔ _
  split
  · rename_i h
    simp [h]
  · rename_i h
    simp [h]

theorem not_mem_dropDisplay (m : Manager) (k : ScreenId) (d : DisplayId) :
    d ∉ (m.dropDisplay k d (some true)).displays := fun h =>
  of_decide_eq_true (List.mem_filter.mp h).2 rfl

theorem Valid.dropDisplay (hv : Valid m) (hfree : ∀ d', (k,d') ∉ m.made)
    (removeDisplay : Option Bool) : Valid (m.dropDisplay k d removeDisplay) :=
  { hv with
    made := by
      intro j d' hm
      obtain ⟨hmade, -⟩ := mem_dropDisplay_made.mp hm
      have hj : j ≠ k := by
        rintro rfl
        exact hfree d' hmade
      refine ⟨?_,(hv.made j d' hmade).2⟩
      show Function.update m.virtualDisplayIds k none j = some d'
      rw [Function.update_of_ne hj]
      exact (hv.made j d' hmade).1 }

end Displays

/-- What is left of a screen whose count is now `n`. -/
structure Released (m m' : Manager) (k : ScreenId) (n : ℤ) (removeDisplay : Option Bool) :
    Prop where
  sessions : m'.sessions = m.sessions
  counts : m'.localVideoStreamsCount = Function.update m.localVideoStreamsCount k (some n)
  streams : ∀ j, m'.localVideoStreams j = if j = k ∧ n = 0 then none else m.localVideoStreams j
  stopped : ∀ v, v ∈ m'.stoppedStreams ↔
    v ∈ m.stoppedStreams ∨ (n = 0 ∧ m.localVideoStreams k = some v)
  captures : m'.captures = m.captures
  running : m'.running = m.running
  ids : ∀ j, (j = k → n ≠ 0) → m'.virtualDisplayIds j = m.virtualDisplayIds j
  made : ∀ j d, (j,d) ∈ m'.made →
    (j,d) ∈ m.made ∧ (n = 0 → removeDisplay = some true → m.virtualDisplayIds k ≠ some d)
  displays : n = 0 → removeDisplay = some true →
    ∀ d, m.virtualDisplayIds k = some d → d ∉ m'.displays

theorem release_spec (m : Manager) (k : ScreenId) (n : ℤ) (removeDisplay : Option Bool) :
    Released m (m.release k n removeDisplay) k n removeDisplay := by
  unfold Manager.release Manager.removeRecorded
  by_cases hn : n = 0
  · subst hn
    have hstreams : ∀ j, Function.update m.localVideoStreams k none j =
        if j = k ∧ (0 : ℤ) = 0 then none else m.localVideoStreams j := by
      intro j
      by_cases hj : j = k
      · subst hj
        rw [Function.update_self, if_pos ⟨rfl,rfl⟩]
      · rw [Function.update_of_ne hj, if_neg (fun h => hj h.1)]
    have hstopped : ∀ v, v ∈ (m.localVideoStreams k).toList ++ m.stoppedStreams ↔
        v ∈ m.stoppedStreams ∨ ((0 : ℤ) = 0 ∧ m.localVideoStreams k = some v) := by
      intro v
      rw [List.mem_append, Option.mem_toList, or_comm, eq_self, true_and]
    rw [if_pos rfl]
    split
    · rename_i hnone
      have hid : m.virtualDisplayIds k = none := hnone
      exact ⟨rfl,rfl,hstreams,hstopped,rfl,rfl,fun j _ => rfl,
        fun j d hm => ⟨hm,fun _ _ h => Option.some_ne_none d (h.symm.trans hid)⟩,
        fun _ _ d h => absurd (h.symm.trans hid) (Option.some_ne_none d)⟩
    · rename_i d' hsome
      have hid : m.virtualDisplayIds k = some d' := hsome
      refine ⟨rfl,rfl,hstreams,hstopped,rfl,rfl,fun j hj => ?_,fun j d hm => ?_,?_⟩
      · exact Function.update_of_ne (fun h => hj h rfl) _ _
      · obtain ⟨hmade, hne⟩ := mem_dropDisplay_made.mp hm
        exact ⟨hmade,fun _ hremoved h => hne hremoved (Option.some.inj (h.symm.trans hid))⟩
      · rintro - rfl d h hd
        obtain rfl := Option.some.inj (h.symm.trans hid)
        exact not_mem_dropDisplay _ k d hd
  · rw [if_neg hn]
    exact ⟨rfl,rfl,fun j => (if_neg (fun h => hn h.2)).symm,
      fun v => ⟨Or.inl,fun h => h.resolve_right (fun h => hn h.1)⟩,rfl,rfl,fun _ _ => rfl,
      fun j d hm => ⟨hm,fun h => absurd h hn⟩,fun h => absurd h hn⟩

section Stopping
variable {m : Manager} {target : ConnectionId} {session : Session} {k : ScreenId}
variable (removeDisplay : Option Bool)

theorem Valid.count_some (hv : Valid m) (hs : session ∈ m.sessions)
    (hk : session.screen = some k) : m.localVideoStreamsCount k = some (streaming m k : ℤ) := by
  have hpos : 0 < streaming m k := users_pos_iff.mpr ⟨session,hs,hk⟩
  have hcount := hv.balanced.counts k
  unfold count at hcount
  cases hn : m.localVideoStreamsCount k with
  | none =>
    rw [hn] at hcount
    have hzero : ((users Session.screen m.sessions.rows k : ℕ) : ℤ) = 0 := hcount.symm
    unfold streaming at hpos
    omega
  | some n =>
    rw [hn] at hcount
    exact congrArg some hcount

theorem stop_eq (hv : Valid m) (hs : m.sessions.get? target = some session)
    (hk : session.screen = some k) :
    m.stopStreaming target removeDisplay =
      ((m.removeSession target).release k ((streaming m k : ℤ)-1)
        removeDisplay).setCurrentStreamedState := by
  have hcount := hv.count_some (Table.get?_mem hs) hk
  unfold Manager.stopStreaming
  rw [if_neg (by rw [hv.running]; exact Bool.false_ne_true)]
  simp only [hs, hk, hcount]

/-- The stop of a registered session in a valid state, field by field. -/
theorem stop_released (hv : Valid m) (hs : m.sessions.get? target = some session)
    (hk : session.screen = some k) :
    Released (m.removeSession target) (m.stopStreaming target removeDisplay) k
      ((streaming m k : ℤ)-1) removeDisplay := by
  rw [stop_eq removeDisplay hv hs hk]
  exact { release_spec (m.removeSession target) k _ removeDisplay with }

theorem stop_balanced (hv : Valid m) (hs : m.sessions.get? target = some session)
    (hk : session.screen = some k) :
    Balanced (count (m.stopStreaming target removeDisplay))
      (fun j => ((m.stopStreaming target removeDisplay).localVideoStreams j).isSome) Session.screen
      (m.stopStreaming target removeDisplay).sessions.rows := by
  have hnow : count m k = streaming m k := hv.balanced.counts k
  have hr := stop_released removeDisplay hv hs hk
  refine hv.balanced.release (k := k) (u := session) ?_ hk ?_ ?_
  · rw [hr.sessions]
    exact Table.perm_filter_ne hs
  · intro j
    rw [count_update hr.counts, hnow]
    rfl
  · intro j
    rw [hr.streams, hnow]
    split
    · rename_i hlast
      exact ⟨fun h => (Bool.false_ne_true h).elim,fun h => absurd hlast h.2⟩
    · rename_i hlast
      exact ⟨fun h => ⟨h,hlast⟩,fun h => h.1⟩

/-- The other sessions stream another screen, or theirs keeps its stream. -/
theorem stop_keeps (hv : Valid m) (hs : m.sessions.get? target = some session)
    (hk : session.screen = some k) {other : Session} (ho : other ∈ m.sessions)
    (hne : other.controller ≠ target) {j : ScreenId} (hj : other.screen = some j) :
    ¬ (j = k ∧ (streaming m k : ℤ)-1 = 0) := by
  rintro ⟨rfl, hlast⟩
  rw [← show count m j = streaming m j from hv.balanced.counts j] at hlast
  have heq : other = session := hv.balanced.last (Table.get?_mem hs) hk hlast ho hj
  rw [heq] at hne
  exact hne (Table.get?_key hs)

theorem stop_valid (hv : Valid m) (hs : m.sessions.get? target = some session)
    (hk : session.screen = some k) (hremovable : Removable m target removeDisplay) :
    Valid (m.stopStreaming target removeDisplay) := by
  have hr := stop_released removeDisplay hv hs hk
  have hstream : ∀ j v, (m.stopStreaming target removeDisplay).localVideoStreams j = some v →
      m.localVideoStreams j = some v ∧ ¬ (j = k ∧ (streaming m k : ℤ)-1 = 0) := by
    intro j v hj
    rw [hr.streams] at hj
    split at hj
    · cases hj
    · exact ⟨hj,by assumption⟩
  refine ⟨hr.running.trans hv.running,stop_balanced removeDisplay hv hs hk,?_,?_,?_,?_,?_⟩
  · intro other ho
    rw [hr.sessions] at ho
    obtain ⟨ho, hne⟩ := (Table.mem_filter _ _ _).mp ho
    obtain ⟨j, hj, hstr⟩ := hv.streams other ho
    refine ⟨j,hj,?_⟩
    rw [hr.streams, if_neg (stop_keeps hv hs hk ho (of_decide_eq_true hne) hj)]
    exact hstr
  · intro j v hj
    obtain ⟨hv', hkeep⟩ := hstream j v hj
    refine ⟨by rw [hr.captures]; exact (hv.fresh j v hv').1,fun hstop => ?_⟩
    rcases (hr.stopped v).mp hstop with hstop | ⟨hlast, hsame⟩
    · exact (hv.fresh j v hv').2 hstop
    · exact hkeep ⟨hv.apart j k v hv' hsame,hlast⟩
  · intro i j v hi hj
    exact hv.apart i j v (hstream i v hi).1 (hstream j v hj).1
  · intro v hstop
    rw [hr.captures]
    rcases (hr.stopped v).mp hstop with hstop | ⟨-, hsame⟩
    · exact hv.stopped v hstop
    · exact (hv.fresh k v hsame).1
  · intro j d hm
    obtain ⟨hmade, hgone⟩ := hr.made j d hm
    obtain ⟨hid, hpos⟩ := hv.made j d hmade
    have hkeep : j = k → (streaming m k : ℤ)-1 ≠ 0 := by
      rintro rfl hlast
      exact hgone hlast (hremovable session j d hs hk (by omega) hmade) hid
    refine ⟨(hr.ids j hkeep).trans hid,((stop_balanced removeDisplay hv hs hk).present j).mp ?_⟩
    rw [hr.streams, if_neg (fun h => hkeep h.1 h.2)]
    exact (hv.balanced.present j).mpr hpos

/-- A stop of a registered session does what it should. -/
theorem Valid.stops (hv : Valid m) (hs : m.sessions.get? target = some session) :
    Stops m target session removeDisplay (m.stopStreaming target removeDisplay) := by
  obtain ⟨k, hk, -⟩ := hv.streams session (Table.get?_mem hs)
  have hr := stop_released removeDisplay hv hs hk
  refine ⟨?_,⟨k,hk,fun hone => ?_⟩,fun other ho hne v hv' hstop => ?_⟩
  · rw [hr.sessions]
    exact (Table.get?_eq_none _ _).mpr fun s h =>
      of_decide_eq_true ((Table.mem_filter _ _ _).mp h).2
  · have hlast : (streaming m k : ℤ)-1 = 0 := by omega
    exact ⟨fun v hv' => (hr.stopped v).mpr (Or.inr ⟨hlast,hv'⟩),
      fun hremoved d hd => hr.displays hlast hremoved d (hv.made k d hd).1⟩
  · obtain ⟨j, hj, hstr⟩ := hv.streams other ho
    have hnow : m.localVideoStreams j = some v := hstr.symm.trans hv'
    rcases (hr.stopped v).mp hstop with hstop | ⟨hlast, hsame⟩
    · exact (hv.fresh j v hnow).2 hstop
    · exact stop_keeps hv hs hk ho hne hj ⟨hv.apart j k v hnow hsame,hlast⟩

theorem Valid.counted (hv : Valid m) : Counted m :=
  ⟨hv.balanced.counts,hv.balanced.present,fun _ _ hs removeDisplay => hv.stops removeDisplay hs⟩

end Stopping

section Starting
variable {m m' : Manager} {host : Host} {call : StreamCall} {k : ScreenId}
variable {display : Option DisplayId} {device : ConnectionId}

/-- The screen has one more session to come, with its stream or a new one. -/
structure Taken (m m' : Manager) (k : ScreenId) : Prop where
  sessions : m'.sessions = m.sessions
  counts : ∀ j, count m' j = if j = k then count m k+1 else count m j
  streams : m'.localVideoStreams = m.localVideoStreams ∧ m'.captures = m.captures ∧
      (m.localVideoStreams k).isSome ∨
    m'.localVideoStreams = Function.update m.localVideoStreams k (some m.captures) ∧
      m'.captures = m.captures+1 ∧ m.localVideoStreams k = none
  stopped : m'.stoppedStreams = m.stoppedStreams
  running : m'.running = m.running
  ids : m'.virtualDisplayIds = m.virtualDisplayIds
  made : m'.made = m.made

theorem taken_shared (hk : (m.localVideoStreams k).isSome) {n : ℤ}
    (hn : m.localVideoStreamsCount k = some n) : Taken m (m.setCount k (n+1)) k where
  sessions := rfl
  counts := by
    intro j
    have hcount : count m k = n := by rw [count, hn]; rfl
    rw [hcount]
    exact count_update rfl j
  streams := Or.inl ⟨rfl,rfl,hk⟩
  stopped := rfl
  running := rfl
  ids := rfl
  made := rfl

theorem taken_new (hv : Valid m) (hk : m.localVideoStreams k = none) :
    Taken m (m.addStream k) k where
  sessions := rfl
  counts := by
    intro j
    have hzero : ¬ 0 < streaming m k := fun h => by
      have hsome := (hv.balanced.present k).mpr h
      rw [hk] at hsome
      cases hsome
    have hcount : count m k = streaming m k := hv.balanced.counts k
    rw [hcount, Nat.eq_zero_of_not_pos hzero]
    exact count_update rfl j
  streams := Or.inr ⟨rfl,rfl,hk⟩
  stopped := rfl
  running := rfl
  ids := rfl
  made := rfl

theorem Taken.kept (ht : Taken m m' k) {j : ScreenId} {v : StreamId}
    (h : m.localVideoStreams j = some v) : m'.localVideoStreams j = some v := by
  rcases ht.streams with ⟨hstr, -⟩ | ⟨hstr, -, hnone⟩
  · rw [hstr]
    exact h
  · have hj : j ≠ k := by
      rintro rfl
      exact Option.some_ne_none v (h.symm.trans hnone)
    rw [hstr, Function.update_of_ne hj]
    exact h

theorem Taken.found (ht : Taken m m' k) {j : ScreenId} {v : StreamId}
    (h : m'.localVideoStreams j = some v) :
    m.localVideoStreams j = some v ∨ (j = k ∧ v = m.captures ∧ v < m'.captures) := by
  rcases ht.streams with ⟨hstr, -⟩ | ⟨hstr, hc, -⟩
  · rw [hstr] at h
    exact Or.inl h
  · rw [hstr] at h
    by_cases hj : j = k
    · subst hj
      rw [Function.update_self] at h
      have hv := (Option.some.inj h).symm
      exact Or.inr ⟨rfl,hv,by rw [hv, hc]; exact Nat.lt_succ_self _⟩
    · rw [Function.update_of_ne hj] at h
      exact Or.inl h

theorem Taken.isSome_iff (ht : Taken m m' k) (j : ScreenId) :
    (m'.localVideoStreams j).isSome ↔ j = k ∨ (m.localVideoStreams j).isSome := by
  rcases ht.streams with ⟨hstr, -, hk⟩ | ⟨hstr, -, -⟩
  · rw [hstr]
    exact ⟨Or.inr,fun h => h.elim (fun h => h ▸ hk) id⟩
  · rw [hstr]
    by_cases hj : j = k
    · subst hj
      rw [Function.update_self]
      exact ⟨fun _ => Or.inl rfl,fun _ => rfl⟩
    · rw [Function.update_of_ne hj]
      exact ⟨Or.inr,fun h => h.resolve_left hj⟩

theorem Taken.captures_le (ht : Taken m m' k) : m.captures ≤ m'.captures := by
  rcases ht.streams with ⟨-, hc, -⟩ | ⟨-, hc, -⟩ <;> omega

/-- The session that a start registers. -/
def newSession (m : Manager) (host : Host) (device : ConnectionId) (call : StreamCall)
    (k : ScreenId) : Session :=
  let settings := { call.settings with screenId := some k }
  { controller := call.target.connectionId
    streamSettings := if host.accepts device settings then some settings else none
    stream := m.localVideoStreams k
    cursorImageHookID := m.cursorImageHookID+1
    cursorPositionUpdatedHookID := m.cursorPositionUpdatedHookID+1 }

theorem register_rows (hfree : m.sessions.get? call.target.connectionId = none) :
    (m.register host device call k display).sessions.rows =
      m.sessions.rows ++ [newSession m host device call k] := by
  have hinsert : m.sessions.insert? (newSession m host device call k) =
      some (m.sessions.insert (newSession m host device call k) hfree) := dif_pos hfree
  show ((m.sessions.insert? (newSession m host device call k)).getD m.sessions).rows = _
  rw [hinsert]
  rfl

theorem register_valid (hv : Valid m) (ht : Taken m m' k)
    (hfree : m.sessions.get? call.target.connectionId = none)
    (haccept : host.accepts device { call.settings with screenId := some k } = true)
    (hdisplay : ∀ d, display = some d → m.virtualDisplayIds k = some d) :
    Valid (m'.register host device call k display) := by
  have hrows : (m'.register host device call k display).sessions.rows =
      m.sessions.rows ++ [newSession m' host device call k] := by
    rw [register_rows (by rw [ht.sessions]; exact hfree), ht.sessions]
  have hscreen : (newSession m' host device call k).screen = some k := by
    simp [newSession, Session.screen, haccept]
  have hbalanced : Balanced (count (m'.register host device call k display))
      (fun j => ((m'.register host device call k display).localVideoStreams j).isSome)
      Session.screen (m'.register host device call k display).sessions.rows := by
    refine hv.balanced.acquire (k := k) ?_ hscreen ht.counts ht.isSome_iff
    rw [hrows]
    exact List.perm_append_singleton _ _
  have hle := ht.captures_le
  refine ⟨ht.running.trans hv.running,hbalanced,?_,?_,?_,?_,?_⟩
  · intro s hs
    rw [Table.mem_rows, hrows, List.mem_append, List.mem_singleton] at hs
    rcases hs with hs | rfl
    · obtain ⟨j, hj, hstr⟩ := hv.streams s hs
      have hsome : (m.localVideoStreams j).isSome :=
        (hv.balanced.present j).mpr (users_pos_iff.mpr ⟨s,hs,hj⟩)
      obtain ⟨v, hv'⟩ := Option.isSome_iff_exists.mp hsome
      exact ⟨j,hj,hstr.trans (hv'.trans (ht.kept hv').symm)⟩
    · exact ⟨k,hscreen,rfl⟩
  · intro j v hj
    show v < m'.captures ∧ v ∉ m'.stoppedStreams
    rw [ht.stopped]
    rcases ht.found hj with hold | ⟨-, hnew, hlt⟩
    · exact ⟨lt_of_lt_of_le (hv.fresh j v hold).1 hle,(hv.fresh j v hold).2⟩
    · exact ⟨hlt,fun hstop => (hv.stopped v hstop).ne hnew⟩
  · intro i j v hi hj
    rcases ht.found hi with hold | ⟨rfl, hnew, -⟩ <;>
      rcases ht.found hj with hold' | ⟨rfl, hnew', -⟩
    · exact hv.apart i j v hold hold'
    · exact absurd hnew' (hv.fresh i v hold).1.ne
    · exact absurd hnew (hv.fresh j v hold').1.ne
    · rfl
  · intro v hstop
    show v < m'.captures
    exact lt_of_lt_of_le (hv.stopped v (ht.stopped ▸ hstop)) hle
  · intro j d hm
    have hsome : m'.virtualDisplayIds j = some d ∧ (m'.localVideoStreams j).isSome := by
      rw [ht.ids, ht.isSome_iff]
      rcases List.mem_append.mp hm with hm | hm
      · obtain ⟨d', hd', heq⟩ := Option.map_eq_some_iff.mp (Option.mem_toList.mp hm)
        obtain ⟨rfl, rfl⟩ := Prod.mk.inj heq
        exact ⟨hdisplay d' hd',Or.inl rfl⟩
      · obtain ⟨hid, hpos⟩ := hv.made j d (ht.made ▸ hm)
        exact ⟨hid,Or.inr ((hv.balanced.present j).mpr hpos)⟩
    exact ⟨hsome.1,(hbalanced.present j).mp hsome.2⟩

/-- A new session is registered, or nothing but a display goes. -/
theorem share_cases (hv : Valid m) (hfree : m.sessions.get? call.target.connectionId = none)
    (hpicture : ∀ j, m.picture host call.settings k = .stream j → j = k ∧ ∃ device,
      host.thisDevice = some device ∧
        host.accepts device { call.settings with screenId := some j } = true)
    (hdisplay : ∀ d, display = some d → m.virtualDisplayIds k = some d) :
    ((m.share host call k display).sessionCreated = true ∧
      Valid (m.share host call k display).manager) ∨
    ((m.share host call k display).sessionCreated = false ∧
      ((m.share host call k display).manager = m ∨
        (isVirtualDisplayMode call.settings = true ∧
          ∃ d, (m.share host call k display).manager =
            m.dropDisplay k d host.removeDisplay))) := by
  have haccept : ∀ m', Taken m m' k → m.picture host call.settings k = .stream k →
      (m'.accept host call k display).sessionCreated = true ∧
        Valid (m'.accept host call k display).manager := by
    intro m' ht hp
    obtain ⟨-, device, hdevice, hok⟩ := hpicture k hp
    unfold Manager.accept
    rw [hdevice]
    exact ⟨rfl,register_valid hv ht hfree hok hdisplay⟩
  unfold Manager.share
  split
  · rename_i hk
    have hp : m.picture host call.settings k = .stream k := if_pos hk
    split
    · exact Or.inr ⟨rfl,Or.inl rfl⟩
    · rename_i n hn
      exact Or.inl (haccept _ (taken_shared hk hn) hp)
  · rename_i hk
    have hnone : m.localVideoStreams k = none := by simpa using hk
    have hp : m.picture host call.settings k =
        host.capture call.settings k (m.virtualDisplayIds 0) := if_neg hk
    split
    · exact Or.inr ⟨rfl,Or.inl rfl⟩
    · rename_i hout
      split
      · exact Or.inr ⟨rfl,Or.inl rfl⟩
      · rename_i d _
        exact Or.inr ⟨rfl,Or.inr ⟨capture_timedOut hout,d,rfl⟩⟩
    · rename_i j hj
      obtain ⟨rfl, -⟩ := hpicture j (hp.trans hj)
      exact Or.inl (haccept _ (taken_new hv hnone) (hp.trans hj))

theorem share_valid (hv : Valid m) (hfree : m.sessions.get? call.target.connectionId = none)
    (hpicture : ∀ j, m.picture host call.settings k = .stream j → j = k ∧ ∃ device,
      host.thisDevice = some device ∧
        host.accepts device { call.settings with screenId := some j } = true)
    (hdisplay : ∀ d, display = some d → m.virtualDisplayIds k = some d)
    (hmade : ∀ d, (k,d) ∉ m.made) :
    Valid (m.share host call k display).manager ∧
      ((m.share host call k display).sessionCreated = false →
        ∀ d, (k,d) ∉ (m.share host call k display).manager.made) := by
  rcases share_cases hv hfree hpicture hdisplay with ⟨hc, hvalid⟩ | ⟨hc, hsame | ⟨-, d, hdrop⟩⟩
  · exact ⟨hvalid,fun h => absurd (hc.symm.trans h) Bool.noConfusion⟩
  · rw [hsame]
    exact ⟨hv,fun _ => hmade⟩
  · rw [hdrop]
    exact ⟨hv.dropDisplay hmade _,fun _ d' h => hmade d' (mem_dropDisplay_made.mp h).1⟩

theorem launch_valid (hv : Valid m) (hfree : m.sessions.get? call.target.connectionId = none)
    (hs : Sharable m host call k) : Valid (m.launch host call k) := by
  unfold Manager.launch
  split
  · rename_i hwants
    split
    · rename_i d hd
      exact absurd hd (hs.returns hwants d)
    · exact hv
    · exact hv.addDisplay
    · rename_i d hd
      have hmade := hs.free hwants d hd
      have hopened : opened m host call.settings k = some (m.recordDisplay k d) := by
        unfold opened
        rw [if_pos hwants, hd]
      have hid : (m.recordDisplay k d).virtualDisplayIds k = some d := Function.update_self _ _ _
      have hdisplay : ∀ d', some d = some d' →
          (m.recordDisplay k d).virtualDisplayIds k = some d' := fun d' h => hid.trans h
      obtain ⟨hvalid, hfalse⟩ := share_valid (hv.recordDisplay hmade) hfree
        (hs.accepted _ hopened) hdisplay hmade
      split
      · exact hvalid
      · unfold Manager.cleanup
        split
        · exact hvalid
        · rename_i hc
          exact hvalid.dropDisplay (hfalse (Bool.eq_false_iff.mpr hc)) _
  · rename_i hwants
    have hopened : opened m host call.settings k = some m := if_neg hwants
    have hdisplay : ∀ d, (none : Option DisplayId) = some d → m.virtualDisplayIds k = some d :=
      fun d h => by cases h
    rcases share_cases hv hfree (hs.accepted m hopened) hdisplay with
      ⟨-, hvalid⟩ | ⟨-, hsame | ⟨hmode, -⟩⟩
    · exact hvalid
    · rw [hsame]
      exact hv
    · exact absurd (decide_eq_true (Or.inl hmode)) hwants

end Starting

section Hashing
variable (hash : String → String)

theorem step_valid (action : Action) (m : Manager) (hg : Kept hash action m) (hv : Valid m) :
    Valid (step hash action m) := by
  cases action with
  | startStreaming host call =>
    simp only [step, Manager.startStreaming]
    split
    · exact hv
    · rename_i k hk
      rw [if_neg (by rw [hv.running]; exact Bool.false_ne_true)]
      split
      · exact hv
      · rename_i hfree
        have hnone := Option.not_isSome_iff_eq_none.mp hfree
        exact launch_valid hv hnone (hg k hk hnone)
  | stopStreaming target removeDisplay =>
    cases hs : m.sessions.get? target with
    | none =>
      have hsame : step hash (.stopStreaming target removeDisplay) m =
          m.setCurrentStreamedState := by
        simp only [step, Manager.stopStreaming, hs]
        exact if_neg (by rw [hv.running]; exact Bool.false_ne_true)
      rw [hsame]
      exact { hv with }
    | some session =>
      obtain ⟨k, hk, -⟩ := hv.streams session (Table.get?_mem hs)
      exact stop_valid removeDisplay hv hs hk hg

end Hashing

def agent : NodeAgent :=
  { isHeadless := true, enabled := true, connectable := true, connectPasswordHash := "pw" }

/-- A host that lists two screens, then one. -/
def host : Host :=
  { agent := agent
    thisDevice := some "node"
    websocketSessionid := some "node"
    sources := fun i => if i = 0 then some 2 else some 1 }

def viewer (c : ConnectionId) (mode : ℤ) (screen : ScreenId) : StreamCall where
  target := ⟨7,"ann",c,"Web","browser",true,1⟩
  settings := ⟨some 60,none,none,none,none,some screen,none,none,some "pw",none,none,some mode,
    none,none⟩

/-- One viewer of the first screen, and one of a display of their own. -/
def extended : List Action :=
  [.startStreaming host (viewer "a" 0 0),.startStreaming host (viewer "b" vdsiplayExtend 1),
    .stopStreaming "a",.stopStreaming "b"]

/-- The second viewer asks for screen 1 for itself and gets screen 0. -/
def exclusive : List Action :=
  [.startStreaming host (viewer "a" 0 0),.startStreaming host (viewer "b" vdisplayOccupy 1)]

/-- Two displays are made for one screen. -/
def twice : List Action :=
  [.startStreaming { host with createDisplay := some 4 } (viewer "a" vdsiplayExtend 1),
    .startStreaming { host with createDisplay := some 5 } (viewer "b" vdsiplayExtend 1),
    .stopStreaming "a"]

/-- The session is made for a connection the device no longer has. -/
def reconnected : List Action :=
  [.startStreaming { host with websocketSessionid := some "next" } (viewer "a" 0 0)]

/-- The platform does not remove the display of the session. -/
def refused : List Action := [.startStreaming host (viewer "b" vdsiplayExtend 1)]

end CloudPlay.SharedCapture
