import CloudPlay.SharedCapture

/-!
# What a failed start leaves behind

Only the wait for a new display and the default mode clean up, and both only
bring back a screen that had no display recorded before, on a platform that
removes the display. A start that fails
anywhere else after it made a display leaves the display, and one that fails
with its picture leaves the count.
-/

set_option autoImplicit false

namespace CloudPlay.FailedStarts
open KeyedTable NodeAgentService ControlPlaneSerializers HostDisplays StreamedManager
open SharedCapture TransitionRun

/-- The virtual display made on the way. -/
def displayMade : Created → Option DisplayId
  | .display d => some d
  | .null made => made
  | .waiting d => some d

/-- Nothing is left of a call that made this display. -/
structure Untouched (m m' : Manager) (made : Option DisplayId) : Prop where
  sessions : m'.sessions = m.sessions
  streams : m'.localVideoStreams = m.localVideoStreams
  counts : m'.localVideoStreamsCount = m.localVideoStreamsCount
  ids : m'.virtualDisplayIds = m.virtualDisplayIds
  displays : ∀ d ∈ made, d ∉ m'.displays

section Hashing
variable (hash : String → String)

/-- The screen of a start that is let in and is not there yet. -/
def entering (m : Manager) (host : Host) (call : StreamCall) : Option ScreenId :=
  if (m.sessions.get? call.target.connectionId).isSome then none
  else Manager.admitted hash host call

/-- The virtual display the call created. -/
def created (m : Manager) (host : Host) (call : StreamCall) : Option DisplayId :=
  if (entering hash m host call).isSome ∧ host.wantsDisplay call.settings then
    displayMade (host.displayFor call.settings)
  else none

/-- The call comes to its end. -/
def Returns (m : Manager) (host : Host) (call : StreamCall) : Prop :=
  Manager.admitted hash host call = none ∨
    m.running = false ∧ (m.startStreaming hash host call).running = false

/-- A start that makes no display gets no picture. One that makes a display has
none recorded for the screen, waits for it in vain or, in the default mode,
gets no picture of it, and the platform removes it. -/
def CleanEnd (m : Manager) (host : Host) (settings : StreamedSettings) (k : ScreenId) : Prop :=
  if host.wantsDisplay settings then
    displayMade (host.displayFor settings) = none ∨
      ∃ d, host.displayFor settings = .display d ∧ m.virtualDisplayIds k = none ∧
        host.removeDisplay = some true ∧ ((m.recordDisplay k d).picture host settings k = .timedOut ∨
          isVirtualDisplayMode settings = false ∧
            (m.recordDisplay k d).picture host settings k = .failed)
  else ∀ j, m.picture host settings k ≠ .stream j

def Clean (m : Manager) (host : Host) (call : StreamCall) : Prop :=
  ∀ k, entering hash m host call = some k → CleanEnd m host call.settings k

end Hashing

/-- A stream has a count, and the next stream is a new one. -/
structure Tracked (m : Manager) : Prop where
  counted : ∀ k, (m.localVideoStreams k).isSome → (m.localVideoStreamsCount k).isSome
  fresh : ∀ k v, m.localVideoStreams k = some v → v < m.captures

section Tracking
variable {m m' : Manager} {host : Host} {call : StreamCall} {k : ScreenId}
variable {display : Option DisplayId}

theorem Tracked.congr (ht : Tracked m) (hs : m'.localVideoStreams = m.localVideoStreams)
    (hc : m'.localVideoStreamsCount = m.localVideoStreamsCount)
    (hn : m'.captures = m.captures) : Tracked m' where
  counted := by
    rw [hs, hc]
    exact ht.counted
  fresh := by
    rw [hs, hn]
    exact ht.fresh

theorem Tracked.setCount (ht : Tracked m) (n : ℤ) : Tracked (m.setCount k n) where
  counted := by
    intro j hj
    by_cases hjk : j = k
    · subst hjk
      exact Option.isSome_iff_exists.mpr ⟨n,Function.update_self _ _ _⟩
    · show (Function.update m.localVideoStreamsCount k (some n) j).isSome = true
      rw [Function.update_of_ne hjk]
      exact ht.counted j hj
  fresh := ht.fresh

theorem Tracked.addStream (ht : Tracked m) : Tracked (m.addStream k) where
  counted := by
    intro j hj
    by_cases hjk : j = k
    · subst hjk
      exact Option.isSome_iff_exists.mpr ⟨1,Function.update_self _ _ _⟩
    · have hold : (Function.update m.localVideoStreams k (some m.captures) j).isSome = true := hj
      rw [Function.update_of_ne hjk] at hold
      show (Function.update m.localVideoStreamsCount k (some 1) j).isSome = true
      rw [Function.update_of_ne hjk]
      exact ht.counted j hold
  fresh := by
    intro j v hj
    have hnew : Function.update m.localVideoStreams k (some m.captures) j = some v := hj
    by_cases hjk : j = k
    · subst hjk
      rw [Function.update_self] at hnew
      rw [← Option.some.inj hnew]
      exact Nat.lt_succ_self _
    · rw [Function.update_of_ne hjk] at hnew
      exact (ht.fresh j v hnew).trans (Nat.lt_succ_self _)

theorem Tracked.release (ht : Tracked m) (n : ℤ) (removeDisplay : Option Bool) :
    Tracked (m.release k n removeDisplay) := by
  have hr := release_spec m k n removeDisplay
  have hold : ∀ j v, (m.release k n removeDisplay).localVideoStreams j = some v →
      m.localVideoStreams j = some v := by
    intro j v hj
    rw [hr.streams] at hj
    split at hj
    · cases hj
    · exact hj
  refine ⟨fun j hj => ?_,fun j v hj => ?_⟩
  · obtain ⟨v, hv⟩ := Option.isSome_iff_exists.mp hj
    have hset := (ht.setCount (k := k) n).counted j (Option.isSome_iff_exists.mpr ⟨v,hold j v hv⟩)
    rw [hr.counts]
    exact hset
  · rw [hr.captures]
    exact ht.fresh j v (hold j v hj)

theorem Tracked.accept (ht : Tracked m) : Tracked (m.accept host call k display).manager := by
  unfold Manager.accept
  split
  · exact ht
  · exact ht.congr rfl rfl rfl

theorem Tracked.share (ht : Tracked m) : Tracked (m.share host call k display).manager := by
  unfold Manager.share
  split
  · split
    · exact ht
    · exact (ht.setCount _).accept
  · split
    · exact ht
    · split
      · exact ht
      · exact ht.congr rfl rfl rfl
    · exact ht.addStream.accept

theorem Tracked.launch (ht : Tracked m) : Tracked (m.launch host call k) := by
  unfold Manager.launch
  split
  · split
    · exact ht.congr rfl rfl rfl
    · exact ht
    · exact ht.congr rfl rfl rfl
    · rename_i d _
      have hrecord : Tracked (m.recordDisplay k d) := ht.congr rfl rfl rfl
      split
      · exact hrecord.share
      · unfold Manager.cleanup
        split
        · exact hrecord.share
        · exact hrecord.share.congr rfl rfl rfl
  · exact ht.share

theorem step_tracked (hash : String → String) (action : Action) (m : Manager) (ht : Tracked m) :
    Tracked (step hash action m) := by
  cases action with
  | startStreaming host call =>
    simp only [step, Manager.startStreaming]
    split
    · exact ht
    · split
      · exact ht
      · split
        · exact ht
        · exact ht.launch
  | stopStreaming target removeDisplay =>
    simp only [step, Manager.stopStreaming]
    split
    · exact ht
    · split
      · exact ht.congr rfl rfl rfl
      · split
        · exact ht
        · split
          · exact ht.congr rfl rfl rfl
          · rename_i n _
            have hout : Tracked (m.removeSession target) := ht.congr rfl rfl rfl
            exact (hout.release (n-1) removeDisplay).congr rfl rfl rfl

theorem tracked_initial : Tracked {} where
  counted := fun _ h => absurd h Bool.false_ne_true
  fresh := fun _ v h => absurd h.symm (Option.some_ne_none v)

theorem reachable_tracked {hash : String → String} (h : Reachable (step hash) {} m) : Tracked m :=
  reachable_invariant (step hash) (step_tracked hash)
    tracked_initial h

end Tracking

section Ends
variable {m : Manager} {host : Host} {call : StreamCall} {k : ScreenId}
variable {display : Option DisplayId}

def SameStreams (m m' : Manager) : Prop :=
  m'.localVideoStreams = m.localVideoStreams ∧
    m'.localVideoStreamsCount = m.localVideoStreamsCount

theorem accept_cases {m' : Manager} (hsessions : m'.sessions = m.sessions)
    (hfree : m.sessions.get? call.target.connectionId = none) (hne : ¬ SameStreams m m') :
    (m'.accept host call k display).sessionCreated = true ∧
      (m'.accept host call k display).manager.sessions ≠ m.sessions ∨
    (m'.accept host call k display).sessionCreated = false ∧
      ¬ SameStreams m (m'.accept host call k display).manager := by
  unfold Manager.accept
  split
  · exact Or.inr ⟨rfl,hne⟩
  · rename_i device _
    refine Or.inl ⟨rfl,fun heq => ?_⟩
    have hrows : (m'.register host device call k display).sessions.rows =
        m'.sessions.rows ++ [newSession m' host device call k] := by
      refine register_rows ?_
      rw [hsessions]
      exact hfree
    rw [show (m'.register host device call k display).sessions = m.sessions from heq,
      hsessions] at hrows
    exact absurd (congrArg List.length hrows) (by simp)

/-- With a picture the session is registered, or the count or the stream of a
screen is another. -/
theorem share_stream (display : Option DisplayId) (ht : Tracked m)
    (hfree : m.sessions.get? call.target.connectionId = none)
    {j : ScreenId} (hp : m.picture host call.settings k = .stream j) :
    (m.share host call k display).sessionCreated = true ∧
      (m.share host call k display).manager.sessions ≠ m.sessions ∨
    (m.share host call k display).sessionCreated = false ∧
      ¬ SameStreams m (m.share host call k display).manager := by
  unfold Manager.picture at hp
  unfold Manager.share
  split
  · rename_i hk
    obtain ⟨n, hn⟩ := Option.isSome_iff_exists.mp (ht.counted k hk)
    simp only [hn]
    have hsessions : (m.setCount k (n+1)).sessions = m.sessions := rfl
    refine accept_cases hsessions hfree fun h => ?_
    have hcount := congrFun h.2 k
    rw [show (m.setCount k (n+1)).localVideoStreamsCount k = some (n+1) from
      Function.update_self _ _ _, hn] at hcount
    have hsame := Option.some.inj hcount
    omega
  · rename_i hk
    rw [if_neg hk] at hp
    rw [hp]
    have hsessions : (m.addStream j).sessions = m.sessions := rfl
    refine accept_cases hsessions hfree fun h => ?_
    have hstream := congrFun h.1 j
    rw [show (m.addStream j).localVideoStreams j = some m.captures from
      Function.update_self _ _ _] at hstream
    exact absurd (ht.fresh j _ hstream.symm) (Nat.lt_irrefl _)

theorem share_timedOut (hp : m.picture host call.settings k = .timedOut) {d : DisplayId}
    (hid : m.virtualDisplayIds k = some d) :
    m.share host call k display = ⟨m.dropDisplay k d host.removeDisplay,false⟩ := by
  unfold Manager.picture at hp
  unfold Manager.share
  split
  · rename_i hk
    rw [if_pos hk] at hp
    cases hp
  · rename_i hk
    rw [if_neg hk] at hp
    simp only [hp, hid]

theorem share_failed (hp : m.picture host call.settings k = .failed) :
    m.share host call k display = ⟨m,false⟩ := by
  unfold Manager.picture at hp
  unfold Manager.share
  split
  · rename_i hk
    rw [if_pos hk] at hp
    cases hp
  · rename_i hk
    rw [if_neg hk] at hp
    simp only [hp]

theorem recordDisplay_dropDisplay_ids (d : DisplayId) (removeDisplay : Option Bool) :
    ((m.recordDisplay k d).dropDisplay k d removeDisplay).virtualDisplayIds =
      Function.update m.virtualDisplayIds k none := Function.update_idem _ _ _

/-- A display that is made and dropped is gone if the platform removes it, and with it what
was recorded before. -/
theorem dropped_untouched (m : Manager) (k : ScreenId) (d : DisplayId)
    (removeDisplay : Option Bool) :
    Untouched m ((m.recordDisplay k d).dropDisplay k d removeDisplay) (some d) ↔
      m.virtualDisplayIds k = none ∧ removeDisplay = some true := by
  have hids := recordDisplay_dropDisplay_ids (m := m) (k := k) d removeDisplay
  constructor
  · intro h
    refine ⟨by rw [← h.ids, hids, Function.update_self],?_⟩
    by_contra hrefused
    refine h.displays d rfl ?_
    show d ∈ if removeDisplay = some true then _ else d::m.displays
    rw [if_neg hrefused]
    exact List.mem_cons_self
  · rintro ⟨hnone, rfl⟩
    refine ⟨rfl,rfl,rfl,?_,fun d' hd' => ?_⟩
    · rw [hids, ← hnone, Function.update_eq_self]
    · obtain rfl := Option.some.inj hd'
      exact not_mem_dropDisplay _ k d

theorem dropDisplay_again (d : DisplayId) (removeDisplay : Option Bool) :
    (m.dropDisplay k d removeDisplay).dropDisplay k d removeDisplay =
      m.dropDisplay k d removeDisplay := by
  by_cases h : removeDisplay = some true
  · simp only [Manager.dropDisplay, Manager.removeVirtualDisplay, h, if_true, List.filter_filter,
      Bool.and_self, Function.update_idem]
  · simp only [Manager.dropDisplay, Manager.removeVirtualDisplay, h, if_false, Function.update_idem]

/-- What the end of an attempt leaves that made a display. -/
theorem opened_clean (ht : Tracked m) (hfree : m.sessions.get? call.target.connectionId = none)
    {d : DisplayId} {m' : Manager}
    (hm' : m' = if isVirtualDisplayMode call.settings then
        ((m.recordDisplay k d).share host call k (some d)).manager
      else Manager.cleanup ((m.recordDisplay k d).share host call k (some d)) host k d)
    (hsessions : m'.sessions = m.sessions) :
    Untouched m m' (some d) ↔ m.virtualDisplayIds k = none ∧ host.removeDisplay = some true ∧
      ((m.recordDisplay k d).picture host call.settings k = .timedOut ∨
        isVirtualDisplayMode call.settings = false ∧
          (m.recordDisplay k d).picture host call.settings k = .failed) := by
  have hid : (m.recordDisplay k d).virtualDisplayIds k = some d := Function.update_self _ _ _
  have hrecord : Tracked (m.recordDisplay k d) := ht.congr rfl rfl rfl
  have hdrop := dropped_untouched m k d host.removeDisplay
  subst hm'
  cases hp : (m.recordDisplay k d).picture host call.settings k with
  | stream j =>
    refine iff_of_false (fun h => ?_) (fun h => by simp at h)
    rcases share_stream (some d) hrecord hfree hp with ⟨hc, hne⟩ | ⟨hc, hne⟩
    · refine hne (Eq.trans ?_ hsessions)
      unfold Manager.cleanup
      rw [if_pos hc, ite_self]
    · refine hne (And.imp (Eq.trans ?_) (Eq.trans ?_) ⟨h.streams,h.counts⟩) <;>
      · unfold Manager.cleanup
        rw [hc]
        split <;> rfl
  | timedOut =>
    rw [share_timedOut hp hid] at hsessions ⊢
    simp only [true_or, and_true]
    split
    · exact hdrop
    · have hsame : Manager.cleanup
          ⟨(m.recordDisplay k d).dropDisplay k d host.removeDisplay,false⟩ host k d =
          ((m.recordDisplay k d).dropDisplay k d host.removeDisplay).dropDisplay k d
            host.removeDisplay := rfl
      rw [hsame, dropDisplay_again]
      exact hdrop
  | failed =>
    rw [share_failed hp] at hsessions ⊢
    split
    · rename_i hmode
      refine iff_of_false (fun h => ?_) (fun h => by simp [hmode] at h)
      exact h.displays d rfl List.mem_cons_self
    · rename_i hmode
      have hsame : Manager.cleanup ⟨m.recordDisplay k d,false⟩ host k d =
          (m.recordDisplay k d).dropDisplay k d host.removeDisplay := rfl
      rw [hsame, hdrop]
      simp [Bool.eq_false_iff.mpr hmode]

theorem launch_clean (ht : Tracked m) (hfree : m.sessions.get? call.target.connectionId = none)
    (hret : (m.launch host call k).running = false)
    (hsessions : (m.launch host call k).sessions = m.sessions) :
    Untouched m (m.launch host call k)
        (if host.wantsDisplay call.settings then displayMade (host.displayFor call.settings)
          else none) ↔
      CleanEnd m host call.settings k := by
  unfold CleanEnd
  split
  · rename_i hwants
    cases hd : host.displayFor call.settings with
    | display d =>
      have hlaunch : m.launch host call k = if isVirtualDisplayMode call.settings then
          ((m.recordDisplay k d).share host call k (some d)).manager
        else Manager.cleanup ((m.recordDisplay k d).share host call k (some d)) host k d := by
        simp only [Manager.launch, hwants, if_true, hd]
      rw [show displayMade (.display d) = some d from rfl, opened_clean ht hfree hlaunch hsessions]
      simp
    | null made =>
      cases made with
      | none =>
        have hlaunch : m.launch host call k = m := by
          simp only [Manager.launch, hwants, if_true, hd]
        rw [hlaunch]
        exact iff_of_true ⟨rfl,rfl,rfl,rfl,fun d h => by cases h⟩ (Or.inl rfl)
      | some d =>
        have hlaunch : m.launch host call k = m.addDisplay d := by
          simp only [Manager.launch, hwants, if_true, hd]
        rw [hlaunch]
        exact iff_of_false (fun h => h.displays d rfl List.mem_cons_self)
          (fun h => by simp [displayMade] at h)
    | waiting d =>
      have hlaunch : (m.launch host call k).running = true := by
        simp only [Manager.launch, hwants, if_true, hd]
      rw [hlaunch] at hret
      cases hret
  · rename_i hwants
    have hlaunch : m.launch host call k = (m.share host call k none).manager := by
      simp only [Manager.launch, hwants, if_false, Bool.false_eq_true]
    rw [hlaunch] at hsessions ⊢
    cases hp : m.picture host call.settings k with
    | stream j =>
      refine iff_of_false (fun h => ?_) (fun h => h j rfl)
      rcases share_stream none ht hfree hp with ⟨-, hne⟩ | ⟨-, hne⟩
      · exact hne hsessions
      · exact hne ⟨h.streams,h.counts⟩
    | timedOut =>
      have hmode : isVirtualDisplayMode call.settings = true := by
        unfold Manager.picture at hp
        split at hp
        · cases hp
        · exact capture_timedOut hp
      exact absurd (decide_eq_true (Or.inl hmode)) hwants
    | failed =>
      rw [share_failed hp]
      exact iff_of_true ⟨rfl,rfl,rfl,rfl,fun d h => by cases h⟩ (fun j h => by cases h)

end Ends

/-- A start that comes to its end and registers no session leaves nothing
behind exactly when it ends where the code cleans up. -/
theorem failed_start_untouched (hash : String → String) (m : Manager)
    (hm : Reachable (step hash) {} m) (host : Host) (call : StreamCall)
    (hret : Returns hash m host call)
    (hsessions : (m.startStreaming hash host call).sessions = m.sessions) :
    Untouched m (m.startStreaming hash host call) (created hash m host call) ↔
      Clean hash m host call := by
  have hidle : entering hash m host call = none → Untouched m m (created hash m host call) ∧
      Clean hash m host call := by
    intro h
    refine ⟨⟨rfl,rfl,rfl,rfl,fun d hd => ?_⟩,fun k hk => ?_⟩
    · simp [created, h] at hd
    · rw [h] at hk
      cases hk
  cases hk : Manager.admitted hash host call with
  | none =>
    have hstart : m.startStreaming hash host call = m := by
      unfold Manager.startStreaming
      rw [hk]
    have hnone : entering hash m host call = none := by
      unfold entering
      rw [hk, ite_self]
    rw [hstart]
    exact iff_of_true (hidle hnone).1 (hidle hnone).2
  | some k =>
    obtain ⟨hrun, hend⟩ : m.running = false ∧ (m.startStreaming hash host call).running = false :=
      hret.resolve_left (by rw [hk]; exact Option.some_ne_none k)
    have hidle' : ¬ m.running = true := by rw [hrun]; exact Bool.false_ne_true
    by_cases hfree : (m.sessions.get? call.target.connectionId).isSome
    · have hstart : m.startStreaming hash host call = m := by
        unfold Manager.startStreaming
        rw [hk]
        exact (if_neg hidle').trans (if_pos hfree)
      have hnone : entering hash m host call = none := if_pos hfree
      rw [hstart]
      exact iff_of_true (hidle hnone).1 (hidle hnone).2
    · have hstart : m.startStreaming hash host call = m.launch host call k := by
        unfold Manager.startStreaming
        rw [hk]
        exact (if_neg hidle').trans (if_neg hfree)
      have hin : entering hash m host call = some k := (if_neg hfree).trans hk
      have hcreated : created hash m host call =
          if host.wantsDisplay call.settings then displayMade (host.displayFor call.settings)
          else none := by
        simp [created, hin]
      rw [hstart] at hend hsessions ⊢
      rw [hcreated, launch_clean (reachable_tracked hm) (Option.not_isSome_iff_eq_none.mp hfree)
        hend hsessions]
      unfold Clean
      rw [hin]
      exact ⟨fun h j hj => Option.some.inj hj ▸ h,fun h => h k rfl⟩

/-- The display of the start never gets to the list of screens. -/
def unlisted : Host := { host with sources := fun _ => some 1 }

theorem unlisted_untouched : Untouched {} (Manager.startStreaming id {} unlisted
    (viewer "b" vdsiplayExtend 1)) (created id {} unlisted (viewer "b" vdsiplayExtend 1)) :=
  (failed_start_untouched id {} ⟨[],rfl⟩ unlisted _ (Or.inr ⟨rfl,rfl⟩) rfl).mpr fun _ hk =>
    Option.some.inj hk ▸ (show CleanEnd {} unlisted (viewer "b" vdsiplayExtend 1).settings 1 from
      Or.inr ⟨0,rfl,rfl,rfl,Or.inl rfl⟩)

/-- The screens cannot be listed after the display was made. -/
theorem display_left : ¬ Untouched {} (Manager.startStreaming id {}
      { host with sources := fun _ => none } (viewer "b" vdsiplayExtend 1))
    (created id {} { host with sources := fun _ => none } (viewer "b" vdsiplayExtend 1)) :=
  fun h => h.displays 0 rfl (by decide)

end CloudPlay.FailedStarts
