import CloudPlay.SharedResource
import CloudPlay.SystemAudio
import CloudPlay.TransitionRun

/-!
# Counting the sessions that hear the system

The count is the number of current audio sessions with a sender, and the stream is
there while there is one. This needs a start to add one track, to come to its end
before its session asks again or stops, and not to overlap with another capture or
with the end of the last sender.
-/

set_option autoImplicit false

namespace CloudPlay.SharedAudio
open KeyedTable SystemAudio SharedResource TransitionRun

/-- A live audio session that holds a sender uses the stream. -/
def hears (a : AudioSession) : Option Unit := if a.current ∧ a.audioSender then some () else none

def holders (h : Host) : ℕ := users hears h.audioSessions.rows ()

instance (h : Host) (p : AudioSession → Prop) [DecidablePred p] :
    Decidable (∀ a ∈ h.audioSessions, p a) :=
  inferInstanceAs (Decidable (∀ a ∈ h.audioSessions.rows, p a))

/-- No start is in progress. -/
def Quiet (h : Host) : Prop := ∀ a ∈ h.audioSessions, a.start = .over

instance (h : Host) : Decidable (Quiet h) :=
  inferInstanceAs (Decidable (∀ a ∈ h.audioSessions, a.start = .over))

structure Counted (h : Host) : Prop where
  counts : h.audioSenderCount = holders h
  nonneg : 0 ≤ h.audioSenderCount
  present : h.localAudioStream.isSome ↔ 0 < h.audioSenderCount
  released : ∀ i < h.captures, i ∈ h.stoppedStreams ↔ ∀ s, h.localAudioStream = some s → s.id ≠ i

/-- A session asks when it has no audio session that starts or holds a sender, and
for the first stream when nobody else starts. It stops with its start over, a sender
and the connection it was made on, and the last holder when nobody starts. The
system's stream has one track, and a start that fails later leaves other holders. -/
def Kept : Event → Host → Prop
  | .connect session _, h =>
      (∀ a ∈ h.audioSessions, a.session = session → a.current = true →
        a.start = .over ∧ a.audioSender = false) ∧ (h.localAudioStream = none → Quiet h)
  | .captured _ tracks, _ => tracks = 1
  | .failed id, h => ∀ a ∈ h.audioSessions.get? id, a.start = .connecting → 0 < holders h
  | .connected _, _ => True
  | .trackAdded _, _ => True
  | .trackFailed id, h => ∀ a ∈ h.audioSessions.get? id, a.start = .over ∨ 0 < holders h
  | .stop session, h => ∀ a ∈ h.audioSessions, a.session = session → a.current = true →
      a.start = .over ∧ a.audioSender = true ∧ a.controlled = h.websocketSessionid ∧
        (holders h = 1 → Quiet h)
  | .connectionInfo _, _ => True

instance : (e : Event) → (h : Host) → Decidable (Kept e h)
  | .connect _ _, _ => inferInstanceAs (Decidable (_ ∧ _))
  | .captured _ _, _ => inferInstanceAs (Decidable (_ = 1))
  | .failed id, h => inferInstanceAs (Decidable (∀ a ∈ h.audioSessions.get? id, _))
  | .connected _, _ => inferInstanceAs (Decidable True)
  | .trackAdded _, _ => inferInstanceAs (Decidable True)
  | .trackFailed id, h => inferInstanceAs (Decidable (∀ a ∈ h.audioSessions.get? id, _))
  | .stop _, h => inferInstanceAs (Decidable (∀ a ∈ h.audioSessions, _))
  | .connectionInfo _, _ => inferInstanceAs (Decidable True)

/-- Nothing is captured: at most one start waits for the capture. -/
structure Idle (h : Host) : Prop where
  none : holders h = 0
  waiting : ∀ a ∈ h.audioSessions, a.start = .over ∨ a.start = .capturing
  one : ∀ a ∈ h.audioSessions, ∀ b ∈ h.audioSessions, a.start ≠ .over → b.start ≠ .over → a = b

structure Shared (h : Host) (s : MediaStream) : Prop where
  tracks : s.tracks = 1
  id : s.id < h.captures
  waiting : ∀ a ∈ h.audioSessions, a.start = .over ∨ a.start = .connecting ∨ a.start = .adding 1
  used : 0 < holders h ∨ ∃ a ∈ h.audioSessions, a.start ≠ .over

structure Valid (h : Host) : Prop where
  counts : h.audioSenderCount = holders h
  starting : ∀ a ∈ h.audioSessions, a.start ≠ .over → a.current = true ∧ a.audioSender = false
  idle : h.localAudioStream = none → Idle h
  shared : ∀ s, h.localAudioStream = some s → Shared h s
  released : ∀ i < h.captures, i ∈ h.stoppedStreams ↔ ∀ s, h.localAudioStream = some s → s.id ≠ i
  stopped : ∀ i ∈ h.stoppedStreams, i < h.captures
  fresh : ∀ a ∈ h.audioSessions, a.id < h.created

theorem valid_initial (id : String) : Valid { websocketSessionid := id } where
  counts := rfl
  starting := fun _ ha => (Table.not_mem_empty _ ha).elim
  idle := fun _ => ⟨rfl,fun _ ha => (Table.not_mem_empty _ ha).elim,
    fun _ ha => (Table.not_mem_empty _ ha).elim⟩
  shared := fun _ hs => nomatch hs
  released := fun _ hi => absurd hi (Nat.not_lt_zero _)
  stopped := fun _ hi => nomatch hi
  fresh := fun _ ha => (Table.not_mem_empty _ ha).elim

/-- In a state without starts the invariant says what is asked for. -/
theorem Valid.counted {h : Host} (hv : Valid h) (hquiet : Quiet h) : Counted h where
  counts := hv.counts
  nonneg := by
    rw [hv.counts]
    exact Int.natCast_nonneg _
  present := by
    rw [hv.counts, Int.natCast_pos]
    cases hs : h.localAudioStream with
    | none => simp [(hv.idle hs).none]
    | some s =>
      have hused := (hv.shared s hs).used.resolve_right fun ⟨a, ha, hstart⟩ => hstart (hquiet a ha)
      exact iff_of_true rfl hused
  released := hv.released

section Rows
variable {h : Host} {a b : AudioSession} {id : AudioId} {f : AudioSession → AudioSession}

theorem mem_change (hf : ∀ a, (f a).id = a.id) (ha : h.audioSessions.get? id = some a) :
    b ∈ (h.change id f hf).audioSessions ↔ b = f a ∨ b ∈ h.audioSessions ∧ b.id ≠ id := by
  have hkey := Table.get?_key ha
  rw [Host.change, Table.mem_modify]
  constructor
  · rintro ⟨q, hq, rfl⟩
    by_cases hid : q.id = id
    · rw [if_pos hid, h.audioSessions.key_injective hq (Table.get?_mem ha) (hid.trans hkey.symm)]
      exact Or.inl rfl
    · rw [if_neg hid]
      exact Or.inr ⟨hq,hid⟩
  · rintro (rfl | ⟨hb, hid⟩)
    · exact ⟨a,Table.get?_mem ha,if_pos hkey⟩
    · exact ⟨b,hb,if_neg hid⟩

theorem change_perm (hf : ∀ a, (f a).id = a.id) (ha : h.audioSessions.get? id = some a) :
    (h.change id f hf).audioSessions.rows.Perm
      (f a::(h.audioSessions.filter (fun q => q.id ≠ id)).rows) := by
  have hkept : (h.audioSessions.filter (fun q => q.id ≠ id)).rows.map
      (fun q => if q.id = id then f q else q) =
        (h.audioSessions.filter (fun q => q.id ≠ id)).rows := by
    apply map_eq_self_iff.mpr
    intro q hq
    have hne : q.id ≠ id := by simpa using ((h.audioSessions.mem_filter _ q).mp hq).2
    exact if_neg hne
  have hmapped := (Table.perm_filter_ne ha).map (fun q => if q.id = id then f q else q)
  rw [List.map_cons, if_pos (Table.get?_key ha), hkept] at hmapped
  exact hmapped

/-- The others hold what they held. -/
theorem holders_change (hf : ∀ a, (f a).id = a.id) (ha : h.audioSessions.get? id = some a) :
    holders (h.change id f hf)+(if hears a = some () then 1 else 0) =
      holders h+(if hears (f a) = some () then 1 else 0) := by
  have hold : holders h = _ := users_perm (Table.perm_filter_ne ha) ()
  have hchanged : holders (h.change id f hf) = _ := users_perm (change_perm hf ha) ()
  rw [users_cons] at hold hchanged
  omega

theorem holders_goOn (start : Start) (ha : h.audioSessions.get? id = some a) :
    holders (h.goOn id start) = holders h := by
  have hsame : hears { a with start := start } = hears a := rfl
  have hchange := holders_change (f := fun a => { a with start := start }) (fun _ => rfl) ha
  rw [hsame] at hchange
  exact Nat.add_right_cancel hchange

theorem mem_goOn {start : Start} (ha : h.audioSessions.get? id = some a) :
    b ∈ (h.goOn id start).audioSessions ↔
      b = { a with start := start } ∨ b ∈ h.audioSessions ∧ b.id ≠ id :=
  mem_change (f := fun a => { a with start := start }) (fun _ => rfl) ha

end Rows

section Steps
variable {h : Host} {a : AudioSession}

/-- A start that goes on is of a current audio session without a sender. -/
theorem Valid.starting_goOn {id : AudioId} {start : Start} (hv : Valid h)
    (ha : h.audioSessions.get? id = some a) (hrun : a.start ≠ .over) :
    ∀ b ∈ (h.goOn id start).audioSessions, b.start ≠ .over →
      b.current = true ∧ b.audioSender = false := by
  intro b hb hstart
  rcases (mem_goOn ha).mp hb with rfl | ⟨hold, -⟩
  · exact hv.starting a (Table.get?_mem ha) hrun
  · exact hv.starting b hold hstart

theorem Valid.fresh_goOn {id : AudioId} {start : Start} (hv : Valid h)
    (ha : h.audioSessions.get? id = some a) :
    ∀ b ∈ (h.goOn id start).audioSessions, b.id < h.created := by
  intro b hb
  rcases (mem_goOn ha).mp hb with rfl | ⟨hold, -⟩
  · exact hv.fresh a (Table.get?_mem ha)
  · exact hv.fresh b hold

/-- A start may end without a sender where the stream has another holder. -/
theorem Valid.goOn_over {id : AudioId} (hv : Valid h) (ha : h.audioSessions.get? id = some a)
    (hrun : a.start ≠ .over) (hleft : ∀ s, h.localAudioStream = some s → 0 < holders h) :
    Valid (h.goOn id .over) where
  counts := by
    rw [holders_goOn _ ha]
    exact hv.counts
  starting := hv.starting_goOn ha hrun
  idle := by
    intro hs
    have hidle := hv.idle hs
    refine ⟨(holders_goOn _ ha).trans hidle.none,fun b hb => ?_,fun b hb c hc hbs hcs => ?_⟩
    · rcases (mem_goOn ha).mp hb with rfl | ⟨hold, -⟩
      · exact Or.inl rfl
      · exact hidle.waiting b hold
    · rcases (mem_goOn ha).mp hb with rfl | ⟨hbold, -⟩
      · exact absurd rfl hbs
      · rcases (mem_goOn ha).mp hc with rfl | ⟨hcold, -⟩
        · exact absurd rfl hcs
        · exact hidle.one b hbold c hcold hbs hcs
  shared := by
    intro s hs
    have hshared := hv.shared s hs
    refine ⟨hshared.tracks,hshared.id,fun b hb => ?_,Or.inl ?_⟩
    · rcases (mem_goOn ha).mp hb with rfl | ⟨hold, -⟩
      · exact Or.inl rfl
      · exact hshared.waiting b hold
    · rw [holders_goOn _ ha]
      exact hleft s hs
  released := hv.released
  stopped := hv.stopped
  fresh := hv.fresh_goOn ha

/-- The stream is there, and a start that connects or adds its track uses it. -/
theorem Valid.goOn_stream {id : AudioId} {start : Start} (hv : Valid h)
    (ha : h.audioSessions.get? id = some a) (hrun : a.start ≠ .over)
    (hstart : start = .connecting ∨ start = .adding 1) {s : MediaStream}
    (hs : h.localAudioStream = some s) : Valid (h.goOn id start) where
  counts := by
    rw [holders_goOn _ ha]
    exact hv.counts
  starting := hv.starting_goOn ha hrun
  idle := by
    intro hnone
    cases hs.symm.trans hnone
  shared := by
    intro s' hs'
    have hshared := hv.shared s' hs'
    refine ⟨hshared.tracks,hshared.id,fun b hb => ?_,Or.inr ⟨_,(mem_goOn ha).mpr (Or.inl rfl),?_⟩⟩
    · rcases (mem_goOn ha).mp hb with rfl | ⟨hold, -⟩
      · exact Or.inr hstart
      · exact hshared.waiting b hold
    · rcases hstart with rfl | rfl <;> exact fun h => nomatch h
  released := hv.released
  stopped := hv.stopped
  fresh := hv.fresh_goOn ha

theorem hears_iff : hears a = some () ↔ a.current = true ∧ a.audioSender = true := by
  unfold hears
  split <;> simp [*]

theorem Valid.capturing {id : AudioId} (hv : Valid h) (ha : h.audioSessions.get? id = some a)
    (hstart : a.start = .capturing) : h.localAudioStream = none := by
  cases hs : h.localAudioStream with
  | none => rfl
  | some s =>
    have hwaiting := (hv.shared s hs).waiting a (Table.get?_mem ha)
    rw [hstart] at hwaiting
    rcases hwaiting with hover | hconnect | hadd
    · cases hover
    · cases hconnect
    · cases hadd

theorem Valid.connecting {id : AudioId} (hv : Valid h) (ha : h.audioSessions.get? id = some a)
    (hstart : a.start = .connecting) : ∃ s, h.localAudioStream = some s := by
  cases hs : h.localAudioStream with
  | none =>
    have hwaiting := (hv.idle hs).waiting a (Table.get?_mem ha)
    rw [hstart] at hwaiting
    rcases hwaiting with hover | hcapture
    · cases hover
    · cases hcapture
  | some s => exact ⟨s,rfl⟩

theorem Valid.adding {id : AudioId} {n : ℕ} (hv : Valid h) (ha : h.audioSessions.get? id = some a)
    (hstart : a.start = .adding n) : n = 1 ∧ ∃ s, h.localAudioStream = some s := by
  cases hs : h.localAudioStream with
  | none =>
    have hwaiting := (hv.idle hs).waiting a (Table.get?_mem ha)
    rw [hstart] at hwaiting
    rcases hwaiting with hover | hcapture
    · cases hover
    · cases hcapture
  | some s =>
    have hwaiting := (hv.shared s hs).waiting a (Table.get?_mem ha)
    rw [hstart] at hwaiting
    rcases hwaiting with hover | hconnect | hadd
    · cases hover
    · cases hconnect
    · exact ⟨Start.adding.inj hadd,s,rfl⟩

/-- The capture was awaited by the only start, and nothing was captured before. -/
theorem Valid.captured {id : AudioId} (hv : Valid h) (ha : h.audioSessions.get? id = some a)
    (hstart : a.start = .capturing) : Valid { h.goOn id .connecting with
      localAudioStream := some ⟨h.captures,1⟩
      captures := h.captures+1 } := by
  have hrun : a.start ≠ .over := by
    rw [hstart]
    exact fun h => nomatch h
  have hmem := Table.get?_mem ha
  have hnone := hv.capturing ha hstart
  have hidle := hv.idle hnone
  exact {
    counts := by
      show h.audioSenderCount = (holders (h.goOn id .connecting) : ℤ)
      rw [holders_goOn _ ha]
      exact hv.counts
    starting := hv.starting_goOn ha hrun
    idle := fun hs => nomatch hs
    shared := by
      intro s hs
      obtain rfl := Option.some.inj hs
      refine ⟨rfl,Nat.lt_succ_self _,fun b hb => ?_,Or.inr ⟨_,(mem_goOn ha).mpr (Or.inl rfl),?_⟩⟩
      · rcases (mem_goOn ha).mp hb with rfl | ⟨hold, hne⟩
        · exact Or.inr (Or.inl rfl)
        · by_contra hwaits
          rw [not_or] at hwaits
          have hsame := hidle.one b hold a hmem hwaits.1 hrun
          exact hne (hsame ▸ Table.get?_key ha)
      · exact fun h => nomatch h
    released := by
      intro i hi
      rcases Nat.lt_succ_iff_lt_or_eq.mp hi with hlt | rfl
      · refine iff_of_true ((hv.released i hlt).mpr ?_) ?_
        · rw [hnone]
          exact fun _ hs => nomatch hs
        · intro s hs
          obtain rfl := Option.some.inj hs
          exact Nat.ne_of_gt hlt
      · refine iff_of_false (fun hstop => absurd (hv.stopped _ hstop) (Nat.lt_irrefl _)) ?_
        exact fun hne => hne _ rfl rfl
    stopped := fun i hi => Nat.lt_succ_of_lt (hv.stopped i hi)
    fresh := hv.fresh_goOn ha }

/-- The only track of a start is added to the stream. -/
theorem Valid.trackAdded {id : AudioId} (hv : Valid h) (ha : h.audioSessions.get? id = some a)
    {n : ℕ} (hstart : a.start = .adding n) :
    Valid { h.withSender id n with audioSenderCount := h.audioSenderCount+1 } := by
  have hmem := Table.get?_mem ha
  obtain ⟨rfl, s, hs⟩ := hv.adding ha hstart
  obtain ⟨hcurrent, hsender⟩ := hv.starting a hmem (by rw [hstart]; exact fun h => nomatch h)
  have hadded : holders (h.withSender id 1) = holders h+1 := by
    have hsilent : hears a ≠ some () := by
      rw [Ne, hears_iff, hsender]
      exact fun h => nomatch h.2
    have hhears : hears (a.trackAdded 1) = some () := hears_iff.mpr ⟨hcurrent,rfl⟩
    have hchange := holders_change (AudioSession.trackAdded_id 1) ha
    rw [if_neg hsilent, if_pos hhears] at hchange
    exact hchange
  have hrows : ∀ b ∈ (h.withSender id 1).audioSessions,
      b = a.trackAdded 1 ∨ b ∈ h.audioSessions := fun b hb =>
    ((mem_change (AudioSession.trackAdded_id 1) ha).mp hb).imp_right And.left
  exact {
    counts := by
      have hcount := hv.counts
      show h.audioSenderCount+1 = (holders (h.withSender id 1) : ℤ)
      omega
    starting := by
      intro b hb hrun
      rcases hrows b hb with rfl | hold
      · exact absurd rfl hrun
      · exact hv.starting b hold hrun
    idle := by
      intro hnone
      cases hs.symm.trans hnone
    shared := by
      intro s' hs'
      have hshared := hv.shared s' hs'
      refine ⟨hshared.tracks,hshared.id,fun b hb => ?_,Or.inl ?_⟩
      · rcases hrows b hb with rfl | hold
        · exact Or.inl rfl
        · exact hshared.waiting b hold
      · show 0 < holders (h.withSender id 1)
        omega
    released := hv.released
    stopped := hv.stopped
    fresh := by
      intro b hb
      rcases hrows b hb with rfl | hold
      · exact hv.fresh a hmem
      · exact hv.fresh b hold }

/-- What the disposal of a holder leaves in the table. -/
structure Disposed (h : Host) (a : AudioSession) : Prop where
  holders : holders (h.withDisposed a.id)+1 = holders h
  starting : ∀ b ∈ (h.withDisposed a.id).audioSessions, b.start ≠ .over →
    b ∈ h.audioSessions ∧ b.current = true ∧ b.audioSender = false
  waiting : ∀ b ∈ (h.withDisposed a.id).audioSessions, b.start = .over ∨ b ∈ h.audioSessions
  fresh : ∀ b ∈ (h.withDisposed a.id).audioSessions, b.id < h.created

theorem Valid.disposed (hv : Valid h) (hmem : a ∈ h.audioSessions) (hcurrent : a.current = true)
    (hover : a.start = .over) (hsender : a.audioSender = true) : Disposed h a := by
  have ha : h.audioSessions.get? a.id = some a := (Table.mem_iff_get? _ a).mp hmem
  have hrows : ∀ b ∈ (h.withDisposed a.id).audioSessions,
      b = a.disposed ∨ b ∈ h.audioSessions := fun b hb =>
    ((mem_change AudioSession.disposed_id ha).mp hb).imp_right And.left
  refine ⟨?_,fun b hb hrun => ?_,fun b hb => ?_,fun b hb => ?_⟩
  · have hsilent : hears a.disposed ≠ some () := by
      rw [Ne, hears_iff]
      exact fun h => nomatch h.1
    have hchange := holders_change AudioSession.disposed_id ha
    rw [if_pos (hears_iff.mpr ⟨hcurrent,hsender⟩), if_neg hsilent] at hchange
    exact hchange
  · rcases hrows b hb with rfl | hold
    · exact absurd hover hrun
    · exact ⟨hold,hv.starting b hold hrun⟩
  · rcases hrows b hb with rfl | hold
    · exact Or.inl hover
    · exact Or.inr hold
  · rcases hrows b hb with rfl | hold
    · exact hv.fresh a hmem
    · exact hv.fresh b hold

/-- The last holder takes the stream with it. -/
theorem Valid.dispose_last (hv : Valid h) (hd : Disposed h a) {s : MediaStream}
    (hs : h.localAudioStream = some s) (hlast : h.audioSenderCount-1 = 0) (hquiet : Quiet h) :
    Valid { h.withDisposed a.id with
      audioSenderCount := h.audioSenderCount-1
      localAudioStream := none
      stoppedStreams := s.id::h.stoppedStreams } where
  counts := by
    have hcount := hv.counts
    have hholders := hd.holders
    show h.audioSenderCount-1 = (holders (h.withDisposed a.id) : ℤ)
    omega
  starting := fun b hb hrun => (hd.starting b hb hrun).2
  idle := by
    intro _
    have hcount := hv.counts
    have hholders := hd.holders
    have hover : ∀ b ∈ (h.withDisposed a.id).audioSessions, b.start = .over := fun b hb =>
      (hd.waiting b hb).elim id (hquiet b)
    refine ⟨?_,fun b hb => Or.inl (hover b hb),fun b hb c _ hrun _ => absurd (hover b hb) hrun⟩
    show holders (h.withDisposed a.id) = 0
    omega
  shared := fun _ hs' => nomatch hs'
  released := by
    intro i hi
    refine iff_of_true (List.mem_cons.mpr ?_) (fun _ hs' => nomatch hs')
    by_cases hid : i = s.id
    · exact Or.inl hid
    · refine Or.inr ((hv.released i hi).mpr fun s' hs' => ?_)
      obtain rfl := Option.some.inj (hs.symm.trans hs')
      exact Ne.symm hid
  stopped := by
    intro i hi
    rcases List.mem_cons.mp hi with rfl | hold
    · exact (hv.shared s hs).id
    · exact hv.stopped i hold
  fresh := hd.fresh

theorem Valid.dispose_other (hv : Valid h) (hd : Disposed h a) {s : MediaStream}
    (hs : h.localAudioStream = some s) (hlast : ¬ h.audioSenderCount-1 = 0) :
    Valid { h.withDisposed a.id with audioSenderCount := h.audioSenderCount-1 } where
  counts := by
    have hcount := hv.counts
    have hholders := hd.holders
    show h.audioSenderCount-1 = (holders (h.withDisposed a.id) : ℤ)
    omega
  starting := fun b hb hrun => (hd.starting b hb hrun).2
  idle := by
    intro hnone
    cases hs.symm.trans hnone
  shared := by
    intro s' hs'
    have hshared := hv.shared s' hs'
    have hcount := hv.counts
    have hholders := hd.holders
    refine ⟨hshared.tracks,hshared.id,fun b hb => ?_,Or.inl ?_⟩
    · exact (hd.waiting b hb).elim Or.inl (hshared.waiting b)
    · show 0 < holders (h.withDisposed a.id)
      omega
  released := hv.released
  stopped := hv.stopped
  fresh := hd.fresh

theorem Valid.dispose (hv : Valid h) (hmem : a ∈ h.audioSessions) (hcurrent : a.current = true)
    (hover : a.start = .over) (hsender : a.audioSender = true)
    (howner : a.controlled = h.websocketSessionid) (hlast : holders h = 1 → Quiet h) :
    Valid (h.dispose a) := by
  have hd := hv.disposed hmem hcurrent hover hsender
  have hcount := hv.counts
  have hholders := hd.holders
  obtain ⟨s, hs⟩ : ∃ s, h.localAudioStream = some s := by
    cases hs : h.localAudioStream with
    | none =>
      have hzero := (hv.idle hs).none
      omega
    | some s => exact ⟨s,rfl⟩
  rw [Host.dispose, if_pos howner, Host.release]
  by_cases hzero : h.audioSenderCount-1 = 0
  · rw [if_pos hzero, hs]
    exact hv.dispose_last hd hs hzero (hlast (by omega))
  · rw [if_neg hzero]
    exact hv.dispose_other hd hs hzero

/-- What a request makes of the table: the session has lost a silent audio session and
got a new one. -/
theorem Valid.connect_rows (hv : Valid h) (session : SessionId) (controlled : String)
    {start : Start} (hstart : start =
      if h.localAudioStream.isSome then Start.connecting else Start.capturing) :
    (h.connect session controlled).audioSessions.rows =
      h.audioSessions.rows.map (AudioSession.replaced session) ++
        [⟨h.created,session,controlled,start,false,true⟩] := by
  subst hstart
  have hfree : (h.audioSessions.map (AudioSession.replaced session)
      (AudioSession.replaced_id session)).get? h.created = none := by
    rw [Table.get?_eq_none]
    intro b hb
    obtain ⟨q, hq, rfl⟩ := (Table.mem_map _ _ _ _).mp hb
    exact Nat.ne_of_lt (hv.fresh q hq)
  have hinsert : (h.audioSessions.map (AudioSession.replaced session)
      (AudioSession.replaced_id session)).insert? ⟨h.created,session,controlled,
        if h.localAudioStream.isSome then .connecting else .capturing,false,true⟩ =
      some (Table.insert _ _ hfree) := dif_pos hfree
  show ((Table.insert? _ _).getD _).rows = _
  rw [hinsert]
  rfl

/-- An audio session with a start under way is not the one that is replaced. -/
theorem Valid.replaced_stays (hv : Valid h) {session : SessionId}
    (hfree : ∀ b ∈ h.audioSessions, b.session = session → b.current = true →
      b.start = .over ∧ b.audioSender = false) :
    ∀ b ∈ h.audioSessions, b.start ≠ .over → b.replaced session = b := by
  intro b hb hrun
  have hcurrent := (hv.starting b hb hrun).1
  have hother : b.session ≠ session := fun hsame => hrun (hfree b hb hsame hcurrent).1
  obtain ⟨id, own, device, start, sender, current⟩ := b
  simp only [AudioSession.replaced, AudioSession.mk.injEq, true_and]
  simp [hother]

/-- The audio session that is replaced heard nothing. -/
theorem hears_replaced {session : SessionId}
    (hfree : ∀ b ∈ h.audioSessions, b.session = session → b.current = true →
      b.start = .over ∧ b.audioSender = false) :
    ∀ b ∈ h.audioSessions, hears (b.replaced session) = hears b := by
  intro b hb
  by_cases hsame : b.session = session ∧ b.current = true
  · have hsender := (hfree b hb hsame.1 hsame.2).2
    simp [hears, AudioSession.replaced, hsender]
  · have hkeeps : (b.current && decide (b.session ≠ session)) = b.current := by
      cases hcurrent : b.current with
      | false => rfl
      | true => simpa using fun hs => hsame ⟨hs,hcurrent⟩
    simp only [hears, AudioSession.replaced, hkeeps]

theorem Valid.holders_connect (hv : Valid h) {session : SessionId} (controlled : String)
    (hfree : ∀ b ∈ h.audioSessions, b.session = session → b.current = true →
      b.start = .over ∧ b.audioSender = false) :
    holders (h.connect session controlled) = holders h := by
  have hsame : (h.audioSessions.rows.map (AudioSession.replaced session)).countP
        (fun b => hears b = some ()) =
      h.audioSessions.rows.countP (fun b => hears b = some ()) := by
    rw [List.countP_map]
    apply List.countP_congr
    intro b hb
    simp only [Function.comp_apply, hears_replaced hfree b hb]
  unfold holders users
  rw [hv.connect_rows session controlled rfl, List.countP_append, hsame]
  rfl

theorem Valid.connect (hv : Valid h) {session : SessionId} {controlled : String}
    (hkept : Kept (.connect session controlled) h) : Valid (h.connect session controlled) := by
  obtain ⟨hfree, hfirst⟩ := hkept
  obtain ⟨start, hstart⟩ : ∃ start : Start, start =
      if h.localAudioStream.isSome then .connecting else .capturing := ⟨_,rfl⟩
  have hstream : (h.connect session controlled).localAudioStream = h.localAudioStream := rfl
  have hstays := hv.replaced_stays hfree
  have hholders := hv.holders_connect controlled hfree
  have hmem : ∀ b, b ∈ (h.connect session controlled).audioSessions ↔
      (∃ q ∈ h.audioSessions, q.replaced session = b) ∨
        b = ⟨h.created,session,controlled,start,false,true⟩ := by
    intro b
    rw [Table.mem_rows, hv.connect_rows session controlled hstart, List.mem_append,
      List.mem_map, List.mem_singleton]
    rfl
  have hnew : start = .capturing ∧ h.localAudioStream = none ∨
      start = .connecting ∧ h.localAudioStream ≠ none := by
    cases hs : h.localAudioStream with
    | none => exact Or.inl ⟨by rw [hstart, hs]; rfl,rfl⟩
    | some s => exact Or.inr ⟨by rw [hstart, hs]; rfl,fun hn => nomatch hn⟩
  exact {
    counts := by
      rw [hholders]
      exact hv.counts
    starting := by
      intro b hb hrun
      rcases (hmem b).mp hb with ⟨q, hq, rfl⟩ | rfl
      · rw [hstays q hq hrun]
        exact hv.starting q hq hrun
      · exact ⟨rfl,rfl⟩
    idle := by
      intro hnone
      rw [hstream] at hnone
      have hquiet := hfirst hnone
      have hidle := hv.idle hnone
      have hover : ∀ b ∈ (h.connect session controlled).audioSessions, b.start ≠ .over →
          b = ⟨h.created,session,controlled,start,false,true⟩ := by
        intro b hb hrun
        rcases (hmem b).mp hb with ⟨q, hq, rfl⟩ | rfl
        · exact absurd (hquiet q hq) hrun
        · rfl
      refine ⟨hholders.trans hidle.none,fun b hb => ?_,fun b hb c hc hbrun hcrun =>
        (hover b hb hbrun).trans (hover c hc hcrun).symm⟩
      rcases (hmem b).mp hb with ⟨q, hq, rfl⟩ | rfl
      · exact Or.inl (hquiet q hq)
      · exact Or.inr (hnew.resolve_right fun h => h.2 hnone).1
    shared := by
      intro s hs
      have hshared := hv.shared s hs
      have hconnecting : start = .connecting :=
        (hnew.resolve_left fun h => Option.some_ne_none s (hs.symm.trans h.2)).1
      refine ⟨hshared.tracks,hshared.id,fun b hb => ?_,Or.inr ⟨_,(hmem _).mpr (Or.inr rfl),?_⟩⟩
      · rcases (hmem b).mp hb with ⟨q, hq, rfl⟩ | rfl
        · exact hshared.waiting q hq
        · exact Or.inr (Or.inl hconnecting)
      · rw [hconnecting]
        exact fun h => nomatch h
    released := hv.released
    stopped := hv.stopped
    fresh := by
      intro b hb
      rcases (hmem b).mp hb with ⟨q, hq, rfl⟩ | rfl
      · exact Nat.lt_succ_of_lt (hv.fresh q hq)
      · exact Nat.lt_succ_self _ }

end Steps

section Progress
variable {h : Host} {a : AudioSession} {id : AudioId}

theorem Valid.captured_step (hv : Valid h) (ha : h.audioSessions.get? id = some a) :
    Valid (h.captured a 1) := by
  obtain rfl := Table.get?_key ha
  unfold Host.captured
  split
  · rename_i hstart
    exact hv.captured ha hstart
  · exact hv

theorem Valid.failed_step (hv : Valid h) (ha : h.audioSessions.get? id = some a)
    (hleft : a.start = .connecting → 0 < holders h) : Valid (h.failed a) := by
  obtain rfl := Table.get?_key ha
  unfold Host.failed
  split
  · rename_i hstart
    have hrun : a.start ≠ .over := by
      rcases hstart with hcapture | hconnect
      · rw [hcapture]
        exact fun h => nomatch h
      · rw [hconnect]
        exact fun h => nomatch h
    apply hv.goOn_over ha hrun
    intro s hs
    rcases hstart with hcapture | hconnect
    · cases hs.symm.trans (hv.capturing ha hcapture)
    · exact hleft hconnect
  · exact hv

theorem Valid.connected_step (hv : Valid h) (ha : h.audioSessions.get? id = some a) :
    Valid (h.connected a) := by
  obtain rfl := Table.get?_key ha
  unfold Host.connected
  split
  · rename_i hstart
    obtain ⟨s, hs⟩ := hv.connecting ha hstart
    have hadding : addTracks s.tracks = .adding 1 := by
      rw [(hv.shared s hs).tracks]
      rfl
    rw [hs]
    apply hv.goOn_stream ha _ (Or.inr hadding) hs
    rw [hstart]
    exact fun h => nomatch h
  · exact hv

theorem Valid.trackAdded_step (hv : Valid h) (ha : h.audioSessions.get? id = some a) :
    Valid (h.trackAdded a) := by
  obtain rfl := Table.get?_key ha
  unfold Host.trackAdded
  split
  · rename_i tracks hstart
    exact hv.trackAdded ha hstart
  · exact hv

theorem Valid.trackFailed_step (hv : Valid h) (ha : h.audioSessions.get? id = some a)
    (hleft : a.start = .over ∨ 0 < holders h) : Valid (h.trackFailed a) := by
  obtain rfl := Table.get?_key ha
  unfold Host.trackFailed
  split
  · rename_i tracks hstart
    obtain ⟨rfl, s, hs⟩ := hv.adding ha hstart
    have hrun : a.start ≠ .over := by
      rw [hstart]
      exact fun h => nomatch h
    exact hv.goOn_over ha hrun fun _ _ => hleft.resolve_left hrun
  · exact hv

theorem Valid.progress {f : Host → AudioSession → Host} (hv : Valid h)
    (hf : ∀ a, h.audioSessions.get? id = some a → Valid (f h a)) : Valid (progress h id f) := by
  unfold SystemAudio.progress
  cases ha : h.audioSessions.get? id with
  | none => exact hv
  | some a => exact hf a ha

theorem Valid.stop (hv : Valid h) {session : SessionId} (hkept : Kept (.stop session) h) :
    Valid (h.stop session) := by
  unfold Host.stop
  cases hfound : h.audioSessions.rows.find? (fun a => a.session = session && a.current) with
  | none => exact hv
  | some a =>
    have hmem : a ∈ h.audioSessions := List.mem_of_find?_eq_some hfound
    have hthis := List.find?_some hfound
    rw [Bool.and_eq_true, decide_eq_true_iff] at hthis
    obtain ⟨hover, hsender, howner, hlast⟩ := hkept a hmem hthis.1 hthis.2
    exact hv.dispose hmem hthis.2 hover hsender howner hlast

end Progress

/-- One step keeps the invariant. -/
theorem valid_step (e : Event) (h : Host) (hkept : Kept e h) (hv : Valid h) : Valid (step e h) := by
  cases e with
  | connect session controlled => exact hv.connect hkept
  | captured id tracks =>
    obtain rfl : tracks = 1 := hkept
    exact hv.progress (f := fun h a => h.captured a 1) fun a ha => hv.captured_step ha
  | failed id => exact hv.progress fun a ha => hv.failed_step ha (hkept a ha)
  | connected id => exact hv.progress fun a ha => hv.connected_step ha
  | trackAdded id => exact hv.progress fun a ha => hv.trackAdded_step ha
  | trackFailed id => exact hv.progress fun a ha => hv.trackFailed_step ha (hkept a ha)
  | stop session => exact hv.stop hkept
  | connectionInfo id =>
    refine ⟨hv.counts,hv.starting,fun hs => ?_,fun s hs => ?_,hv.released,hv.stopped,hv.fresh⟩
    · have hidle := hv.idle hs
      exact ⟨hidle.none,hidle.waiting,hidle.one⟩
    · have hshared := hv.shared s hs
      exact ⟨hshared.tracks,hshared.id,hshared.waiting,hshared.used⟩

/-- In a run whose steps all meet the condition, the count, the holders and the stream
agree in every state without a start in progress. -/
theorem audio_counted (own : String) (es : List Event)
    (hkept : Meets step Kept es { websocketSessionid := own }) :
    ∀ before after, es = before ++ after →
      Quiet (run step before { websocketSessionid := own }) →
        Counted (run step before { websocketSessionid := own }) := by
  rintro before after rfl hquiet
  have hbefore := meets_of_append step Kept before after _ hkept
  have hvalid := run_invariant step valid_step before _ hbefore (valid_initial own)
  exact hvalid.counted hquiet

/-- Two viewers, the first of whom leaves first. -/
def twoViewers : List Event :=
  [.connect 1 "node",.captured 0 1,.connected 0,.trackAdded 0,.connect 2 "node",.connected 1,
    .trackAdded 1,.stop 1,.stop 2]

theorem twoViewers_counted :
    Counted (run step (twoViewers.take 8) { websocketSessionid := "node" }) :=
  audio_counted "node" twoViewers (by decide) (twoViewers.take 8) (twoViewers.drop 8) rfl
    (by decide)

/-- A viewer who asks again after a failed connection. -/
def retried : List Event :=
  [.connect 1 "node",.captured 0 1,.connected 0,.trackAdded 0,.connect 1 "node",.connected 1,
    .trackAdded 1]

/-- The system's stream has two tracks. -/
def twoTracks : List Event :=
  [.connect 1 "node",.captured 0 2,.connected 0,.trackAdded 0,.trackAdded 0]

/-- It has none. -/
def silent : List Event := [.connect 1 "node",.captured 0 0,.connected 0,.stop 1]

/-- The viewer who asks twice counts twice, and when he has left the capture goes on;
two tracks count as two viewers; a viewer without a track is not counted when he
comes but when he goes. -/
theorem starts_miscounted :
    (Quiet (run step (retried ++ [.stop 1]) { websocketSessionid := "node" }) ∧
      ¬ Counted (run step (retried ++ [.stop 1]) { websocketSessionid := "node" })) ∧
    (Quiet (run step twoTracks { websocketSessionid := "node" }) ∧
      ¬ Counted (run step twoTracks { websocketSessionid := "node" })) ∧
    Quiet (run step silent { websocketSessionid := "node" }) ∧
      ¬ Counted (run step silent { websocketSessionid := "node" }) := by
  refine ⟨⟨by decide,fun h => ?_⟩,⟨by decide,fun h => ?_⟩,by decide,fun h => ?_⟩
  · exact absurd h.counts (by decide)
  · exact absurd h.counts (by decide)
  · exact absurd h.nonneg (by decide)

end CloudPlay.SharedAudio
