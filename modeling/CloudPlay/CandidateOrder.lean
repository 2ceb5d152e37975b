import CloudPlay.StreamingSession
import CloudPlay.TransitionRun

/-!
# Candidates that come after the description are all added

The list of candidates is filled when there is no peer connection and flushed
after the local description, but what a candidate needs is the remote one.
A candidate is added in time if the other side's description has been handed
to the session before it: the lock keeps their order.
-/

set_option autoImplicit false

namespace CloudPlay.CandidateOrder
open StreamingSession TransitionRun

/-- A candidate that came before the session was closing. -/
def inTime : Call → Option IceCandidate
  | .onCandidateReceived c false => some c
  | _ => none

def pending (calls : List Call) : List IceCandidate := calls.filterMap inTime

def isDescription : Call → Bool
  | .onOfferReceived _ => true
  | .onAnswerReceived _ => true
  | _ => false

/-- Every candidate delivered before the session was closing has been passed
to `addCandidate` once, in order and with the remote description set, or
waits for the lock. -/
structure Applied (s : Session) : Prop where
  inOrder : s.received = s.added.map Prod.fst ++ pending s.waiting
  described : ∀ call ∈ s.added, call.2 = true

def isRemote : Await → Bool
  | .setRemoteDescription _ _ => true
  | _ => false

/-- The remote description is set or being set. -/
def told (s : Session) : Bool := s.described || s.running.any isRemote

/-- The session has a peer connection and the other side's description. -/
def Announced (s : Session) : Prop :=
  s.pc.isSome ∧ (told s = true ∨ ∃ call ∈ s.waiting, isDescription call)

instance (s : Session) : Decidable (Announced s) :=
  inferInstanceAs (Decidable (_ ∧ (_ ∨ ∃ call ∈ s.waiting, isDescription call)))

def isCandidate : Signal → Bool
  | .candidate _ => true
  | .candidate2 _ => true
  | _ => false

/-- What the steps are asked for: a candidate arrives at a session that is not
closing after the description it belongs to. -/
def Kept : Action → Exchange → Prop
  | .deliver side _, w => ∀ s ∈ w.session side, ∀ message ∈ (w.inbox side).head?,
      isCandidate message → s.closing = false → Announced s
  | _, _ => True

instance decidableKept : (action : Action) → (w : Exchange) → Decidable (Kept action w)
  | .deliver side _, w => inferInstanceAs (Decidable (∀ s ∈ w.session side,
      ∀ message ∈ (w.inbox side).head?, isCandidate message → s.closing = false → Announced s))
  | .startRequest _, _ => isTrue trivial
  | .lose _, _ => isTrue trivial
  | .acquire _, _ => isTrue trivial
  | .resume _ _, _ => isTrue trivial
  | .gather _ _, _ => isTrue trivial
  | .track _, _ => isTrue trivial
  | .stop _, _ => isTrue trivial

/-- With the remote description told or not, the calls that wait add every
candidate in time, and those behind `stop` are late. -/
def Ready : Bool → List Call → Prop
  | _, [] => True
  | _, .onOfferReceived _::calls => Ready true calls
  | _, .onAnswerReceived _::calls => Ready true calls
  | told, .onCandidateReceived _ late::calls => late = false ∧ told = true ∧ Ready told calls
  | _, .stop::calls => pending calls = []

/-- The peer connection is there or will be, and no `stop` is at work. -/
def Live (s : Session) : Prop :=
  s.running = some .createPeerConnection ∨ s.pc.isSome ∧ s.running ≠ some .close

structure Valid (s : Session) : Prop where
  applied : Applied s
  ready : Live s → Ready (told s) s.waiting
  closes : Live s → s.closing = true → .stop ∈ s.waiting
  empty : Live s → s.candidates = []
  alone : ¬(s.pc.isSome ∧ s.running ≠ some .close) → pending s.waiting = []
  opens : s.closing = false → s.isClosing = false ∧ .stop ∉ s.waiting ∧ s.running ≠ some .close
  creates : s.running = some .createPeerConnection → s.pc = none
  busy : ∀ a ∈ s.running, a = .createPeerConnection ∨ a = .close ∨ s.pc.isSome
  loop : ∀ sdp, s.running ≠ some (.addCandidate (some sdp))

theorem pending_append (calls rest : List Call) :
    pending (calls ++ rest) = pending calls ++ pending rest :=
  List.filterMap_append

section Queue
variable {t : Bool} {calls : List Call}

/-- One more call at the end is ready when it is behind `stop` and adds nothing, or
when it is ready after the descriptions before it. -/
theorem ready_concat (h : Ready t calls) {call : Call}
    (hstopped : Call.stop ∈ calls → pending [call] = [])
    (hopen : Call.stop ∉ calls → Ready (t || calls.any isDescription) [call]) :
    Ready t (calls ++ [call]) := by
  induction calls generalizing t with
  | nil => simpa using hopen List.not_mem_nil
  | cons first calls ih =>
    have hlater : Call.stop ∈ calls → pending [call] = [] :=
      fun hs => hstopped (List.mem_cons_of_mem _ hs)
    cases first with
    | onOfferReceived sdp =>
      apply ih h hlater
      intro hs
      simpa [isDescription] using hopen (by simp [hs])
    | onAnswerReceived sdp =>
      apply ih h hlater
      intro hs
      simpa [isDescription] using hopen (by simp [hs])
    | onCandidateReceived c late =>
      refine ⟨h.1,h.2.1,ih h.2.2 hlater fun hs => ?_⟩
      simpa [isDescription] using hopen (by simp [hs])
    | stop =>
      show pending (calls ++ [call]) = []
      have hcalls : pending calls = [] := h
      rw [pending_append, hcalls, hstopped List.mem_cons_self]
      rfl

theorem ready_description (h : Ready t calls) {call : Call} (hd : isDescription call = true) :
    Ready t (calls ++ [call]) := by
  apply ready_concat h
  · intro _
    cases call <;> first | rfl | cases hd
  · intro _
    cases call <;> trivial

theorem ready_stop (h : Ready t calls) : Ready t (calls ++ [Call.stop]) :=
  ready_concat h (fun _ => rfl) fun _ => rfl

theorem ready_candidate (h : Ready t calls) (hs : .stop ∉ calls) (c : IceCandidate)
    (ht : t = true ∨ ∃ call ∈ calls, isDescription call) :
    Ready t (calls ++ [Call.onCandidateReceived c false]) := by
  apply ready_concat h
  · exact fun hin => absurd hin hs
  · intro _
    exact ⟨rfl,by simpa [List.any_eq_true] using ht,trivial⟩

theorem ready_late (h : Ready t calls) (hs : .stop ∈ calls) (c : IceCandidate) :
    Ready t (calls ++ [Call.onCandidateReceived c true]) :=
  ready_concat h (fun _ => rfl) fun hnot => absurd hs hnot

end Queue

section Session
variable {s : Session}

/-- A body that goes on with its peer connection and tells it nothing new. -/
theorem Valid.working (hv : Valid s) (hc : s.running ≠ some .close) (hp : s.pc.isSome)
    {s' : Session} (hc' : s'.running ≠ some .close) (hp' : s'.pc.isSome)
    (hcreate : s'.running ≠ some .createPeerConnection)
    (hloop : ∀ sdp, s'.running ≠ some (.addCandidate (some sdp))) (ht : told s' = told s)
    (hopen : s.isClosing = false → s'.isClosing = false)
    (hsame : s'.waiting = s.waiting ∧ s'.candidates = s.candidates ∧ s'.closing = s.closing ∧
      s'.received = s.received ∧ s'.added = s.added) : Valid s' := by
  obtain ⟨hw, hcand, hclosing, hrec, hadd⟩ := hsame
  have hlive : Live s := Or.inr ⟨hp,hc⟩
  constructor
  · exact ⟨by rw [hrec, hadd, hw]; exact hv.applied.inOrder,by
      rw [hadd]; exact hv.applied.described⟩
  · intro _
    rw [ht, hw]
    exact hv.ready hlive
  · intro _ h
    rw [hw]
    exact hv.closes hlive (hclosing ▸ h)
  · intro _
    rw [hcand]
    exact hv.empty hlive
  · intro h
    exact absurd ⟨hp',hc'⟩ h
  · intro h
    rw [hclosing] at h
    rw [hw]
    exact ⟨hopen (hv.opens h).1,(hv.opens h).2.1,hc'⟩
  · intro h
    exact absurd h hcreate
  · intro a _
    exact Or.inr (Or.inr hp')
  · exact hloop

theorem flush_valid (hv : Valid s) {sdp description : String}
    (hr : s.running = some (.setLocalDescription description)) : Valid (s.flush sdp).1 := by
  have hp : s.pc.isSome := by simpa [hr] using hv.busy _ hr
  have hempty : s.candidates = [] := hv.empty (Or.inr ⟨hp,by simp [hr]⟩)
  unfold Session.flush
  rw [hempty]
  refine hv.working (by simp [hr]) hp (by simp) hp (by simp) (by simp) ?_ ?_ ⟨rfl,?_,rfl,rfl,rfl⟩
  · simp [told, hr, isRemote, Session.described]
  · intro h
    show Session.isClosing { s with
      connectionState := if s.side = .controlled then .offerSent else s.connectionState } = false
    by_cases hside : s.side = .controlled
    · simp [Session.isClosing, hside]
    · simpa [Session.isClosing, hside] using h
  · exact hempty.symm

theorem setLocalDescription_valid (hv : Valid s) {a : Await} (hr : s.running = some a)
    (ha : a = .createOffer ∨ a = .createAnswer) (sdp : String) :
    Valid (s.setLocalDescription sdp) := by
  have hp : s.pc.isSome := by
    rcases ha with rfl | rfl <;> simpa using hv.busy _ hr
  obtain ⟨pc, hpc⟩ := Option.isSome_iff_exists.mp hp
  refine hv.working ?_ hp (by simp [Session.setLocalDescription])
    (by simp [Session.setLocalDescription, hpc]) (by simp [Session.setLocalDescription])
    (by simp [Session.setLocalDescription]) ?_ id ⟨rfl,rfl,rfl,rfl,rfl⟩
  · rcases ha with rfl | rfl <;> simp [hr]
  · rcases ha with rfl | rfl <;>
      simp [told, hr, isRemote, Session.setLocalDescription, Session.described, hpc]

theorem created_valid (hv : Valid s) (hr : s.running = some .createPeerConnection) :
    Valid { s with
      pc := some {}, running := if s.side = .controlled then some .createOffer else none } := by
  have hlive : Live s := Or.inl hr
  have htold : told s = false := by simp [told, hr, isRemote, Session.described, hv.creates hr]
  have hready : Ready false s.waiting := htold ▸ hv.ready hlive
  generalize hrun : (if s.side = .controlled then some Await.createOffer else none) = running
  have hcases : running = none ∨ running = some .createOffer := by
    by_cases hside : s.side = .controlled <;> simp [hside] at hrun <;> simp [← hrun]
  constructor
  · exact ⟨hv.applied.inOrder,hv.applied.described⟩
  · intro _
    have ht : told { s with pc := some {}, running := running } = false := by
      rcases hcases with rfl | rfl <;> rfl
    rw [ht]
    exact hready
  · exact fun _ h => hv.closes hlive h
  · exact fun _ => hv.empty hlive
  · intro h
    exact absurd ⟨rfl,by rcases hcases with rfl | rfl <;> simp⟩ h
  · intro h
    exact ⟨(hv.opens h).1,(hv.opens h).2.1,by rcases hcases with rfl | rfl <;> simp⟩
  · intro h
    rcases hcases with rfl | rfl <;> cases h
  · exact fun a _ => Or.inr (Or.inr rfl)
  · intro sdp h
    rcases hcases with rfl | rfl <;> cases h

theorem closed_valid (hv : Valid s) (hr : s.running = some .close) :
    Valid { s with pc := none, connectionState := .disconnected, running := none } := by
  have hdead : ¬Live { s with
      pc := none, connectionState := .disconnected, running := none } := by simp [Live]
  constructor
  · exact ⟨hv.applied.inOrder,hv.applied.described⟩
  · exact fun h => absurd h hdead
  · exact fun h => absurd h hdead
  · exact fun h => absurd h hdead
  · exact fun _ => hv.alone (fun h => h.2 hr)
  · exact fun h => absurd hr (hv.opens h).2.2
  · exact fun _ => rfl
  · exact fun a h => by cases h
  · exact fun sdp h => by cases h

theorem resume_valid (hv : Valid s) (sdp : String) : Valid (s.resume sdp).1 := by
  unfold Session.resume
  cases hr : s.running with
  | none => exact hv
  | some a =>
    cases a with
    | createPeerConnection => exact created_valid hv hr
    | createOffer => exact setLocalDescription_valid hv hr (Or.inl rfl) sdp
    | setRemoteDescription remote answering =>
      have hp : s.pc.isSome := by simpa using hv.busy _ hr
      obtain ⟨pc, hpc⟩ := Option.isSome_iff_exists.mp hp
      refine hv.working (by simp [hr]) hp (by cases answering <;> simp) (by simp [hpc])
        (by cases answering <;> simp) (by cases answering <;> simp) ?_ id ⟨rfl,rfl,rfl,rfl,rfl⟩
      simp [told, hr, isRemote, Session.described, hpc]
    | createAnswer => exact setLocalDescription_valid hv hr (Or.inr rfl) sdp
    | setLocalDescription description => exact flush_valid hv hr
    | addCandidate description =>
      cases description with
      | some d => exact absurd hr (hv.loop d)
      | none =>
        have hp : s.pc.isSome := by simpa using hv.busy _ hr
        exact hv.working (by simp [hr]) hp (by simp) hp (by simp) (by simp)
          (by simp [told, hr, isRemote, Session.described]) id ⟨rfl,rfl,rfl,rfl,rfl⟩
    | close => exact closed_valid hv hr

theorem describe_valid (hv : Valid s) (hr : s.running = none) {call : Call} {calls : List Call}
    (hw : s.waiting = call::calls) (hd : isDescription call = true) (sdp : String)
    (answering : Bool) : Valid (if s.pc.isSome then { s with
      waiting := calls, running := some (.setRemoteDescription sdp answering) }
      else { s with waiting := calls }) := by
  have hpending : pending s.waiting = pending calls := by
    rw [hw]
    cases call <;> first | rfl | cases hd
  have hstop : .stop ∉ s.waiting → .stop ∉ calls := fun h hin =>
    h (hw ▸ List.mem_cons_of_mem _ hin)
  have horder := hpending ▸ hv.applied.inOrder
  split
  · rename_i hp
    have hlive : Live s := Or.inr ⟨hp,by simp [hr]⟩
    have hready : Ready true calls := by
      have hready := hv.ready hlive
      rw [hw] at hready
      cases call <;> first | exact hready | cases hd
    constructor
    · exact ⟨horder,hv.applied.described⟩
    · intro _
      rw [show told { s with
        waiting := calls, running := some (.setRemoteDescription sdp answering) } = true by
          simp [told, isRemote]]
      exact hready
    · intro _ h
      have hin := hv.closes hlive h
      rw [hw] at hin
      rcases List.mem_cons.mp hin with rfl | hin
      · cases hd
      · exact hin
    · exact fun _ => hv.empty hlive
    · exact fun h => absurd ⟨hp,by simp⟩ h
    · exact fun h => ⟨(hv.opens h).1,hstop (hv.opens h).2.1,by simp⟩
    · exact fun h => by cases h
    · exact fun a _ => Or.inr (Or.inr hp)
    · exact fun sdp h => by cases h
  · rename_i hp
    have hdead : ¬Live { s with waiting := calls } := by simp [Live, hp, hr]
    constructor
    · exact ⟨horder,hv.applied.described⟩
    · exact fun h => absurd h hdead
    · exact fun h => absurd h hdead
    · exact fun h => absurd h hdead
    · exact fun _ => hpending ▸ hv.alone (fun h => hp h.1)
    · exact fun h => ⟨(hv.opens h).1,hstop (hv.opens h).2.1,(hv.opens h).2.2⟩
    · exact hv.creates
    · exact hv.busy
    · exact hv.loop

theorem candidate_valid (hv : Valid s) (hr : s.running = none) {c : IceCandidate} {late : Bool}
    {calls : List Call} (hw : s.waiting = .onCandidateReceived c late::calls) :
    Valid (Session.begin { s with waiting := calls } (.onCandidateReceived c late)) := by
  have hstop : .stop ∉ s.waiting → .stop ∉ calls := fun h hin =>
    h (hw ▸ List.mem_cons_of_mem _ hin)
  by_cases hp : s.pc.isSome
  · have hlive : Live s := Or.inr ⟨hp,by simp [hr]⟩
    obtain ⟨rfl, htold, hready⟩ : late = false ∧ told s = true ∧ Ready (told s) calls := by
      have hready := hv.ready hlive
      rwa [hw] at hready
    have hdescribed : s.described = true := by simpa [told, hr] using htold
    rw [show Session.begin { s with waiting := calls } (.onCandidateReceived c false) =
      { s with
        waiting := calls
        added := s.added ++ [(c,true)]
        running := some (.addCandidate none) } by
          rw [Session.begin, if_pos hp, Session.addCandidate]
          simp only [← hdescribed, Session.described]]
    constructor
    · constructor
      · have horder := hv.applied.inOrder
        rw [hw] at horder
        simpa [pending, inTime] using horder
      · intro call hcall
        rcases List.mem_append.mp hcall with hold | hnew
        · exact hv.applied.described call hold
        · rw [List.mem_singleton.mp hnew]
    · intro _
      rw [htold] at hready
      simpa [told, isRemote, Session.described] using (by
        rw [← hdescribed] at hready
        exact hready : Ready s.described calls)
    · intro _ h
      have hin := hv.closes hlive h
      rw [hw] at hin
      simpa using hin
    · exact fun _ => hv.empty hlive
    · exact fun h => absurd ⟨hp,by simp⟩ h
    · exact fun h => ⟨(hv.opens h).1,hstop (hv.opens h).2.1,by simp⟩
    · exact fun h => by cases h
    · exact fun a _ => Or.inr (Or.inr hp)
    · exact fun sdp h => by cases h
  · have hnone : pending s.waiting = [] := hv.alone (fun h => hp h.1)
    obtain rfl : late = true := by
      cases late with
      | true => rfl
      | false => simp [hw, pending, inTime] at hnone
    have hpending : pending calls = [] := by simpa [hw, pending, inTime] using hnone
    rw [Session.begin, if_neg hp]
    have hdead : ¬Live { s with waiting := calls, candidates := s.candidates ++ [c] } := by
      simp [Live, hp, hr]
    constructor
    · have horder := hv.applied.inOrder
      rw [hnone] at horder
      exact ⟨by rw [hpending]; exact horder,hv.applied.described⟩
    · exact fun h => absurd h hdead
    · exact fun h => absurd h hdead
    · exact fun h => absurd h hdead
    · exact fun _ => hpending
    · exact fun h => ⟨(hv.opens h).1,hstop (hv.opens h).2.1,(hv.opens h).2.2⟩
    · exact hv.creates
    · exact hv.busy
    · exact hv.loop

theorem stopping_valid (hv : Valid s) (hr : s.running = none) {calls : List Call}
    (hw : s.waiting = .stop::calls) :
    Valid { s with waiting := calls, candidates := [], running := some .close } := by
  have hpending : pending calls = [] := by
    by_cases hp : s.pc.isSome
    · have hready := hv.ready (Or.inr ⟨hp,by simp [hr]⟩)
      rw [hw] at hready
      exact hready
    · have hnone := hv.alone (fun h => hp h.1)
      rwa [hw] at hnone
  have horder := hv.applied.inOrder
  rw [hw] at horder
  have hdead : ¬Live { s with waiting := calls, candidates := [], running := some .close } := by
    simp [Live]
  constructor
  · exact ⟨horder,hv.applied.described⟩
  · exact fun h => absurd h hdead
  · exact fun h => absurd h hdead
  · exact fun h => absurd h hdead
  · exact fun _ => hpending
  · intro h
    exact absurd (hw ▸ List.mem_cons_self) (hv.opens h).2.1
  · exact fun h => by cases h
  · exact fun a h => Or.inr (Or.inl (Option.some.inj h).symm)
  · exact fun sdp h => by cases h

theorem acquire_valid (hv : Valid s) : Valid s.acquire := by
  unfold Session.acquire
  split
  · rename_i call calls hr hw
    cases call with
    | onOfferReceived sdp => exact describe_valid hv hr hw rfl sdp true
    | onAnswerReceived sdp => exact describe_valid hv hr hw rfl sdp false
    | onCandidateReceived c late => exact candidate_valid hv hr hw
    | stop => exact stopping_valid hv hr hw
  · exact hv

/-- A call joins those that wait for the lock. -/
theorem Valid.waits (hv : Valid s) (call : Call)
    (hready : Live s → Ready (told s) (s.waiting ++ [call]))
    (hpending : pending [call] = []) (hstop : call = .stop → s.closing = true) :
    Valid (s.enqueue call) where
  applied := by
    refine ⟨?_,hv.applied.described⟩
    show s.received = _ ++ pending (s.waiting ++ [call])
    rw [pending_append, hpending, List.append_nil]
    exact hv.applied.inOrder
  ready := hready
  closes := fun hl h => List.mem_append_left _ (hv.closes hl h)
  empty := hv.empty
  alone := by
    intro h
    show pending (s.waiting ++ [call]) = []
    rw [pending_append, hpending, List.append_nil]
    exact hv.alone h
  opens := by
    intro h
    refine ⟨(hv.opens h).1,fun hin => ?_,(hv.opens h).2.2⟩
    rcases List.mem_append.mp hin with hin | hin
    · exact (hv.opens h).2.1 hin
    · have hopen : s.closing = false := h
      exact absurd (hstop (List.mem_singleton.mp hin).symm) (by simp [hopen])
  creates := hv.creates
  busy := hv.busy
  loop := hv.loop

theorem onCandidateReceived_late (h : s.closing = true) (c : IceCandidate) :
    s.onCandidateReceived c =
      if s.isClosing then s else s.enqueue (.onCandidateReceived c true) := by
  cases s
  cases h
  rfl

theorem onCandidateReceived_open (h : s.closing = false) (ho : s.isClosing = false)
    (c : IceCandidate) : s.onCandidateReceived c = { s with
      received := s.received ++ [c]
      waiting := s.waiting ++ [Call.onCandidateReceived c false] } := by
  unfold Session.isClosing at ho
  simp [Session.onCandidateReceived, Session.isClosing, Session.enqueue, h, ho]

theorem received_valid (hv : Valid s) (c : IceCandidate)
    (ha : s.closing = false → Announced s) : Valid (s.onCandidateReceived c) := by
  cases hclosing : s.closing with
  | true =>
    rw [onCandidateReceived_late hclosing]
    split
    · exact hv
    · exact hv.waits _ (fun hl => ready_late (hv.ready hl) (hv.closes hl hclosing) c) rfl
        (fun h => by cases h)
  | false =>
    obtain ⟨hopen, hstop, hclose⟩ := hv.opens hclosing
    obtain ⟨hp, hknown⟩ := ha hclosing
    have hlive : Live s := Or.inr ⟨hp,hclose⟩
    rw [onCandidateReceived_open hclosing hopen]
    constructor
    · refine ⟨?_,hv.applied.described⟩
      show s.received ++ [c] = _ ++ pending (s.waiting ++ [Call.onCandidateReceived c false])
      rw [pending_append, hv.applied.inOrder, List.append_assoc]
      rfl
    · exact fun _ => ready_candidate (hv.ready hlive) hstop c hknown
    · intro _ h
      exact absurd h (by simp [hclosing])
    · exact fun _ => hv.empty hlive
    · exact fun h => absurd ⟨hp,hclose⟩ h
    · exact fun _ => ⟨hopen,by simpa using hstop,hclose⟩
    · exact hv.creates
    · exact hv.busy
    · exact hv.loop

theorem receive_valid (hv : Valid s) (message : Signal)
    (ha : isCandidate message = true → s.closing = false → Announced s) :
    Valid (s.receive message) := by
  have hdescribe : ∀ call, isDescription call = true → Valid (s.enqueue call) := by
    intro call hd
    refine hv.waits call (fun hl => ready_description (hv.ready hl) hd) ?_ ?_
    · cases call <;> first | rfl | cases hd
    · rintro rfl
      cases hd
  unfold Session.receive
  split
  · split
    · exact hv
    · exact hdescribe _ rfl
  · split
    · exact hv
    · exact hdescribe _ rfl
  · exact received_valid hv _ (ha rfl)
  · exact received_valid hv _ (ha rfl)
  · exact hv

theorem onTrack_valid (hv : Valid s) : Valid s.onTrack := by
  unfold Session.onTrack
  split
  · exact ⟨⟨hv.applied.inOrder,hv.applied.described⟩,hv.ready,hv.closes,hv.empty,hv.alone,
      fun h => ⟨rfl,(hv.opens h).2⟩,hv.creates,hv.busy,hv.loop⟩
  · exact hv

theorem stop_valid (hv : Valid s) : Valid s.stop := by
  unfold Session.stop
  split
  · exact hv
  · have hpending : pending (s.waiting ++ [Call.stop]) = pending s.waiting := by
      rw [pending_append]
      exact List.append_nil _
    constructor
    · refine ⟨?_,hv.applied.described⟩
      show s.received = _ ++ pending (s.waiting ++ [Call.stop])
      rw [hpending]
      exact hv.applied.inOrder
    · exact fun hl => ready_stop (hv.ready hl)
    · exact fun _ _ => List.mem_append_right _ (List.mem_singleton_self _)
    · exact hv.empty
    · intro h
      show pending (s.waiting ++ [Call.stop]) = []
      rw [hpending]
      exact hv.alone h
    · exact fun h => by cases h
    · exact hv.creates
    · exact hv.busy
    · exact hv.loop

end Session

theorem startRequest_valid (current : Bool) : Valid (Session.startRequest current) := by
  cases current <;> constructor <;>
    simp [Session.startRequest, Live, Ready, pending, Session.isClosing] <;>
    constructor <;> simp [pending]

theorem acceptRequest_valid (current : Bool) : Valid (Session.acceptRequest current) := by
  cases current <;> constructor <;>
    simp [Session.acceptRequest, Live, Ready, pending, Session.isClosing] <;>
    constructor <;> simp [pending]

section Exchanges
variable {w : Exchange}

theorem put_valid (hv : ∀ side, ∀ s ∈ w.session side, Valid s) {side : Side} {s : Session}
    (hs : Valid s) (sent : List Signal) :
    ∀ side', ∀ s' ∈ (w.put side s sent).session side', Valid s' := by
  intro side' s' h
  simp only [Exchange.put, Function.update_apply] at h
  split at h
  · cases h
    exact hs
  · exact hv side' s' h

theorem act_valid (hv : ∀ side, ∀ s ∈ w.session side, Valid s) {side : Side}
    {f : Session → Session × List Signal} (hf : ∀ s ∈ w.session side, Valid s → Valid (f s).1) :
    ∀ side', ∀ s' ∈ (w.act side f).session side', Valid s' := by
  unfold Exchange.act
  cases hs : w.session side with
  | none => exact hv
  | some s => exact put_valid hv (hf s hs (hv side s hs)) _

theorem step_valid (action : Action) (w : Exchange) (hg : Kept action w)
    (hv : ∀ side, ∀ s ∈ w.session side, Valid s) :
    ∀ side, ∀ s ∈ (step action w).session side, Valid s := by
  cases action with
  | startRequest current =>
    simp only [step]
    split
    · exact put_valid hv (startRequest_valid current) []
    · exact hv
  | deliver side current =>
    simp only [step, Exchange.deliver]
    split
    · exact hv
    · split
      · exact put_valid (w := w.drop side) hv (acceptRequest_valid current) []
      · exact hv
    · rename_i message hne hhead
      refine act_valid (w := w.drop side) hv ?_
      intro s hs hs'
      exact receive_valid hs' message (hg s hs message hhead)
  | lose side => exact hv
  | acquire side => exact act_valid hv (fun s _ hs => acquire_valid hs)
  | resume side sdp => exact act_valid hv (fun s _ hs => resume_valid hs sdp)
  | gather side c => exact act_valid hv (fun s _ hs => hs)
  | track side => exact act_valid hv (fun s _ hs => onTrack_valid hs)
  | stop side => exact act_valid hv (fun s _ hs => stop_valid hs)

end Exchanges

/-- Once the lock of a side has been worked off, every candidate delivered in
time has been added once, in order and with the remote description set. -/
def Settles (w : Exchange) (side : Side) (s : Session) : Prop :=
  ∃ rest, (∀ action ∈ rest, action = .acquire side ∨ ∃ sdp, action = .resume side sdp) ∧
    ∃ t, (run step rest w).session side = some t ∧ t.running = none ∧ t.waiting = [] ∧
      t.added.map Prod.fst = s.received ∧ ∀ call ∈ t.added, call.2 = true

section Progress

def Await.rank : Await → ℕ
  | .createPeerConnection => 3
  | .setRemoteDescription _ _ => 3
  | .createOffer => 2
  | .createAnswer => 2
  | _ => 1

/-- The waits that are left for the lock. -/
def work (s : Session) : ℕ := 4 * s.waiting.length + (s.running.map Await.rank).getD 0

theorem acquire_work (s : Session) :
    work s.acquire ≤ work s ∧ s.acquire.received = s.received ∧
      (s.running = none → s.waiting ≠ [] → work s.acquire < work s) := by
  unfold Session.acquire
  split
  · rename_i call calls hr hw
    have hleft : work s = 4 * calls.length + 4 := by
      simp [work, hr, hw]
      omega
    have hbegin : work (Session.begin { s with waiting := calls } call) ≤ 4 * calls.length + 3 ∧
        (Session.begin { s with waiting := calls } call).received = s.received := by
      cases call <;> simp only [Session.begin, Session.addCandidate]
      all_goals try split
      all_goals simp [work, Await.rank, hr]
    exact ⟨by omega,hbegin.2,fun _ _ => by omega⟩
  · rename_i h
    refine ⟨le_refl _,rfl,fun hr hw => ?_⟩
    obtain ⟨call, calls, hcalls⟩ := List.exists_cons_of_ne_nil hw
    exact absurd hcalls (h call calls hr)

theorem resume_work {s : Session} (hv : Valid s) (sdp : String) :
    work (s.resume sdp).1 ≤ work s ∧ (s.resume sdp).1.received = s.received ∧
      (s.running ≠ none → work (s.resume sdp).1 < work s) := by
  unfold Session.resume
  split <;> rename_i hr
  · exact ⟨le_refl _,rfl,fun h => absurd hr h⟩
  · by_cases hside : s.side = .controlled <;> simp [work, hr, hside, Await.rank]
  · simp [work, hr, Await.rank, Session.setLocalDescription]
  · rename_i answering
    cases answering <;> simp [work, hr, Await.rank]
  · simp [work, hr, Await.rank, Session.setLocalDescription]
  · have hp : s.pc.isSome := by simpa using hv.busy _ hr
    have hempty : s.candidates = [] := hv.empty (Or.inr ⟨hp,by simp [hr]⟩)
    simp [work, hr, Await.rank, Session.flush, hempty]
  · simp [work, hr, Await.rank]
  · exact absurd hr (hv.loop _)
  · simp [work, hr, Await.rank]

theorem settles {side : Side} {s : Session} {w : Exchange} (hs : w.session side = some s)
    (hv : Valid s) : Settles w side s := by
  generalize hn : work s = n
  induction n using Nat.strong_induction_on generalizing s w with
  | _ n ih =>
    by_cases hidle : s.running = none ∧ s.waiting = []
    · have horder := hv.applied.inOrder
      rw [hidle.2] at horder
      refine ⟨[],by simp,s,hs,hidle.1,hidle.2,?_,hv.applied.described⟩
      simpa [pending] using horder.symm
    · obtain ⟨hle, hrec, hlt⟩ := acquire_work s
      have hvalid := acquire_valid hv
      obtain ⟨hle', hrec', hlt'⟩ := resume_work hvalid ""
      have hdrop : work (s.acquire.resume "").1 < n := by
        by_cases hr : s.running = none
        · have hacq := hlt hr (fun hw => hidle ⟨hr,hw⟩)
          omega
        · have hsame : s.acquire = s := by
            unfold Session.acquire
            split
            · rename_i h _
              exact absurd h hr
            · rfl
          have hres := hlt' (by rwa [hsame])
          omega
      have hstep : (step (.resume side "") (step (.acquire side) w)).session side =
          some (s.acquire.resume "").1 := by
        simp [step, Exchange.act, hs, Exchange.put]
      obtain ⟨rest, honly, t, ht, hrun, hwait, hadded, htold⟩ :=
        ih _ hdrop hstep (resume_valid hvalid "") rfl
      refine ⟨.acquire side::.resume side ""::rest,?_,t,ht,hrun,hwait,?_,htold⟩
      · intro action h
        rcases List.mem_cons.mp h with rfl | h
        · exact Or.inl rfl
        rcases List.mem_cons.mp h with rfl | h
        · exact Or.inr ⟨"",rfl⟩
        · exact honly action h
      · rw [hadded, hrec', hrec]

end Progress

/-- In every run in which candidates arrive after the description, every
candidate delivered before a session closes has been added once and in time or
waits for the lock, and is added when the lock has been worked off. -/
theorem candidates_run (actions : List Action) (h : Meets step Kept actions {}) :
    ∀ before after, actions = before ++ after → ∀ side,
      ∀ s ∈ (run step before {}).session side,
        Applied s ∧ Settles (run step before {}) side s := by
  rintro before after rfl side s hs
  have hvalid := run_invariant step step_valid before {}
    (meets_of_append step Kept before after _ h) (fun side s hs => by cases hs)
  exact ⟨(hvalid side s hs).applied,settles hs (hvalid side s hs)⟩

def host : IceCandidate := ⟨some "host",some "0",some 0⟩

/-- Both sides up to the node's call of `setLocalDescription`. -/
def offering : List Action :=
  [.startRequest true,.resume .controller "",.deliver .controlled true,.resume .controlled "",
    .resume .controlled "offer"]

/-- The candidate of the node is gathered after the offer has been sent, and
that of the controller after the answer. -/
def patient : List Action :=
  offering ++ [.resume .controlled "",.gather .controlled host,.deliver .controller true,
    .deliver .controller true,.acquire .controller,.resume .controller "",
    .resume .controller "answer",.resume .controller "",.acquire .controller,
    .gather .controller host,.deliver .controlled true,.deliver .controlled true]

theorem candidates_wait :
    ((run step patient {}).session .controller).map Session.added = some [(host,true)] ∧
    ((run step patient {}).session .controlled).map Session.received = some [host] ∧
    ∀ before after, patient = before ++ after → ∀ side,
      ∀ s ∈ (run step before {}).session side,
        Applied s ∧ Settles (run step before {}) side s :=
  ⟨by decide,by decide,candidates_run patient (by decide)⟩

/-- Candidates that are gathered before the description has been sent arrive
before it, at the controller and at the node. -/
def hasty : List Action :=
  offering ++ [.gather .controlled host,.deliver .controller true,.acquire .controller,
    .resume .controlled "",.deliver .controller true,.resume .controller "",.acquire .controller,
    .resume .controller "",.resume .controller "answer",.gather .controller host,
    .deliver .controlled true,.acquire .controlled]

theorem candidates_refused :
    ((run step hasty {}).session .controller).map Session.added = some [(host,false)] ∧
    ((run step hasty {}).session .controlled).map Session.added = some [(host,false)] ∧
    ¬∀ side, ∀ s ∈ (run step hasty {}).session side, Applied s := by
  refine ⟨by decide,by decide,fun h => ?_⟩
  have hadded : ((run step hasty {}).session .controller).map Session.added =
      some [(host,false)] := by decide
  obtain ⟨s, hs, hs'⟩ := Option.map_eq_some_iff.mp hadded
  have hcall := (h .controller s hs).described (host,false)
    (by rw [hs']; exact List.mem_singleton_self _)
  cases hcall

end CloudPlay.CandidateOrder
