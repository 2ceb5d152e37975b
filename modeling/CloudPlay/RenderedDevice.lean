import CloudPlay.TransitionRun
import Mathlib.Logic.Function.Basic

/-!
# The picture on the page and the session that gets the input

Sessions and the streams they bring are kept by device. One renderer shows the stream of
the device whose page is open, and the input goes to the session of the picture. The
renderer is made for the first stream and takes a while to be ready; a stream set on it
before is an error that ends the caller.
-/

set_option autoImplicit false

namespace CloudPlay.RenderedDevice
open TransitionRun

/-- A stream is named by the number of the session it comes from. -/
inductive Renderer
  | absent
  | initializing (deviceId : String) (stream : ℕ)
  | failed
  | ready (srcObject : Option ℕ)

structure Service where
  sessions : String → Option ℕ := fun _ => none
  started : ℕ := 0
  streams : String → Option ℕ := fun _ => none
  currentDeviceId : String := ""
  globalVideoRenderer : Renderer := .absent
  currentRenderingSession : Option ℕ := none

inductive Event
  | startStreaming (deviceId : String)
  | onTrack (deviceId : String) (session : ℕ)
  | initialized
  | failed
  | updateCurrentRenderingDevice (deviceId : String)
  | stopStreaming (deviceId : String)

namespace Service

def srcObject (s : Service) : Option ℕ :=
  match s.globalVideoRenderer with
  | .ready srcObject => srcObject
  | _ => none

def setSession (deviceId : String) (session : Option ℕ) (s : Service) : Service :=
  {s with sessions := Function.update s.sessions deviceId session}

def startStreaming (deviceId : String) (s : Service) : Service :=
  if (s.sessions deviceId).isSome then s
  else {s.setSession deviceId (some s.started) with started := s.started+1}

/-- The current device shows the stream, and its session gets the input if there is one. -/
def follow (stream : ℕ) (s : Service) : Service :=
  { s with
    globalVideoRenderer := .ready (some stream)
    currentRenderingSession := (s.sessions s.currentDeviceId).or s.currentRenderingSession }

def setStream (deviceId : String) (stream : Option ℕ) (s : Service) : Service :=
  {s with streams := Function.update s.streams deviceId stream}

def addStream (deviceId : String) (stream : ℕ) (s : Service) : Service :=
  let kept := s.setStream deviceId (some stream)
  match s.globalVideoRenderer with
  | .absent => {kept with globalVideoRenderer := .initializing deviceId stream}
  | .ready _ => if s.currentDeviceId = deviceId then kept.follow stream else kept
  | _ => kept

/-- What waits for the renderer when it is ready. -/
def initialized (s : Service) : Service :=
  match s.globalVideoRenderer with
  | .initializing deviceId stream =>
    let made := {s with globalVideoRenderer := .ready none}
    if s.currentDeviceId = deviceId then made.follow stream else made
  | _ => s

def fail (s : Service) : Service :=
  match s.globalVideoRenderer with
  | .initializing _ _ => {s with globalVideoRenderer := .failed}
  | _ => s

def removeStream (deviceId : String) (s : Service) : Service :=
  if (s.streams deviceId).isSome then
    let rest := s.setStream deviceId none
    if s.currentDeviceId = deviceId then
      match s.globalVideoRenderer with
      | .ready _ => {rest with globalVideoRenderer := .ready none, currentRenderingSession := none}
      | _ => rest
    else rest
  else s

def stopStreaming (deviceId : String) (s : Service) : Service :=
  if (s.sessions deviceId).isSome then
    (s.setSession deviceId none).removeStream deviceId
  else s

def updateCurrentRenderingDevice (deviceId : String) (s : Service) : Service :=
  if s.currentDeviceId = deviceId then s
  else
    let moved := {s with currentDeviceId := deviceId}
    match s.streams deviceId with
    | none => moved
    | some stream =>
      match s.globalVideoRenderer with
      | .absent => {moved with currentRenderingSession := s.sessions deviceId}
      | .ready _ =>
        { moved with
          globalVideoRenderer := .ready (some stream)
          currentRenderingSession := s.sessions deviceId }
      | _ => moved

end Service

def step : Event → Service → Service
  | .startStreaming deviceId, s => s.startStreaming deviceId
  | .onTrack deviceId session, s => s.addStream deviceId session
  | .initialized, s => s.initialized
  | .failed, s => s.fail
  | .updateCurrentRenderingDevice deviceId, s => s.updateCurrentRenderingDevice deviceId
  | .stopStreaming deviceId, s => s.stopStreaming deviceId

/-- The input goes to the session of the picture, which is running, and the current device
is shown when it has a stream. -/
structure Faithful (s : Service) : Prop where
  running : ∀ deviceId stream, s.streams deviceId = some stream →
    s.sessions deviceId = some stream
  input : s.currentRenderingSession = s.srcObject
  live : ∀ stream, s.srcObject = some stream → ∃ deviceId, s.streams deviceId = some stream
  current : ∀ srcObject stream, s.globalVideoRenderer = .ready srcObject →
    s.streams s.currentDeviceId = some stream → srcObject = some stream

/-- Tracks come from sessions that run, the stream that the renderer is made for is still
there when it is ready, unless another page is open on a device without a stream, and the
session that is shown is stopped on its own page. -/
def Undisturbed : Event → Service → Prop
  | .onTrack deviceId session, s => s.sessions deviceId = some session
  | .initialized, s => ∀ deviceId stream,
      s.globalVideoRenderer = .initializing deviceId stream →
        s.streams s.currentDeviceId = if s.currentDeviceId = deviceId then some stream else none
  | .stopStreaming deviceId, s => s.currentDeviceId = deviceId ∨ s.streams deviceId = none ∨
      s.srcObject ≠ s.streams deviceId
  | _, _ => True

/-- Sessions are numbered as they start, and nothing is shown before there is a stream. -/
structure Sound (s : Service) : Prop where
  numbered : ∀ deviceId session, s.sessions deviceId = some session → session < s.started
  distinct : ∀ deviceId other session, s.sessions deviceId = some session →
    s.sessions other = some session → deviceId = other
  absent : s.globalVideoRenderer = .absent → ∀ deviceId, s.streams deviceId = none
  input : ∀ session, s.currentRenderingSession = some session → ∃ srcObject,
    s.globalVideoRenderer = .ready srcObject

section Steps
variable {s : Service} {deviceId : String} {session : ℕ}

theorem Sound.idle (h : Sound s) (hr : ∀ srcObject, s.globalVideoRenderer ≠ .ready srcObject) :
    s.currentRenderingSession = none := by
  cases hs : s.currentRenderingSession with
  | none => rfl
  | some session =>
    obtain ⟨srcObject, hready⟩ := h.input session hs
    exact absurd hready (hr srcObject)

theorem start_sound (h : Sound s) : Sound (s.startStreaming deviceId) := by
  unfold Service.startStreaming
  split
  · exact h
  · have hnumbered := h.numbered
    have hdistinct := h.distinct
    refine ⟨?_,?_,h.absent,h.input⟩
    · simp only [Service.setSession, Function.update_apply]
      grind
    · simp only [Service.setSession, Function.update_apply]
      grind

theorem remove_sound (h : Sound s) : Sound (s.removeStream deviceId) := by
  unfold Service.removeStream
  have habsent : s.globalVideoRenderer = .absent → ∀ other,
      (s.setStream deviceId none).streams other = none := by
    intro hr other
    simp [Service.setStream, Function.update_apply, h.absent hr]
  split
  · split
    · split
      · refine ⟨h.numbered,h.distinct,(fun hr => nomatch hr),(fun _ hs => nomatch hs)⟩
      · exact ⟨h.numbered,h.distinct,habsent,h.input⟩
    · exact ⟨h.numbered,h.distinct,habsent,h.input⟩
  · exact h

theorem stop_sound (h : Sound s) : Sound (s.stopStreaming deviceId) := by
  unfold Service.stopStreaming
  split
  · apply remove_sound
    have hnumbered := h.numbered
    have hdistinct := h.distinct
    refine ⟨?_,?_,h.absent,h.input⟩
    · simp only [Service.setSession, Function.update_apply]
      grind
    · simp only [Service.setSession, Function.update_apply]
      grind
  · exact h

theorem sound_step (e : Event) (s : Service) (h : Sound s) : Sound (step e s) := by
  cases e with
  | startStreaming deviceId => exact start_sound h
  | onTrack deviceId session =>
    simp only [step, Service.addStream]
    split
    · rename_i hr
      have hnone := h.idle fun _ hready => by rw [hr] at hready; cases hready
      refine ⟨h.numbered,h.distinct,(fun habsent => nomatch habsent),fun session hs => ?_⟩
      simp [Service.setStream, hnone] at hs
    · rename_i hr
      split
      · exact ⟨h.numbered,h.distinct,(fun habsent => nomatch habsent),fun _ _ => ⟨_,rfl⟩⟩
      · refine ⟨h.numbered,h.distinct,fun habsent => ?_,h.input⟩
        simp [Service.setStream, hr] at habsent
    · rename_i habsent' _
      exact ⟨h.numbered,h.distinct,fun habsent => absurd habsent habsent',h.input⟩
  | initialized =>
    simp only [step, Service.initialized]
    split
    · split
      · exact ⟨h.numbered,h.distinct,(fun habsent => nomatch habsent),fun _ _ => ⟨_,rfl⟩⟩
      · exact ⟨h.numbered,h.distinct,(fun habsent => nomatch habsent),fun _ _ => ⟨_,rfl⟩⟩
    · exact h
  | failed =>
    simp only [step, Service.fail]
    split
    · rename_i hr
      have hnone := h.idle fun _ hready => by rw [hr] at hready; cases hready
      refine ⟨h.numbered,h.distinct,(fun habsent => nomatch habsent),fun session hs => ?_⟩
      rw [hnone] at hs
      cases hs
    · exact h
  | updateCurrentRenderingDevice deviceId =>
    simp only [step, Service.updateCurrentRenderingDevice]
    split
    · exact h
    · split
      · exact ⟨h.numbered,h.distinct,h.absent,h.input⟩
      · rename_i stream hstream
        split
        · rename_i hr
          rw [h.absent hr] at hstream
          cases hstream
        · exact ⟨h.numbered,h.distinct,(fun habsent => nomatch habsent),fun _ _ => ⟨_,rfl⟩⟩
        · exact ⟨h.numbered,h.distinct,h.absent,h.input⟩
  | stopStreaming deviceId => exact stop_sound h

/-! What keeps the picture with the input. -/

theorem start_faithful (h : Faithful s) : Faithful (s.startStreaming deviceId) := by
  unfold Service.startStreaming
  split
  · exact h
  · rename_i hnone
    refine ⟨fun other stream hs => ?_,h.input,h.live,h.current⟩
    have hrunning := h.running other stream hs
    have ho : other ≠ deviceId := by
      rintro rfl
      rw [hrunning] at hnone
      exact hnone rfl
    simpa only [Service.setSession, Function.update_of_ne ho] using hrunning

theorem setStream_running (h : Faithful s) (hs : s.sessions deviceId = some session) :
    ∀ other stream, (s.setStream deviceId (some session)).streams other = some stream →
      s.sessions other = some stream := by
  intro other stream
  have hrunning := h.running
  simp only [Service.setStream, Function.update_apply]
  grind

theorem setStream_live (h : Faithful s) (hs : s.sessions deviceId = some session) :
    ∀ stream, s.srcObject = some stream →
      ∃ other, (s.setStream deviceId (some session)).streams other = some stream := by
  intro stream hsrc
  obtain ⟨other, hother⟩ := h.live stream hsrc
  refine ⟨other,?_⟩
  have hrunning := h.running other stream hother
  simp only [Service.setStream, Function.update_apply]
  grind

theorem track_faithful_iff (h : Faithful s) (hs : Sound s) :
    Faithful (s.addStream deviceId session) ↔ s.sessions deviceId = some session := by
  constructor
  · intro hnext
    have hstreams : (s.addStream deviceId session).streams deviceId = some session := by
      unfold Service.addStream
      split
      · simp [Service.setStream]
      · split <;> simp [Service.setStream, Service.follow]
      · simp [Service.setStream]
    have hsessions : (s.addStream deviceId session).sessions = s.sessions := by
      unfold Service.addStream
      split
      · rfl
      · split <;> rfl
      · rfl
    rw [← hsessions]
    exact hnext.running deviceId session hstreams
  · intro hsession
    have hrunning := setStream_running h hsession
    have hlive := setStream_live h hsession
    unfold Service.addStream
    split
    · rename_i hr
      have hidle := hs.idle fun _ hready => by rw [hr] at hready; cases hready
      exact ⟨hrunning,hidle,(fun _ hsrc => nomatch hsrc),(fun _ _ hready => nomatch hready)⟩
    · rename_i srcObject hr
      split
      · rename_i hc
        subst hc
        refine ⟨hrunning,?_,?_,?_⟩
        · simp [Service.follow, Service.setStream, hsession, Service.srcObject]
        · rintro stream ⟨⟩
          exact ⟨s.currentDeviceId,by simp [Service.follow, Service.setStream]⟩
        · rintro _ stream ⟨⟩ hstream
          simpa [Service.follow, Service.setStream] using hstream
      · rename_i hc
        refine ⟨hrunning,h.input,hlive,fun srcObject stream hready hstream => ?_⟩
        simp only [Service.setStream, Function.update_of_ne hc] at hstream
        exact h.current srcObject stream hready hstream
    · rename_i habsent hnot
      exact ⟨hrunning,h.input,hlive,fun srcObject _ hready => absurd hready (hnot srcObject)⟩

theorem initialized_faithful_iff (h : Faithful s) (hs : Sound s) :
    Faithful s.initialized ↔ ∀ deviceId stream,
      s.globalVideoRenderer = .initializing deviceId stream →
        s.streams s.currentDeviceId =
          if s.currentDeviceId = deviceId then some stream else none := by
  unfold Service.initialized
  split
  · rename_i deviceId stream hr
    have hidle := hs.idle fun _ hready => by rw [hr] at hready; cases hready
    have hguard : (∀ device session, s.globalVideoRenderer = .initializing device session →
        s.streams s.currentDeviceId = if s.currentDeviceId = device then some session else none) ↔
        s.streams s.currentDeviceId =
          if s.currentDeviceId = deviceId then some stream else none := by
      rw [hr]
      refine ⟨fun hall => hall deviceId stream rfl,?_⟩
      rintro hone _ _ ⟨⟩
      exact hone
    rw [hguard]
    by_cases hc : s.currentDeviceId = deviceId
    · rw [if_pos hc, if_pos hc]
      constructor
      · intro hnext
        have hsession : (s.sessions s.currentDeviceId).or s.currentRenderingSession =
            some stream := hnext.input
        rw [hidle, Option.or_none] at hsession
        obtain ⟨other, hother⟩ := hnext.live stream rfl
        have hsame := hs.distinct _ _ _ hsession (h.running other stream hother)
        rw [hsame]
        exact hother
      · intro hstream
        refine ⟨h.running,?_,?_,?_⟩
        · simp [Service.follow, Service.srcObject, h.running _ _ hstream]
        · rintro _ ⟨⟩
          exact ⟨s.currentDeviceId,hstream⟩
        · rintro _ other ⟨⟩ hother
          exact hstream.symm.trans hother
    · rw [if_neg hc, if_neg hc]
      constructor
      · intro hnext
        cases hstream : s.streams s.currentDeviceId with
        | none => rfl
        | some other => cases hnext.current none other rfl hstream
      · intro hnone
        refine ⟨h.running,hidle,(fun _ hsrc => nomatch hsrc),?_⟩
        rintro _ other ⟨⟩ hother
        rw [← hother]
        exact hnone.symm
  · rename_i hnot
    exact iff_of_true h fun deviceId stream hr => absurd hr (hnot deviceId stream)

theorem fail_faithful (h : Faithful s) : Faithful s.fail := by
  unfold Service.fail
  split
  · rename_i hr
    refine ⟨h.running,?_,(fun _ hsrc => nomatch hsrc),(fun _ _ hready => nomatch hready)⟩
    have hinput := h.input
    rw [Service.srcObject, hr] at hinput
    exact hinput
  · exact h

theorem update_faithful (h : Faithful s) (hs : Sound s) :
    Faithful (s.updateCurrentRenderingDevice deviceId) := by
  unfold Service.updateCurrentRenderingDevice
  split
  · exact h
  · split
    · rename_i hnone
      refine ⟨h.running,h.input,h.live,fun _ stream _ hstream => ?_⟩
      rw [hnone] at hstream
      cases hstream
    · rename_i stream hstream
      split
      · rename_i hr
        rw [hs.absent hr] at hstream
        cases hstream
      · refine ⟨h.running,h.running deviceId stream hstream,?_,?_⟩
        · rintro _ ⟨⟩
          exact ⟨deviceId,hstream⟩
        · rintro _ other ⟨⟩ hother
          exact hstream.symm.trans hother
      · rename_i habsent hnot
        exact ⟨h.running,h.input,h.live,fun srcObject _ hready => absurd hready (hnot srcObject)⟩

theorem stop_running (h : Faithful s) (other : String) (stream : ℕ) :
    (s.setStream deviceId none).streams other = some stream →
      Function.update s.sessions deviceId none other = some stream := by
  have hrunning := h.running other stream
  simp only [Service.setStream, Function.update_apply]
  split
  · exact fun hs => nomatch hs
  · exact hrunning

theorem stop_live_iff (h : Faithful s) (hs : Sound s) {stream : ℕ}
    (hstream : s.streams deviceId = some stream) :
    (∀ shown, s.srcObject = some shown →
      ∃ other, (s.setStream deviceId none).streams other = some shown) ↔
      s.srcObject ≠ s.streams deviceId := by
  constructor
  · intro hall hsame
    obtain ⟨other, hother⟩ := hall stream (hsame.trans hstream)
    simp only [Service.setStream, Function.update_apply] at hother
    split at hother
    · cases hother
    · rename_i ho
      exact ho (hs.distinct _ _ _ (h.running other stream hother)
        (h.running deviceId stream hstream))
  · intro hne shown hshown
    obtain ⟨other, hother⟩ := h.live shown hshown
    have ho : other ≠ deviceId := by
      rintro rfl
      exact hne (hshown.trans hother.symm)
    exact ⟨other,by simpa [Service.setStream, ho] using hother⟩

theorem stop_faithful_iff (h : Faithful s) (hs : Sound s) :
    Faithful (s.stopStreaming deviceId) ↔ s.currentDeviceId = deviceId ∨
      s.streams deviceId = none ∨ s.srcObject ≠ s.streams deviceId := by
  unfold Service.stopStreaming
  cases hstream : s.streams deviceId with
  | none =>
    apply iff_of_true _ (Or.inr (Or.inl rfl))
    split
    · have hkept : (s.setSession deviceId none).removeStream deviceId =
          s.setSession deviceId none := if_neg (by simp [Service.setSession, hstream])
      rw [hkept]
      refine ⟨fun other stream hother => ?_,h.input,h.live,h.current⟩
      have ho : other ≠ deviceId := by
        rintro rfl
        cases hstream.symm.trans hother
      simpa [Service.setSession, Function.update_of_ne ho] using h.running other stream hother
    · exact h
  | some stream =>
    have hsession := h.running deviceId stream hstream
    have hkept : (s.setSession deviceId none).streams deviceId = some stream := hstream
    rw [if_pos (by rw [hsession]; rfl), Service.removeStream, if_pos (by rw [hkept]; rfl)]
    rw [show (s.setSession deviceId none).currentDeviceId = s.currentDeviceId from rfl]
    by_cases hc : s.currentDeviceId = deviceId
    · apply iff_of_true _ (Or.inl hc)
      rw [if_pos hc]
      split
      · refine ⟨stop_running h,rfl,(fun _ hsrc => nomatch hsrc),?_⟩
        rintro _ other ⟨⟩ hother
        change Function.update s.streams deviceId none s.currentDeviceId = some other at hother
        rw [hc, Function.update_self] at hother
        cases hother
      · rename_i hnot
        have hidle := hs.idle hnot
        have hsrc : s.srcObject = none := h.input.symm.trans hidle
        refine ⟨stop_running h,h.input,?_,fun srcObject _ hr => absurd hr (hnot srcObject)⟩
        intro shown hshown
        cases hsrc.symm.trans hshown
    · rw [if_neg hc, or_iff_right hc, or_iff_right (by simp), ← hstream,
        ← stop_live_iff h hs hstream]
      refine ⟨fun hnext => hnext.live,fun hlive => ⟨stop_running h,h.input,hlive,?_⟩⟩
      intro srcObject other hr hother
      change Function.update s.streams deviceId none s.currentDeviceId = some other at hother
      rw [Function.update_of_ne hc] at hother
      exact h.current srcObject other hr hother

theorem faithful_step_iff (e : Event) (s : Service) (h : Faithful s ∧ Sound s) :
    (Faithful (step e s) ∧ Sound (step e s)) ↔ Undisturbed e s := by
  rw [and_iff_left (sound_step e s h.2)]
  cases e with
  | startStreaming deviceId => exact iff_of_true (start_faithful h.1) trivial
  | onTrack deviceId session => exact track_faithful_iff h.1 h.2
  | initialized => exact initialized_faithful_iff h.1 h.2
  | failed => exact iff_of_true (fail_faithful h.1) trivial
  | updateCurrentRenderingDevice deviceId => exact iff_of_true (update_faithful h.1 h.2) trivial
  | stopStreaming deviceId => exact stop_faithful_iff h.1 h.2

end Steps

theorem start_is_sound : Sound {} where
  numbered _ _ h := nomatch h
  distinct _ _ _ h := nomatch h
  absent _ _ := rfl
  input _ h := nomatch h

theorem start_is_faithful : Faithful {} where
  running _ _ h := nomatch h
  input := rfl
  live _ h := nomatch h
  current _ _ h := nomatch h

/-- The input goes to the running session whose picture is shown, and an open page with a
stream shows it, all along a run, exactly when no session ends on the page of another
device, no track comes late, and the renderer is ready for the stream it was made for. -/
theorem picture_follows_iff (es : List Event) :
    (∀ before after, es = before ++ after → Faithful (run step before {})) ↔
      Meets step Undisturbed es {} := by
  rw [← always_iff_meets step faithful_step_iff es {} ⟨start_is_faithful,start_is_sound⟩]
  refine ⟨fun h before after hes => ⟨h before after hes,?_⟩,
    fun h before after hes => (h before after hes).1⟩
  exact reachable_invariant step sound_step start_is_sound ⟨before,rfl⟩

end CloudPlay.RenderedDevice
