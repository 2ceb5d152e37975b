import CloudPlay.KeyedTable
import Mathlib.Data.Int.Notation

/-!
# Audio sessions of a host

`audioRequested` and `dispose` of `lib/entities/audiosession.dart`, and the two
places of a streaming session that call them. A start waits for the capture, for
the peer connection and for every track it adds, and goes on after its session was
replaced or disposed. The system's audio is captured once for all sessions.
-/

set_option autoImplicit false

namespace CloudPlay.SystemAudio
open KeyedTable

abbrev AudioId := ℕ
abbrev SessionId := ℕ
abbrev StreamId := ℕ

/-- What `audioRequested` waits for. -/
inductive Start where
  | capturing
  | connecting
  | adding (tracks : ℕ)
  | over
  deriving DecidableEq, Repr

def addTracks (tracks : ℕ) : Start := if tracks = 0 then .over else .adding tracks

/-- `current` says that the streaming session still has this audio session. -/
structure AudioSession where
  id : AudioId
  session : SessionId
  controlled : String
  start : Start
  audioSender : Bool := false
  current : Bool := true
  deriving DecidableEq, Repr

def AudioSession.trackAdded (tracks : ℕ) (a : AudioSession) : AudioSession :=
  { a with start := addTracks (tracks-1), audioSender := true }

def AudioSession.disposed (a : AudioSession) : AudioSession :=
  { a with audioSender := false, current := false }

/-- Another audio session takes its place in the streaming session. -/
def AudioSession.replaced (session : SessionId) (a : AudioSession) : AudioSession :=
  { a with current := a.current && a.session ≠ session }

theorem AudioSession.trackAdded_id (tracks : ℕ) (a : AudioSession) :
    (a.trackAdded tracks).id = a.id := rfl

theorem AudioSession.disposed_id (a : AudioSession) : a.disposed.id = a.id := rfl

theorem AudioSession.replaced_id (session : SessionId) (a : AudioSession) :
    (a.replaced session).id = a.id := rfl

structure MediaStream where
  id : StreamId
  tracks : ℕ
  deriving DecidableEq, Repr

/-- The stream is the one that `localAudioStreams` has for the system. -/
structure Host where
  websocketSessionid : String
  audioSessions : Table AudioSession.id := .empty
  created : ℕ := 0
  audioSenderCount : ℤ := 0
  localAudioStream : Option MediaStream := none
  captures : ℕ := 0
  stoppedStreams : List StreamId := []

namespace Host

def change (h : Host) (id : AudioId) (f : AudioSession → AudioSession)
    (hf : ∀ a, (f a).id = a.id) : Host :=
  { h with audioSessions := h.audioSessions.modify id f hf }

def goOn (h : Host) (id : AudioId) (start : Start) : Host :=
  h.change id (fun a => { a with start := start }) (fun _ => rfl)

def withSender (h : Host) (id : AudioId) (tracks : ℕ) : Host :=
  h.change id (AudioSession.trackAdded tracks) (AudioSession.trackAdded_id tracks)

def withDisposed (h : Host) (id : AudioId) : Host :=
  h.change id AudioSession.disposed AudioSession.disposed_id

/-- `LP_AUDIO_CONNECT`: a new audio session takes the place of the one there is. -/
def connect (h : Host) (session : SessionId) (controlled : String) : Host :=
  let replaced := h.audioSessions.map (AudioSession.replaced session)
    (AudioSession.replaced_id session)
  let audioSession : AudioSession :=
    { id := h.created
      session := session
      controlled := controlled
      start := if h.localAudioStream.isSome then .connecting else .capturing }
  { h with
    audioSessions := (replaced.insert? audioSession).getD replaced
    created := h.created+1 }

/-- `getUserMedia` returns a stream of so many tracks. -/
def captured (h : Host) (a : AudioSession) (tracks : ℕ) : Host :=
  if a.start = .capturing then
    { h.goOn a.id .connecting with
      localAudioStream := some ⟨h.captures,tracks⟩
      captures := h.captures+1 }
  else h

/-- The capture or the peer connection throws. -/
def failed (h : Host) (a : AudioSession) : Host :=
  if a.start = .capturing ∨ a.start = .connecting then h.goOn a.id .over else h

def connected (h : Host) (a : AudioSession) : Host :=
  if a.start = .connecting then
    match h.localAudioStream with
    | none => h.goOn a.id .over
    | some stream => h.goOn a.id (addTracks stream.tracks)
  else h

def trackAdded (h : Host) (a : AudioSession) : Host :=
  match a.start with
  | .adding tracks =>
    { h.withSender a.id tracks with audioSenderCount := h.audioSenderCount+1 }
  | _ => h

def trackFailed (h : Host) (a : AudioSession) : Host :=
  match a.start with
  | .adding tracks => h.goOn a.id (addTracks (tracks-1))
  | _ => h

/-- The count in `dispose`. -/
def release (h : Host) : Host :=
  if h.audioSenderCount-1 = 0 then
    match h.localAudioStream with
    | none => { h with audioSenderCount := h.audioSenderCount-1 }
    | some stream =>
      { h with
        audioSenderCount := h.audioSenderCount-1
        localAudioStream := none
        stoppedStreams := stream.id::h.stoppedStreams }
  else { h with audioSenderCount := h.audioSenderCount-1 }

def dispose (h : Host) (a : AudioSession) : Host :=
  let counted := if a.controlled = h.websocketSessionid then h.release else h
  counted.withDisposed a.id

/-- `stop` of a streaming session. -/
def stop (h : Host) (session : SessionId) : Host :=
  match h.audioSessions.rows.find? (fun a => a.session = session && a.current) with
  | none => h
  | some a => h.dispose a

end Host

/-- `connectionInfo` is the server's message with the connection id of the host. -/
inductive Event where
  | connect (session : SessionId) (controlled : String)
  | captured (id : AudioId) (tracks : ℕ)
  | failed (id : AudioId)
  | connected (id : AudioId)
  | trackAdded (id : AudioId)
  | trackFailed (id : AudioId)
  | stop (session : SessionId)
  | connectionInfo (id : String)
  deriving DecidableEq, Repr

def progress (h : Host) (id : AudioId) (f : Host → AudioSession → Host) : Host :=
  match h.audioSessions.get? id with
  | none => h
  | some a => f h a

def step : Event → Host → Host
  | .connect session controlled, h => h.connect session controlled
  | .captured id tracks, h => progress h id fun h a => h.captured a tracks
  | .failed id, h => progress h id Host.failed
  | .connected id, h => progress h id Host.connected
  | .trackAdded id, h => progress h id Host.trackAdded
  | .trackFailed id, h => progress h id Host.trackFailed
  | .stop session, h => h.stop session
  | .connectionInfo id, h => { h with websocketSessionid := id }

end CloudPlay.SystemAudio
