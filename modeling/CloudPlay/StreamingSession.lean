import Mathlib.Data.Finset.Basic
import Mathlib.Logic.Function.Basic

/-!
# A streaming session and its lock

The bodies that a `StreamingSession` runs under its lock, cut where they wait
for the peer connection. The lock serves its callers in order. A candidate
added before the remote description is set is refused, and the error leaves
the body. Contents of descriptions come from the platform.
-/

set_option autoImplicit false

namespace CloudPlay.StreamingSession

inductive ConnectionState where
  | free
  | requestSent
  | offerSent
  | answerSent
  | answerReceived
  | connecting
  | connected
  | disconnecting
  | disconnected
  deriving DecidableEq, Repr

/-- The two values of `SelfSessionType` a session at work can have. -/
inductive Side where
  | controller
  | controlled
  deriving DecidableEq, Repr

def Side.other : Side → Side
  | .controller => .controlled
  | .controlled => .controller

structure IceCandidate where
  candidate : Option String
  sdpMid : Option String
  sdpMLineIndex : Option ℤ
  deriving DecidableEq, Repr

inductive Signal where
  | requestRemoteControl
  | offer (sdp : String)
  | answer (sdp : String)
  | candidate (c : IceCandidate)
  | candidate2 (c : IceCandidate)
  deriving DecidableEq, Repr

/-- `gathering` says that `setLocalDescription` has been called. -/
structure PeerConnection where
  gathering : Bool := false
  remoteDescription : Option String := none
  deriving DecidableEq, Repr

/-- What the body under the lock waits for. After candidates of the list a
local description goes out. -/
inductive Await where
  | createPeerConnection
  | createOffer
  | setRemoteDescription (sdp : String) (answering : Bool)
  | createAnswer
  | setLocalDescription (sdp : String)
  | addCandidate (description : Option String)
  | close
  deriving DecidableEq, Repr

/-- A body that waits for the lock. `late` marks a candidate that came when
the session was closing. -/
inductive Call where
  | onOfferReceived (sdp : String)
  | onAnswerReceived (sdp : String)
  | onCandidateReceived (c : IceCandidate) (late : Bool)
  | stop
  deriving DecidableEq, Repr

/-- `closing` says that `stop` has been called. `received` are the candidates
delivered before that, `added` the calls of `pc.addCandidate` and whether the
remote description was set then. -/
structure Session where
  side : Side
  connectionState : ConnectionState := .free
  pc : Option PeerConnection := none
  candidates : List IceCandidate := []
  running : Option Await := none
  waiting : List Call := []
  closing : Bool := false
  received : List IceCandidate := []
  added : List (IceCandidate × Bool) := []
  deriving DecidableEq, Repr

namespace Session

/-- `current` says that this device still has its session id. -/
def startRequest (current : Bool) : Session :=
  if current then
    { side := .controller
      connectionState := .requestSent
      running := some .createPeerConnection }
  else { side := .controller }

def acceptRequest (current : Bool) : Session :=
  if current then { side := .controlled, running := some .createPeerConnection }
  else { side := .controlled }

def described (s : Session) : Bool := s.pc.any (fun pc => pc.remoteDescription.isSome)

def addCandidate (c : IceCandidate) (description : Option String) (s : Session) : Session :=
  { s with added := s.added ++ [(c,s.described)], running := some (.addCandidate description) }

def setLocalDescription (sdp : String) (s : Session) : Session :=
  { s with
    pc := s.pc.map (fun pc => { pc with gathering := true })
    running := some (.setLocalDescription sdp) }

/-- The loop over `candidates` and the message after it. -/
def flush (sdp : String) (s : Session) : Session × List Signal :=
  match s.candidates with
  | c::_ => (s.addCandidate c (some sdp),[])
  | [] =>
    ({ s with
      connectionState := if s.side = .controlled then .offerSent else s.connectionState
      running := none },[if s.side = .controlled then .offer sdp else .answer sdp])

/-- A body begins. Without a peer connection `pc!` throws. -/
def begin (s : Session) : Call → Session
  | .onOfferReceived sdp =>
    if s.pc.isSome then { s with running := some (.setRemoteDescription sdp true) } else s
  | .onAnswerReceived sdp =>
    if s.pc.isSome then { s with running := some (.setRemoteDescription sdp false) } else s
  | .onCandidateReceived c _ =>
    if s.pc.isSome then s.addCandidate c none else { s with candidates := s.candidates ++ [c] }
  | .stop => { s with candidates := [], running := some .close }

/-- The lock goes to the first that waits for it. -/
def acquire (s : Session) : Session :=
  match s.running, s.waiting with
  | none, call::calls => { s with waiting := calls }.begin call
  | _, _ => s

/-- What the body waited for has ended, where it was asked for with `sdp` as
the new description. -/
def resume (sdp : String) (s : Session) : Session × List Signal :=
  match s.running with
  | none => (s,[])
  | some .createPeerConnection =>
    ({ s with
      pc := some {}
      running := if s.side = .controlled then some .createOffer else none },
      if s.side = .controlled then [] else [.requestRemoteControl])
  | some .createOffer => (s.setLocalDescription sdp,[])
  | some (.setRemoteDescription remote answering) =>
    ({ s with
      pc := s.pc.map (fun pc => { pc with remoteDescription := some remote })
      running := if answering then some .createAnswer else none },[])
  | some .createAnswer => (s.setLocalDescription sdp,[])
  | some (.setLocalDescription description) => s.flush description
  | some (.addCandidate none) => ({ s with running := none },[])
  | some (.addCandidate (some description)) =>
    if s.described then { s with candidates := s.candidates.tail }.flush description
    else ({ s with running := none },[])
  | some .close => ({ s with pc := none, connectionState := .disconnected, running := none },[])

def isClosing (s : Session) : Bool :=
  s.connectionState = .disconnecting || s.connectionState = .disconnected

def enqueue (call : Call) (s : Session) : Session := { s with waiting := s.waiting ++ [call] }

def onCandidateReceived (c : IceCandidate) (s : Session) : Session :=
  let s := { s with received := if s.closing then s.received else s.received ++ [c] }
  if s.isClosing then s else s.enqueue (.onCandidateReceived c s.closing)

/-- The managers hand each kind of message to its side. -/
def receive (message : Signal) (s : Session) : Session :=
  match message, s.side with
  | .offer sdp, .controller => if s.isClosing then s else s.enqueue (.onOfferReceived sdp)
  | .answer sdp, .controlled => if s.isClosing then s else s.enqueue (.onAnswerReceived sdp)
  | .candidate c, .controller => s.onCandidateReceived c
  | .candidate2 c, .controlled => s.onCandidateReceived c
  | _, _ => s

/-- `onIceCandidate`, at any time after `setLocalDescription` was called. -/
def onIceCandidate (c : IceCandidate) (s : Session) : List Signal :=
  if s.pc.any PeerConnection.gathering ∧ c.candidate.any (· ≠ "") then
    [if s.side = .controlled then .candidate c else .candidate2 c]
  else []

def onTrack (s : Session) : Session :=
  if s.side = .controller ∧ s.pc.isSome then { s with connectionState := .connected } else s

def stop (s : Session) : Session :=
  if s.isClosing then s
  else { s with connectionState := .disconnecting, closing := true }.enqueue .stop

end Session

/-- The sessions of the two sides and the messages on their way to each. -/
structure Exchange where
  session : Side → Option Session := fun _ => none
  inbox : Side → List Signal := fun _ => []

inductive Action where
  | startRequest (current : Bool)
  | deliver (side : Side) (current : Bool)
  | lose (side : Side)
  | acquire (side : Side)
  | resume (side : Side) (sdp : String)
  | gather (side : Side) (c : IceCandidate)
  | track (side : Side)
  | stop (side : Side)

namespace Exchange

def put (w : Exchange) (side : Side) (s : Session) (sent : List Signal) : Exchange where
  session := Function.update w.session side (some s)
  inbox := Function.update w.inbox side.other (w.inbox side.other ++ sent)

def act (w : Exchange) (side : Side) (f : Session → Session × List Signal) : Exchange :=
  match w.session side with
  | none => w
  | some s => w.put side (f s).1 (f s).2

def drop (w : Exchange) (side : Side) : Exchange :=
  { w with inbox := Function.update w.inbox side (w.inbox side).tail }

/-- The next message for a side arrives. A request makes the session of the
node unless it has one. -/
def deliver (w : Exchange) (side : Side) (current : Bool) : Exchange :=
  match (w.inbox side).head? with
  | none => w
  | some .requestRemoteControl =>
    if side = .controlled ∧ (w.session side).isNone then
      (w.drop side).put side (Session.acceptRequest current) []
    else w.drop side
  | some message => (w.drop side).act side (fun s => (s.receive message,[]))

end Exchange

/-- Messages of one side arrive in the order they were sent, and can be lost. -/
def step : Action → Exchange → Exchange
  | .startRequest current, w =>
    if (w.session .controller).isNone then w.put .controller (Session.startRequest current) []
    else w
  | .deliver side current, w => w.deliver side current
  | .lose side, w => w.drop side
  | .acquire side, w => w.act side (fun s => (s.acquire,[]))
  | .resume side sdp, w => w.act side (Session.resume sdp)
  | .gather side c, w => w.act side (fun s => (s,s.onIceCandidate c))
  | .track side, w => w.act side (fun s => (s.onTrack,[]))
  | .stop side, w => w.act side (fun s => (s.stop,[]))

end CloudPlay.StreamingSession
