import CloudPlay.HostDisplays
import CloudPlay.KeyedTable

/-!
# The sessions of a host and what they share

`StreamedManager`: the sessions by connection, one stream and one count a
screen, and the virtual display recorded for a screen. Its lock runs one call
after the other, so every call is one step. `displays` are the virtual
displays made and not removed, `made` those among them that a session was
registered with, with the screen it streams. The platform may refuse to remove a
display; the entry of its screen goes all the same.
-/

set_option autoImplicit false

namespace CloudPlay.StreamedManager
open KeyedTable NodeAgentService ControlPlaneSerializers HostDisplays

abbrev StreamId := ℕ

/-- A session of the controlled side. `stream` is what `acceptRequest` finds
for its screen. -/
structure Session where
  controller : ConnectionId
  streamSettings : Option StreamedSettings
  stream : Option StreamId
  cursorImageHookID : ℕ
  cursorPositionUpdatedHookID : ℕ

def Session.screen (s : Session) : Option ScreenId := s.streamSettings.bind (·.screenId)

/-- `running` is set for good by a start that never returns, as the lock is
its own then. -/
structure Manager where
  sessions : Table Session.controller := .empty
  localVideoStreams : ScreenId → Option StreamId := fun _ => none
  localVideoStreamsCount : ScreenId → Option ℤ := fun _ => none
  virtualDisplayIds : ScreenId → Option DisplayId := fun _ => none
  cursorImageHookID : ℕ := 0
  cursorPositionUpdatedHookID : ℕ := 0
  currentlyStreamedCount : ℕ := 0
  captures : ℕ := 0
  stoppedStreams : List StreamId := []
  displays : List DisplayId := []
  made : List (ScreenId × DisplayId) := []
  running : Bool := false

namespace Manager

def setCurrentStreamedState (m : Manager) : Manager :=
  { m with currentlyStreamedCount := m.sessions.rows.length }

def addDisplay (m : Manager) (d : DisplayId) : Manager :=
  { m with displays := d::m.displays }

def recordDisplay (m : Manager) (k : ScreenId) (d : DisplayId) : Manager :=
  { m.addDisplay d with virtualDisplayIds := Function.update m.virtualDisplayIds k (some d) }

/-- Another answer than true is only logged, and so is a call that throws. -/
def removeVirtualDisplay (m : Manager) (d : DisplayId) (removeDisplay : Option Bool) : Manager :=
  { m with
    displays := if removeDisplay = some true then m.displays.filter (· ≠ d) else m.displays
    made := if removeDisplay = some true then m.made.filter (·.2 ≠ d) else m.made }

/-- The display is removed and no longer recorded for the screen. -/
def dropDisplay (m : Manager) (k : ScreenId) (d : DisplayId) (removeDisplay : Option Bool) :
    Manager :=
  { m.removeVirtualDisplay d removeDisplay with
    virtualDisplayIds := Function.update m.virtualDisplayIds k none }

/-- A new stream for the screen, with the count of its first session. -/
def addStream (m : Manager) (k : ScreenId) : Manager :=
  { m with
    localVideoStreams := Function.update m.localVideoStreams k (some m.captures)
    localVideoStreamsCount := Function.update m.localVideoStreamsCount k (some 1)
    captures := m.captures+1 }

def setCount (m : Manager) (k : ScreenId) (n : ℤ) : Manager :=
  { m with localVideoStreamsCount := Function.update m.localVideoStreamsCount k (some n) }

/-- The session with the screen it streams, and the display made for it. -/
def register (m : Manager) (host : Host) (device : ConnectionId) (call : StreamCall)
    (k : ScreenId) (display : Option DisplayId) : Manager :=
  let settings := { call.settings with screenId := some k }
  let session : Session :=
    { controller := call.target.connectionId
      streamSettings := if host.accepts device settings then some settings else none
      stream := m.localVideoStreams k
      cursorImageHookID := m.cursorImageHookID+1
      cursorPositionUpdatedHookID := m.cursorPositionUpdatedHookID+1 }
  setCurrentStreamedState
    { m with
      sessions := (m.sessions.insert? session).getD m.sessions
      cursorImageHookID := m.cursorImageHookID+1
      cursorPositionUpdatedHookID := m.cursorPositionUpdatedHookID+1
      made := (display.map (fun d => (k,d))).toList ++ m.made }

/-- `sessionCreated` with the state it goes with. -/
structure Attempt where
  manager : Manager
  sessionCreated : Bool

/-- The device is unknown until the server has told it, and a session throws
without it. -/
def accept (m : Manager) (host : Host) (call : StreamCall) (k : ScreenId)
    (display : Option DisplayId) : Attempt :=
  match host.thisDevice with
  | none => ⟨m,false⟩
  | some device => ⟨m.register host device call k display,true⟩

/-- The screen the call gets a picture of, shared or new. -/
def picture (m : Manager) (host : Host) (settings : StreamedSettings) (k : ScreenId) : Capture :=
  if (m.localVideoStreams k).isSome then .stream k
  else host.capture settings k (m.virtualDisplayIds 0)

def share (m : Manager) (host : Host) (call : StreamCall) (k : ScreenId)
    (display : Option DisplayId) : Attempt :=
  if (m.localVideoStreams k).isSome then
    match m.localVideoStreamsCount k with
    | none => ⟨m,false⟩
    | some n => (m.setCount k (n+1)).accept host call k display
  else match host.capture call.settings k (m.virtualDisplayIds 0) with
    | .failed => ⟨m,false⟩
    | .timedOut =>
      match m.virtualDisplayIds k with
      | none => ⟨m,false⟩
      | some d => ⟨m.dropDisplay k d host.removeDisplay,false⟩
    | .stream k => (m.addStream k).accept host call k display

/-- The `finally` for a display made in the default mode. -/
def cleanup (a : Attempt) (host : Host) (k : ScreenId) (d : DisplayId) : Manager :=
  if a.sessionCreated then a.manager else a.manager.dropDisplay k d host.removeDisplay

/-- What `startStreaming` does under the lock for a new session. -/
def launch (m : Manager) (host : Host) (call : StreamCall) (k : ScreenId) : Manager :=
  if host.wantsDisplay call.settings then
    match host.displayFor call.settings with
    | .waiting d => { m.addDisplay d with running := true }
    | .null none => m
    | .null (some d) => m.addDisplay d
    | .display d =>
      if isVirtualDisplayMode call.settings then
        ((m.recordDisplay k d).share host call k (some d)).manager
      else cleanup ((m.recordDisplay k d).share host call k (some d)) host k d
  else (m.share host call k none).manager

section Hashing
variable (hash : String → String)

/-- The screen of a start that passes the checks. -/
def admitted (host : Host) (call : StreamCall) : Option ScreenId :=
  if startStreaming hash host.agent call.settings = .passed then call.settings.screenId else none

def startStreaming (m : Manager) (host : Host) (call : StreamCall) : Manager :=
  match admitted hash host call with
  | none => m
  | some k =>
    if m.running then m
    else if (m.sessions.get? call.target.connectionId).isSome then m
    else m.launch host call k

end Hashing

/-- The tracks of the stream of the screen stop, and the stream goes. -/
def stopStream (m : Manager) (k : ScreenId) : Manager :=
  { m with
    stoppedStreams := (m.localVideoStreams k).toList ++ m.stoppedStreams
    localVideoStreams := Function.update m.localVideoStreams k none }

def removeRecorded (m : Manager) (k : ScreenId) (removeDisplay : Option Bool) : Manager :=
  match m.virtualDisplayIds k with
  | none => m
  | some d => m.dropDisplay k d removeDisplay

def removeSession (m : Manager) (target : ConnectionId) : Manager :=
  { m with sessions := m.sessions.filter (fun s => s.controller ≠ target) }

/-- The last session of the screen takes its stream and display along. -/
def release (m : Manager) (k : ScreenId) (n : ℤ) (removeDisplay : Option Bool) : Manager :=
  if n = 0 then ((m.setCount k n).stopStream k).removeRecorded k removeDisplay
  else m.setCount k n

/-- A session without settings makes `stopStreaming` throw before it is
unregistered. -/
def stopStreaming (m : Manager) (target : ConnectionId) (removeDisplay : Option Bool) : Manager :=
  if m.running then m
  else match m.sessions.get? target with
    | none => m.setCurrentStreamedState
    | some session =>
      match session.screen with
      | none => m
      | some k =>
        match m.localVideoStreamsCount k with
        | none => m.removeSession target
        | some n =>
          ((m.removeSession target).release k (n-1) removeDisplay).setCurrentStreamedState

end Manager

/-- A stop with the answer of the platform, should it ask to remove a display. -/
inductive Action where
  | startStreaming (host : Host) (call : StreamCall)
  | stopStreaming (target : ConnectionId) (removeDisplay : Option Bool := some true)

def step (hash : String → String) : Action → Manager → Manager
  | .startStreaming host call, m => m.startStreaming hash host call
  | .stopStreaming target removeDisplay, m => m.stopStreaming target removeDisplay

end CloudPlay.StreamedManager
