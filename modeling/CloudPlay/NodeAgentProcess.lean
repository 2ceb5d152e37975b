import CloudPlay.ControlPlaneConsumer
import CloudPlay.NodeAgentService
import CloudPlay.TransitionRun

/-!
# The agent as a process

The events that reach `NodeAgentService`, with the streaming sessions that
`StreamedManager` keeps by connection id. A call that has passed the checks
of `startStreaming` is still starting until the screen is captured; stopping
all sessions stops those that exist at that moment. Every handler of an event
runs to its end, and what it sends is lost unless the socket is open. Where that of
`lease_assigned` waits for the preferences, `LeaseSeparation.splitStep` lets others run.
-/

set_option autoImplicit false

namespace CloudPlay.NodeAgentProcess
open ControlPlaneModels ControlPlaneSerializers ControlPlaneConsumer NodeAgentService
open TransitionRun

structure NodeAgentConfig where
  deviceId : String
  region : String := ""
  gpuTier : String := ""
  agentVersion : String := ""
  city : String := ""

structure AgentProcess where
  agent : NodeAgent
  wsOpen : Bool := false
  starting : List String := []
  sessions : List String := []

inductive AgentEvent where
  | init
  | onOpen
  | onMessage (msg : Message)
  | heartbeat
  | onClose
  | disconnect
  | sessionCreated (connectionId : String)
  | sessionFailed (connectionId : String)
  | stopStreaming (connectionId : String)

/-- `_clearLeaseState(stopSessions: true)` behind its guard. -/
def AgentProcess.clear (p : AgentProcess) : AgentProcess :=
  { p with
    agent := p.agent.clearUnlessHeadless
    sessions := if p.agent.isHeadless then p.sessions else [] }

def helloMessage (config : NodeAgentConfig) : ClientMessage :=
  .nodeHello config.region config.gpuTier config.agentVersion
    (some (.obj [("city",.str config.city)]))

def isRelease : Message → Bool
  | .leaseRelease _ _ _ => true
  | _ => false

section Hashing
variable (hash : String → String)

/-- The calls of a message that get past the checks. -/
def AgentProcess.admitted (p : AgentProcess) (msg : Message) : List String :=
  match (p.agent.onMessage hash msg).call with
  | none => []
  | some call =>
    if startStreaming hash p.agent call.settings = .passed then [call.target.connectionId] else []

def AgentProcess.receive (p : AgentProcess) (msg : Message) : AgentProcess :=
  { p with
    agent := (p.agent.onMessage hash msg).agent
    starting := p.starting ++ p.admitted hash msg
    sessions := if isRelease msg && !p.agent.isHeadless then [] else p.sessions }

variable (config : NodeAgentConfig)

def step : AgentEvent → AgentProcess → AgentProcess
  | .init, p => { p.clear with wsOpen := false }
  | .onOpen, p => { p with wsOpen := true }
  | .onMessage msg, p => p.receive hash msg
  | .heartbeat, p => p
  | .onClose, p => { p.clear with wsOpen := false }
  | .disconnect, p => { p.clear with wsOpen := false }
  | .sessionCreated c, p =>
    if c ∈ p.starting then
      { p with
        starting := p.starting.erase c
        sessions := if c ∈ p.sessions then p.sessions else c::p.sessions }
    else p
  | .sessionFailed c, p => { p with starting := p.starting.erase c }
  | .stopStreaming c, p => { p with sessions := p.sessions.filter (· ≠ c) }

/-- What the handler of an event sends to the server. -/
def sends : AgentEvent → AgentProcess → List ClientMessage
  | .onOpen, _ => [helloMessage config]
  | .onMessage msg, p =>
    if p.wsOpen then
      ((p.agent.onMessage hash msg).leaseReady.toList).map
        (fun leaseId => .leaseReady (.uuid leaseId) (some config.deviceId))
    else []
  | .heartbeat, p => if p.wsOpen then [.nodeHeartbeat] else []
  | _, _ => []

end Hashing

/-- A process that has not heard of any lease. -/
def start (isHeadless enabled connectable : Bool) (connectPasswordHash : String) : AgentProcess :=
  { agent :=
    { isHeadless := isHeadless
      enabled := enabled
      connectable := connectable
      connectPasswordHash := connectPasswordHash } }

section Modes
variable (hash : String → String)

@[simp] theorem clearUnlessHeadless_mode (a : NodeAgent) :
    a.clearUnlessHeadless.isHeadless = a.isHeadless := by
  unfold NodeAgent.clearUnlessHeadless
  split <;> rfl

@[simp] theorem clearUnlessHeadless_leaseId (a : NodeAgent) :
    a.clearUnlessHeadless.activeLeaseId = a.activeLeaseId := by
  unfold NodeAgent.clearUnlessHeadless
  split <;> rfl

@[simp] theorem clearUnlessHeadless_leaseToken (a : NodeAgent) :
    a.clearUnlessHeadless.activeLeaseToken = a.activeLeaseToken := by
  unfold NodeAgent.clearUnlessHeadless
  split <;> rfl

theorem clearUnlessHeadless_headless {a : NodeAgent} (h : a.isHeadless = true) :
    a.clearUnlessHeadless = a := by
  simp [NodeAgent.clearUnlessHeadless, h]

theorem clearUnlessHeadless_gui {a : NodeAgent} (h : a.isHeadless = false) :
    a.clearUnlessHeadless.connectable = false ∧ a.clearUnlessHeadless.connectPasswordHash = "" := by
  simp [NodeAgent.clearUnlessHeadless, NodeAgent.clearLeaseState, h]

@[simp] theorem onMessage_mode (a : NodeAgent) (msg : Message) :
    (a.onMessage hash msg).agent.isHeadless = a.isHeadless := by
  cases msg <;> simp [NodeAgent.onMessage, NodeAgent.applyLeaseCredentials]

@[simp] theorem step_mode (e : AgentEvent) (p : AgentProcess) :
    (step hash e p).agent.isHeadless = p.agent.isHeadless := by
  cases e with
  | onMessage msg => exact onMessage_mode hash p.agent msg
  | sessionCreated c =>
    simp only [step]
    split <;> rfl
  | init => exact clearUnlessHeadless_mode p.agent
  | onClose => exact clearUnlessHeadless_mode p.agent
  | disconnect => exact clearUnlessHeadless_mode p.agent
  | _ => rfl

/-- Only the message that assigns a lease, the one that releases it and the
events that clear the credentials touch the agent. -/
theorem step_agent (e : AgentEvent) (p : AgentProcess) :
    (step hash e p).agent = p.agent ∨
    (step hash e p).agent = p.agent.clearUnlessHeadless ∨
    ∃ msg, e = .onMessage msg ∧ (step hash e p).agent = (p.agent.onMessage hash msg).agent := by
  cases e with
  | onMessage msg => exact Or.inr (Or.inr ⟨msg,rfl,rfl⟩)
  | sessionCreated c =>
    left
    simp only [step]
    split <;> rfl
  | init => exact Or.inr (Or.inl rfl)
  | onClose => exact Or.inr (Or.inl rfl)
  | disconnect => exact Or.inr (Or.inl rfl)
  | _ => exact Or.inl rfl

end Modes

end CloudPlay.NodeAgentProcess
