import CloudPlay.ClientSockets
import CloudPlay.TransitionRun

/-!
# The connection of a node to the server

The agent of a node has the same current socket and reconnect timer as a client.
A call of `init` clears the lease, fetches a device token and then creates a
socket. Clearing the lease waits for the preferences unless the agent is
headless, so `init`, `disconnect` and the close callback each come in two parts,
and anything can happen in between.
-/

set_option autoImplicit false

namespace CloudPlay.NodeAgentSocket
open ClientSockets

/-- What does not change while the agent runs. Configured is an agent with a
device id and a device secret. -/
structure Config where
  isWeb : Bool := false
  isHeadless : Bool := true
  configured : Bool := true
  deriving DecidableEq

structure Service where
  shouldBeConnected : Bool := false
  wsOpen : Bool := false
  socket : Option ℕ := none
  reconnectTimer : Bool := false
  nodeHeartbeatTimer : Bool := false
  deriving DecidableEq

/-- The agent with its sockets and what waits for the preferences or the token:
calls of `init`, calls of `disconnect`, and close callbacks, those of a socket
that was not the current one counted apart. -/
structure Agent where
  service : Service := {}
  sockets : Sockets := {}
  clearing : ℕ := 0
  fetching : ℕ := 0
  disconnecting : ℕ := 0
  closing : ℕ := 0
  staleClosing : ℕ := 0
  deriving DecidableEq

inductive Event
  | init
  | initCleared
  | tokenFetched (obtained : Bool)
  | opened (k : ℕ)
  | closed (k : ℕ)
  | closeCleared (stale : Bool)
  | disconnect
  | disconnectCleared
  | reconnectTick
  deriving DecidableEq

def Service.onOpen (s : Service) : Service :=
  { s with wsOpen := true, nodeHeartbeatTimer := true }

def Service.onClose (s : Service) : Service :=
  { s with wsOpen := false, socket := none, nodeHeartbeatTimer := false }

/-- The second part of the close callback. -/
def Service.armReconnect (s : Service) : Service :=
  if s.shouldBeConnected then { s with reconnectTimer := true } else s

/-- `init` after the lease is cleared. -/
def Agent.fetch (a : Agent) (g : Config) : Agent :=
  if g.configured then { a with fetching := a.fetching+1 } else a

def Agent.init (a : Agent) (g : Config) : Agent :=
  let called := { a with service := { a.service with shouldBeConnected := true } }
  if g.isHeadless then called.fetch g else { called with clearing := a.clearing+1 }

def Agent.connect (a : Agent) : Agent :=
  { a with service := { a.service with socket := some a.sockets.next, wsOpen := false },
           sockets := a.sockets.connect }

/-- `disconnect` after the lease is cleared. -/
def Agent.release (a : Agent) (g : Config) : Agent :=
  { a with service := { a.service with socket := none, wsOpen := false, reconnectTimer := false },
           sockets := a.sockets.close g.isWeb a.service.socket }

def Agent.disconnect (a : Agent) (g : Config) : Agent :=
  let called := { a with service := { a.service with shouldBeConnected := false,
                                                     nodeHeartbeatTimer := false } }
  if g.isHeadless then called.release g else { called with disconnecting := a.disconnecting+1 }

def Agent.onClose (a : Agent) (g : Config) (k : ℕ) : Agent :=
  let closed := { a with service := a.service.onClose, sockets := a.sockets.set k .closed }
  if g.isHeadless then { closed with service := closed.service.armReconnect }
  else if a.service.socket = some k then { closed with closing := a.closing+1 }
  else { closed with staleClosing := a.staleClosing+1 }

def step (g : Config) : Event → Agent → Agent
  | .init, a => a.init g
  | .initCleared, a =>
    match a.clearing with
    | 0 => a
    | n+1 => { a with clearing := n }.fetch g
  | .tokenFetched obtained, a =>
    match a.fetching with
    | 0 => a
    | n+1 => if obtained then { a with fetching := n }.connect else { a with fetching := n }
  | .opened k, a =>
    if a.sockets.state k = some .connecting then
      { a with service := a.service.onOpen, sockets := a.sockets.set k .open }
    else a
  | .closed k, a => if a.sockets.Due k then a.onClose g k else a
  | .closeCleared false, a =>
    match a.closing with
    | 0 => a
    | n+1 => { a with closing := n, service := a.service.armReconnect }
  | .closeCleared true, a =>
    match a.staleClosing with
    | 0 => a
    | n+1 => { a with staleClosing := n, service := a.service.armReconnect }
  | .disconnect, a => a.disconnect g
  | .disconnectCleared, a =>
    match a.disconnecting with
    | 0 => a
    | n+1 => { a with disconnecting := n }.release g
  | .reconnectTick, a =>
    if a.service.reconnectTimer then
      if a.service.wsOpen then { a with service := { a.service with reconnectTimer := false } }
      else a.init g
    else a

end CloudPlay.NodeAgentSocket
