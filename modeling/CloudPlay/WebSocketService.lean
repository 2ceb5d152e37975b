import CloudPlay.ClientSockets
import CloudPlay.TransitionRun

/-!
# The connection of a client to the server

The service keeps one current socket, what it reports of the connection, and
its timers. A call of `init` reads the stored tokens, refreshes the access token
when it is no longer valid and then creates a socket; any number of calls can be
on the way. The callbacks of a socket belong to the service and not to the
socket: they do not ask whether it is still the current one.
-/

set_option autoImplicit false

namespace CloudPlay.WebSocketService
open ClientSockets

inductive ClientPlatform
  | web | mobile | desktop
  deriving DecidableEq

def ClientPlatform.isWeb (p : ClientPlatform) : Bool := p = .web

def ClientPlatform.isDeskTop (p : ClientPlatform) : Bool := p = .desktop

inductive WebSocketConnectionState
  | none | connecting | connected | disconnected
  deriving DecidableEq

/-- The stored tokens: no refresh token, no access token, or both with an access
token that is no longer or still valid. -/
inductive StoredTokens
  | signedOut | noAccess | expired | valid
  deriving DecidableEq

/-- What is known of the refresh token. -/
inductive RefreshToken
  | held | absent | rejected
  deriving DecidableEq

/-- The answer of `doRefreshToken`. -/
inductive RefreshResult
  | token | invalid | failed
  deriving DecidableEq

/-- The fields of the service, its timers by whether they are armed. -/
structure Service where
  shouldBeConnected : Bool := false
  connectionState : WebSocketConnectionState := .none
  socket : Option ℕ := none
  reconnectTimer : Bool := false
  heartbeatTimer : Bool := false
  pongTimeoutTimer : Bool := false
  deriving DecidableEq

/-- The service with its sockets and the calls of `init` on the way: those that
read the tokens, wait for a new access token and store it. -/
structure Client where
  service : Service := {}
  sockets : Sockets := {}
  reading : ℕ := 0
  refreshing : ℕ := 0
  storing : ℕ := 0
  refreshToken : RefreshToken := .held
  deriving DecidableEq

inductive Event
  | init
  | tokensRead (tokens : StoredTokens)
  | refreshed (result : RefreshResult)
  | stored
  | opened (k : ℕ)
  | closed (k : ℕ)
  | reconnect
  | disconnect
  | reconnectTick
  | heartbeatTick
  | pongTimeout
  | pong
  deriving DecidableEq

def Service.stopHeartbeat (s : Service) : Service :=
  { s with heartbeatTimer := false, pongTimeoutTimer := false }

def Service.startHeartbeat (s : Service) : Service :=
  { s with heartbeatTimer := true, pongTimeoutTimer := false }

def Service.onConnected (s : Service) (p : ClientPlatform) : Service :=
  if p.isDeskTop then { s with connectionState := .connected }.startHeartbeat
  else { s with connectionState := .connected }

/-- The refresh token was not rejected in the call that created the socket, so
the timer does not stop for it. -/
def Service.onClose (s : Service) : Service :=
  let closed := { s with connectionState := .disconnected }.stopHeartbeat
  if s.shouldBeConnected then { closed with reconnectTimer := true } else closed

/-- The part of `reconnect` and `disconnect` that gives up the socket. -/
def Service.release (s : Service) (shouldBeConnected : Bool) : Service :=
  { s with shouldBeConnected := shouldBeConnected, socket := none,
           reconnectTimer := false }.stopHeartbeat

def Client.init (c : Client) : Client :=
  let called := { c with service := { c.service with shouldBeConnected := true } }
  if c.service.connectionState = .connecting then called
  else { called with reading := c.reading+1 }

/-- The end of `init`. -/
def Client.connect (c : Client) : Client :=
  { c with service := { c.service with socket := some c.sockets.next,
                                       connectionState := .connecting },
           sockets := c.sockets.connect }

def RefreshToken.found (t : RefreshToken) : RefreshToken := if t = .absent then .held else t

def Client.tokensRead (c : Client) : StoredTokens → Client
  | .signedOut => { c with refreshToken := .absent }
  | .noAccess => { c with refreshToken := c.refreshToken.found }
  | .valid => { c with refreshToken := c.refreshToken.found }.connect
  | .expired => { c with refreshToken := c.refreshToken.found, refreshing := c.refreshing+1 }

def Client.refreshed (c : Client) : RefreshResult → Client
  | .token => { c with refreshToken := .held, storing := c.storing+1 }
  | .invalid => { c with refreshToken := .rejected }
  | .failed => c

def Client.release (c : Client) (p : ClientPlatform) (shouldBeConnected : Bool) : Client :=
  { c with service := c.service.release shouldBeConnected,
           sockets := c.sockets.close p.isWeb c.service.socket }

def Client.reconnect (c : Client) (p : ClientPlatform) : Client := (c.release p true).init

def Client.disconnect (c : Client) (p : ClientPlatform) : Client := c.release p false

def step (p : ClientPlatform) : Event → Client → Client
  | .init, c => c.init
  | .tokensRead tokens, c =>
    match c.reading with
    | 0 => c
    | n+1 => { c with reading := n }.tokensRead tokens
  | .refreshed result, c =>
    match c.refreshing with
    | 0 => c
    | n+1 => { c with refreshing := n }.refreshed result
  | .stored, c =>
    match c.storing with
    | 0 => c
    | n+1 => { c with storing := n }.connect
  | .opened k, c =>
    if c.sockets.state k = some .connecting then
      { c with service := c.service.onConnected p, sockets := c.sockets.set k .open }
    else c
  | .closed k, c =>
    if c.sockets.Due k then
      { c with service := c.service.onClose, sockets := c.sockets.set k .closed }
    else c
  | .reconnect, c => c.reconnect p
  | .disconnect, c => c.disconnect p
  | .reconnectTick, c =>
    if c.service.reconnectTimer then
      if c.service.connectionState = .connected then
        { c with service := { c.service with reconnectTimer := false } }
      else c.reconnect p
    else c
  | .heartbeatTick, c =>
    if c.service.heartbeatTimer ∧ p.isDeskTop ∧ c.service.connectionState = .connected then
      { c with service := { c.service with pongTimeoutTimer := true } }
    else c
  | .pongTimeout, c =>
    if c.service.pongTimeoutTimer then
      let rung := { c with service := { c.service with pongTimeoutTimer := false } }
      if c.service.connectionState = .connected ∧ p.isDeskTop then rung.reconnect p else rung
    else c
  | .pong, c => { c with service := { c.service with pongTimeoutTimer := false } }

end CloudPlay.WebSocketService
