import CloudPlay.WebSocketService

/-!
# Clients that are to be connected

Something is on its way: a socket, a call of `init`, or the reconnect timer. A
call of `init` that ends without a socket leaves nothing behind itself, and
`reconnect` stops the timer before it knows whether `init` will do anything.
-/

set_option autoImplicit false

namespace CloudPlay.PendingClientReconnects
open ClientSockets WebSocketService

section
variable {p : ClientPlatform} {c : Client}

def inits (c : Client) : ℕ := c.reading+c.refreshing+c.storing

/-- A socket, more than so many calls of `init`, or the timer. -/
def Waiting (n : ℕ) (c : Client) : Prop :=
  c.sockets.CurrentLive c.service.socket ∨ n < inits c ∨ c.service.reconnectTimer = true

def Pending (c : Client) : Prop :=
  c.service.shouldBeConnected = true → c.refreshToken = .held → Waiting 0 c

/-- Where a step needs something else on the way. -/
def Upheld (c : Client) : Event → Prop
  | .init => c.service.connectionState = .connecting → c.refreshToken = .held → Waiting 0 c
  | .tokensRead tokens => tokens = .noAccess → 0 < c.reading →
      c.service.shouldBeConnected = true → c.refreshToken ≠ .rejected → Waiting 1 c
  | .refreshed result => result = .failed → 0 < c.refreshing →
      c.service.shouldBeConnected = true → c.refreshToken = .held → Waiting 1 c
  | .reconnect => c.service.connectionState = .connecting → c.refreshToken = .held → 0 < inits c
  | .reconnectTick => c.service.reconnectTimer = true → c.refreshToken = .held →
      (c.service.connectionState = .connecting → 0 < inits c) ∧
      (c.service.connectionState = .connected → c.service.shouldBeConnected = true →
        c.sockets.CurrentLive c.service.socket ∨ 0 < inits c)
  | _ => True

theorem connect_pending (c : Client) : Pending c.connect := fun _ _ =>
  Or.inl (Sockets.connect_current c.sockets)

theorem pending_of_inits (h : 0 < inits c) : Pending c := fun _ _ => Or.inr (Or.inl h)

theorem init_pending (hc : c.service.connectionState ≠ .connecting) : Pending c.init := by
  refine pending_of_inits ?_
  simp only [Client.init, if_neg hc, inits]
  omega

theorem init_pending_iff (hc : c.service.connectionState = .connecting) :
    Pending c.init ↔ (c.refreshToken = .held → Waiting 0 c) := by
  simp only [Client.init, if_pos hc]
  exact ⟨fun h => h rfl,fun h _ => h⟩

theorem reconnect_pending_iff : Pending (c.reconnect p) ↔
    (c.service.connectionState = .connecting → c.refreshToken = .held → 0 < inits c) := by
  by_cases hc : c.service.connectionState = .connecting
  · have hrel : (c.release p true).service.connectionState = .connecting := hc
    rw [Client.reconnect, init_pending_iff hrel]
    have hwait : Waiting 0 (c.release p true) ↔ 0 < inits c := by
      constructor
      · rintro (hlive | hinits | htimer)
        · exact absurd hlive (Sockets.not_currentLive_none _)
        · exact hinits
        · cases htimer
      · exact fun h => Or.inr (Or.inl h)
    rw [hwait]
    exact ⟨fun h _ => h,fun h => h hc⟩
  · exact iff_of_true (init_pending hc) (fun h => absurd h hc)

theorem onConnected_keeps (s : Service) :
    (s.onConnected p).shouldBeConnected = s.shouldBeConnected ∧
      (s.onConnected p).socket = s.socket ∧
      (s.onConnected p).reconnectTimer = s.reconnectTimer := by
  unfold Service.onConnected
  split <;> exact ⟨rfl,rfl,rfl⟩

theorem opened_current {w : Sockets} {socket : Option ℕ} {k : ℕ}
    (hk : w.state k = some .connecting) (h : w.CurrentLive socket) :
    (w.set k .open).CurrentLive socket := by
  obtain ⟨j, hj, hlive⟩ := h
  refine ⟨j,hj,?_⟩
  by_cases hjk : j = k
  · subst hjk
    exact Sockets.set_open_live hk
  · exact (Sockets.set_live hk hjk).mpr hlive

theorem opened_pending {k : ℕ} (hk : c.sockets.state k = some .connecting) (h : Pending c) :
    Pending { c with service := c.service.onConnected p, sockets := c.sockets.set k .open } := by
  obtain ⟨hcalled, hsocket, htimer⟩ := onConnected_keeps (p := p) c.service
  intro hs hr
  rw [hcalled] at hs
  rcases h hs hr with hlive | hinits | ht
  · left
    show (c.sockets.set k .open).CurrentLive (c.service.onConnected p).socket
    rw [hsocket]
    exact opened_current hk hlive
  · exact Or.inr (Or.inl hinits)
  · exact Or.inr (Or.inr (htimer.trans ht))

/-- A close arms the timer of a client that is to be connected. -/
theorem closed_pending (c : Client) (k : ℕ) :
    Pending { c with service := c.service.onClose, sockets := c.sockets.set k .closed } := by
  intro hs _
  right
  right
  show c.service.onClose.reconnectTimer = true
  have hcalled : c.service.onClose.shouldBeConnected = true := hs
  simp only [Service.onClose] at hcalled ⊢
  split
  · rfl
  · rename_i hnot
    rw [if_neg hnot] at hcalled
    exact absurd hcalled hnot

theorem tokensRead_pending_iff {n : ℕ} (hn : c.reading = n+1) (tokens : StoredTokens) :
    Pending ({ c with reading := n }.tokensRead tokens) ↔ Upheld c (.tokensRead tokens) := by
  cases tokens with
  | signedOut =>
    exact iff_of_true (fun _ h => by cases h) (fun h => by cases h)
  | noAccess =>
    have hheld : c.refreshToken.found = .held ↔ c.refreshToken ≠ .rejected := by
      cases c.refreshToken <;> simp [RefreshToken.found]
    have hinits : 0 < inits { c with reading := n } ↔ 1 < inits c := by
      simp only [inits]
      omega
    have hpos : 0 < c.reading := by omega
    constructor
    · intro h _ _ hs hr
      rcases h hs (hheld.mpr hr) with hlive | hmore | htimer
      · exact Or.inl hlive
      · exact Or.inr (Or.inl (hinits.mp hmore))
      · exact Or.inr (Or.inr htimer)
    · intro h hs hr
      rcases h rfl hpos hs (hheld.mp hr) with hlive | hmore | htimer
      · exact Or.inl hlive
      · exact Or.inr (Or.inl (hinits.mpr hmore))
      · exact Or.inr (Or.inr htimer)
  | expired =>
    refine iff_of_true (pending_of_inits ?_) (fun h => by cases h)
    simp only [Client.tokensRead, inits]
    omega
  | valid => exact iff_of_true (connect_pending _) (fun h => by cases h)

theorem refreshed_pending_iff {n : ℕ} (hn : c.refreshing = n+1) (result : RefreshResult) :
    Pending ({ c with refreshing := n }.refreshed result) ↔ Upheld c (.refreshed result) := by
  cases result with
  | token =>
    refine iff_of_true (pending_of_inits ?_) (fun h => by cases h)
    simp only [Client.refreshed, inits]
    omega
  | invalid => exact iff_of_true (fun _ h => by cases h) (fun h => by cases h)
  | failed =>
    have hinits : 0 < inits { c with refreshing := n } ↔ 1 < inits c := by
      simp only [inits]
      omega
    have hpos : 0 < c.refreshing := by omega
    constructor
    · intro h _ _ hs hr
      rcases h hs hr with hlive | hmore | htimer
      · exact Or.inl hlive
      · exact Or.inr (Or.inl (hinits.mp hmore))
      · exact Or.inr (Or.inr htimer)
    · intro h hs hr
      rcases h rfl hpos hs hr with hlive | hmore | htimer
      · exact Or.inl hlive
      · exact Or.inr (Or.inl (hinits.mpr hmore))
      · exact Or.inr (Or.inr htimer)

theorem reconnectTick_pending_iff (h : Pending c) :
    Pending (step p .reconnectTick c) ↔ Upheld c .reconnectTick := by
  by_cases htimer : c.service.reconnectTimer = true
  · by_cases hconn : c.service.connectionState = .connected
    · have hne : c.service.connectionState ≠ .connecting := by
        rw [hconn]
        exact WebSocketConnectionState.noConfusion
      simp only [step, if_pos htimer, if_pos hconn]
      constructor
      · intro hnext _ hr
        refine ⟨fun hc => absurd hc hne,fun _ hs => ?_⟩
        rcases hnext hs hr with hlive | hinits | htimer'
        · exact Or.inl hlive
        · exact Or.inr hinits
        · cases htimer'
      · intro hup hs hr
        rcases (hup htimer hr).2 hconn hs with hlive | hinits
        · exact Or.inl hlive
        · exact Or.inr (Or.inl hinits)
    · simp only [step, if_pos htimer, if_neg hconn]
      rw [reconnect_pending_iff]
      constructor
      · exact fun hup _ hr => ⟨fun hc => hup hc hr,fun hc => absurd hc hconn⟩
      · exact fun hup hc hr => (hup htimer hr).1 hc
  · simp only [step, if_neg htimer]
    exact iff_of_true h (fun ht => absurd ht htimer)

theorem step_pending_iff (p : ClientPlatform) (e : Event) (c : Client) (h : Pending c) :
    Pending (step p e c) ↔ Upheld c e := by
  cases e with
  | init =>
    by_cases hc : c.service.connectionState = .connecting
    · exact (init_pending_iff hc).trans ⟨fun h _ => h,fun h => h hc⟩
    · exact iff_of_true (init_pending hc) (fun h => absurd h hc)
  | tokensRead tokens =>
    simp only [step]
    split
    · rename_i hzero
      exact iff_of_true h (fun _ hpos => absurd hpos (by omega))
    · rename_i n hn
      exact tokensRead_pending_iff hn tokens
  | refreshed result =>
    simp only [step]
    split
    · rename_i hzero
      exact iff_of_true h (fun _ hpos => absurd hpos (by omega))
    · rename_i n hn
      exact refreshed_pending_iff hn result
  | stored =>
    refine iff_of_true ?_ trivial
    simp only [step]
    split
    · exact h
    · exact connect_pending _
  | opened k =>
    refine iff_of_true ?_ trivial
    simp only [step]
    split
    · rename_i hk
      exact opened_pending hk h
    · exact h
  | closed k =>
    refine iff_of_true ?_ trivial
    simp only [step]
    split
    · exact closed_pending c k
    · exact h
  | reconnect => exact reconnect_pending_iff
  | disconnect => exact iff_of_true (fun hs => by cases hs) trivial
  | reconnectTick => exact reconnectTick_pending_iff h
  | heartbeatTick =>
    refine iff_of_true ?_ trivial
    simp only [step]
    split <;> exact h
  | pongTimeout =>
    refine iff_of_true ?_ trivial
    simp only [step]
    split
    · split
      · rename_i hconn
        refine reconnect_pending_iff.mpr fun hc => ?_
        have hc' : c.service.connectionState = .connecting := hc
        rw [hconn.1] at hc'
        cases hc'
      · exact h
    · exact h
  | pong => exact iff_of_true h trivial

end

end CloudPlay.PendingClientReconnects
