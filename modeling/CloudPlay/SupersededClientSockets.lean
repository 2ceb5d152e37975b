import CloudPlay.WebSocketService

/-!
# Callbacks of superseded sockets of a client

The service does not ask whose callback it is. As long as a socket is created
only when no other one has a callback to come, and the current one is given up
only when nothing can come of it, there is no callback that could do harm, and
what the service reports is the state of its socket.
-/

set_option autoImplicit false

namespace CloudPlay.SupersededClientSockets
open ClientSockets WebSocketService TransitionRun

/-- No two sockets are connecting or open. -/
def OneLive (w : Sockets) : Prop := ∀ i j, w.Live i → w.Live j → i = j

section
variable {p : ClientPlatform} {c c' : Client} {k : ℕ}

/-- The callback of a socket that is not the current one. -/
def StaleCallback (c : Client) : Event → Prop
  | .opened k => c.service.socket ≠ some k
  | .closed k => c.service.socket ≠ some k
  | _ => False

/-- After this step. -/
structure Sound (p : ClientPlatform) (e : Event) (c : Client) : Prop where
  inert : StaleCallback c e → (step p e c).service = c.service
  reported : (step p e c).service.connectionState = .connected ↔
    (step p e c).sockets.CurrentOpen (step p e c).service.socket
  single : OneLive (step p e c).sockets

def creates (c : Client) : Event → Prop
  | .tokensRead tokens => tokens = .valid ∧ 0 < c.reading
  | .stored => 0 < c.storing
  | _ => False

def givesUp (p : ClientPlatform) (c : Client) : Event → Prop
  | .reconnect => True
  | .disconnect => True
  | .reconnectTick => c.service.reconnectTimer ∧ c.service.connectionState ≠ .connected
  | .pongTimeout => c.service.pongTimeoutTimer ∧ c.service.connectionState = .connected ∧
      p.isDeskTop
  | _ => False

structure Calm (p : ClientPlatform) (e : Event) (c : Client) : Prop where
  alone : creates c e → ∀ k, ¬ c.sockets.Due k
  gone : givesUp p c e → ¬ c.sockets.CurrentLive c.service.socket

instance (c : Client) : (e : Event) → Decidable (creates c e)
  | .tokensRead tokens => inferInstanceAs (Decidable (tokens = .valid ∧ 0 < c.reading))
  | .stored => inferInstanceAs (Decidable (0 < c.storing))
  | .init | .refreshed _ | .opened _ | .closed _ | .reconnect | .disconnect | .reconnectTick
  | .heartbeatTick | .pongTimeout | .pong => isFalse id

instance (p : ClientPlatform) (c : Client) : (e : Event) → Decidable (givesUp p c e)
  | .reconnect | .disconnect => isTrue trivial
  | .reconnectTick => inferInstanceAs (Decidable (_ ∧ _))
  | .pongTimeout => inferInstanceAs (Decidable (_ ∧ _ ∧ _))
  | .init | .tokensRead _ | .refreshed _ | .stored | .opened _ | .closed _ | .heartbeatTick
  | .pong => isFalse id

instance (p : ClientPlatform) (e : Event) (c : Client) : Decidable (Calm p e c) :=
  decidable_of_iff ((creates c e → ∀ k, ¬ c.sockets.Due k) ∧
    (givesUp p c e → ¬ c.sockets.CurrentLive c.service.socket))
    ⟨fun h => ⟨h.1,h.2⟩,fun h => ⟨h.alone,h.gone⟩⟩

/-- Only the current socket has a callback to come, and it is what is reported. -/
structure Settled (c : Client) : Prop where
  current : ∀ k, c.sockets.Due k → c.service.socket = some k ∧ c.sockets.Live k
  reported : c.service.connectionState = .connected ↔ c.sockets.CurrentOpen c.service.socket

theorem Settled.single (h : Settled c) : OneLive c.sockets := by
  intro i j hi hj
  have hsocket := (h.current i (Or.inl hi)).1
  rw [(h.current j (Or.inl hj)).1] at hsocket
  exact (Option.some.inj hsocket).symm

theorem Settled.congr (h : Settled c) (hw : c'.sockets = c.sockets)
    (hs : c'.service.socket = c.service.socket)
    (hr : c'.service.connectionState = c.service.connectionState) : Settled c' where
  current := by
    rw [hw, hs]
    exact h.current
  reported := by
    rw [hw, hs, hr]
    exact h.reported

theorem connect_settled (h : ∀ k, ¬ c.sockets.Due k) : Settled c.connect where
  current := by
    intro k hk
    rcases Sockets.connect_due hk with rfl | hold
    · refine ⟨rfl,Or.inl ?_⟩
      show c.sockets.connect.state _ = _
      rw [Sockets.state_connect, if_pos rfl]
    · exact absurd hold (h k)
  reported := by
    refine iff_of_false (fun h => WebSocketConnectionState.noConfusion h) ?_
    rintro ⟨k, hk, hopen⟩
    have hnew : c.sockets.connect.state k = some .open := hopen
    rw [← Option.some.inj hk, Sockets.state_connect, if_pos rfl] at hnew
    cases hnew

theorem not_due (h : Settled c) (hgone : ¬ c.sockets.CurrentLive c.service.socket) (k : ℕ) :
    ¬ c.sockets.Due k := fun hk => hgone ⟨k,h.current k hk⟩

theorem release_settled (h : Settled c) (hgone : ¬ c.sockets.CurrentLive c.service.socket)
    (b : Bool) : Settled (c.release p b) where
  current := fun k hk => absurd (Sockets.close_due hk) (not_due h hgone k)
  reported := by
    refine iff_of_false (fun hr => ?_) (Sockets.not_currentOpen_none _)
    obtain ⟨k, hk, hopen⟩ := h.reported.mp hr
    exact hgone ⟨k,hk,Or.inr hopen⟩

theorem init_settled (h : Settled c) : Settled c.init := by
  unfold Client.init
  split
  · exact h.congr rfl rfl rfl
  · exact h.congr rfl rfl rfl

theorem onConnected_socket (s : Service) : (s.onConnected p).socket = s.socket := by
  unfold Service.onConnected
  split <;> rfl

theorem onConnected_state (s : Service) : (s.onConnected p).connectionState = .connected := by
  unfold Service.onConnected
  split <;> rfl

theorem onClose_socket (s : Service) : s.onClose.socket = s.socket := by
  simp only [Service.onClose]
  split <;> rfl

theorem onClose_state (s : Service) : s.onClose.connectionState = .disconnected := by
  simp only [Service.onClose]
  split <;> rfl

theorem opened_settled (h : Settled c) (hk : c.sockets.state k = some .connecting) :
    Settled { c with service := c.service.onConnected p, sockets := c.sockets.set k .open } where
  current := by
    intro j hj
    have hcurrent := (h.current k (Or.inl (Or.inl hk))).1
    show (c.service.onConnected p).socket = some j ∧ _
    rw [onConnected_socket]
    by_cases hjk : j = k
    · subst hjk
      exact ⟨hcurrent,Sockets.set_open_live hk⟩
    · rw [Sockets.set_due hk hjk] at hj
      rw [(h.current j hj).1] at hcurrent
      exact absurd (Option.some.inj hcurrent) hjk
  reported := by
    refine iff_of_true (onConnected_state _) ⟨k,?_,?_⟩
    · exact (onConnected_socket _).trans (h.current k (Or.inl (Or.inl hk))).1
    · show (c.sockets.set k .open).state k = _
      rw [Sockets.state_set hk, if_pos rfl]

theorem closed_settled (h : Settled c) (hk : c.sockets.Due k) :
    Settled { c with service := c.service.onClose, sockets := c.sockets.set k .closed } where
  current := by
    intro j hj
    obtain ⟨r, hr⟩ := Sockets.due_state hk
    by_cases hjk : j = k
    · subst hjk
      exact absurd hj (Sockets.set_closed_due hr)
    · rw [Sockets.set_due hr hjk] at hj
      have hcurrent := (h.current k hk).1
      rw [(h.current j hj).1] at hcurrent
      exact absurd (Option.some.inj hcurrent) hjk
  reported := by
    obtain ⟨r, hr⟩ := Sockets.due_state hk
    refine iff_of_false (fun hs => ?_) ?_
    · rw [onClose_state] at hs
      cases hs
    · rintro ⟨j, hj, hopen⟩
      rw [onClose_socket, (h.current k hk).1] at hj
      have hnow : (c.sockets.set k .closed).state j = some .open := hopen
      rw [Sockets.state_set hr, if_pos (Option.some.inj hj).symm] at hnow
      cases hnow

theorem step_settled (e : Event) (h : Settled c) (hg : Calm p e c) : Settled (step p e c) := by
  cases e with
  | init => exact init_settled h
  | tokensRead tokens =>
    simp only [step]
    split
    · exact h
    · rename_i n hn
      cases tokens with
      | signedOut => exact h.congr rfl rfl rfl
      | noAccess => exact h.congr rfl rfl rfl
      | expired => exact h.congr rfl rfl rfl
      | valid => exact connect_settled (hg.alone ⟨rfl,by omega⟩)
  | refreshed result =>
    simp only [step]
    split
    · exact h
    · cases result <;> exact h.congr rfl rfl rfl
  | stored =>
    simp only [step]
    split
    · exact h
    · rename_i n hn
      exact connect_settled (hg.alone (show 0 < c.storing by omega))
  | opened k =>
    simp only [step]
    split
    · rename_i hk
      exact opened_settled h hk
    · exact h
  | closed k =>
    simp only [step]
    split
    · rename_i hk
      exact closed_settled h hk
    · exact h
  | reconnect => exact init_settled (release_settled h (hg.gone trivial) true)
  | disconnect => exact release_settled h (hg.gone trivial) false
  | reconnectTick =>
    simp only [step]
    split
    · rename_i htimer
      split
      · exact h.congr rfl rfl rfl
      · rename_i hnot
        exact init_settled (release_settled h (hg.gone ⟨htimer,hnot⟩) true)
    · exact h
  | heartbeatTick =>
    simp only [step]
    split
    · exact h.congr rfl rfl rfl
    · exact h
  | pongTimeout =>
    simp only [step]
    split
    · rename_i hpong
      split
      · rename_i hconn
        have hrung : Settled { c with service := { c.service with pongTimeoutTimer := false } } :=
          h.congr rfl rfl rfl
        exact init_settled (release_settled hrung (hg.gone ⟨hpong,hconn⟩) true)
      · exact h.congr rfl rfl rfl
    · exact h
  | pong => exact h.congr rfl rfl rfl

theorem stale_inert (h : Settled c) (e : Event) (hs : StaleCallback c e) :
    (step p e c).service = c.service := by
  cases e with
  | opened k =>
    have hk : ¬ c.sockets.state k = some .connecting := fun hk =>
      hs (h.current k (Or.inl (Or.inl hk))).1
    simp only [step, if_neg hk]
  | closed k =>
    have hk : ¬ c.sockets.Due k := fun hk => hs (h.current k hk).1
    simp only [step, if_neg hk]
  | _ => exact hs.elim

theorem settled_initial : Settled {} where
  current := fun k hk => absurd hk (by simp [Sockets.Due, Sockets.Live, Sockets.state])
  reported := iff_of_false (fun h => WebSocketConnectionState.noConfusion h)
    (Sockets.not_currentOpen_none _)

theorem client_sound (p : ClientPlatform) (es : List Event)
    (hg : Meets (step p) (Calm p) es {}) : Meets (step p) (Sound p) es {} := by
  have hstep : ∀ e c, Calm p e c → Settled c → Settled (step p e c) := fun e c hg h =>
    step_settled e h hg
  refine meets_of_invariant (step p) hstep (fun e c hg h => ?_) es {} hg settled_initial
  have hnext := hstep e c hg h
  exact ⟨stale_inert h e,hnext.reported,hnext.single⟩

end

end CloudPlay.SupersededClientSockets
