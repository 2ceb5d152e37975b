import CloudPlay.NodeAgentSocket
import CloudPlay.SupersededClientSockets

/-!
# Callbacks of superseded sockets of a node

The close callback of an agent that was stopped finds everything in place
already and changes nothing, as long as the agent is not started again before
the callback has come.
-/

set_option autoImplicit false

namespace CloudPlay.SupersededSockets
open ClientSockets NodeAgentSocket SupersededClientSockets TransitionRun

section
variable {g : Config} {a a' : Agent} {k : ℕ}

/-- A callback of a socket that is not the current one, or what is left of it. -/
def StaleNodeCallback (a : Agent) : Event → Prop
  | .opened k => a.service.socket ≠ some k
  | .closed k => a.service.socket ≠ some k
  | .closeCleared stale => stale
  | _ => False

structure NodeSound (g : Config) (e : Event) (a : Agent) : Prop where
  inert : StaleNodeCallback a e → (step g e a).service = a.service
  reported : (step g e a).service.wsOpen = true ↔
    (step g e a).sockets.CurrentOpen (step g e a).service.socket
  single : OneLive (step g e a).sockets

/-- No callback of a socket that was given up is on its way. -/
def NoneClosing (a : Agent) : Prop :=
  (∀ k, a.sockets.state k ≠ some .closing) ∧ a.staleClosing = 0

/-- Closing the current socket takes effect. -/
def Closable (g : Config) (a : Agent) : Prop :=
  ∀ k, a.service.socket = some k → a.sockets.state k = some .connecting → g.isWeb

def NodeCalm (g : Config) : Event → Agent → Prop
  | .init, a => NoneClosing a
  | .tokenFetched obtained, a => obtained → 0 < a.fetching → ∀ k, ¬ a.sockets.Due k
  | .disconnect, a => g.isHeadless → Closable g a
  | .disconnectCleared, a => 0 < a.disconnecting → a.sockets.CurrentLive a.service.socket →
      Closable g a ∧ a.service.shouldBeConnected = false ∧ a.service.nodeHeartbeatTimer = false
  | .reconnectTick, a => a.service.reconnectTimer → a.service.wsOpen = false → NoneClosing a
  | _, _ => True

instance (a : Agent) : Decidable (NoneClosing a) := inferInstanceAs (Decidable (_ ∧ _))

instance (g : Config) (a : Agent) : Decidable (Closable g a) :=
  match h : a.service.socket with
  | none => isTrue fun k hk => by
      rw [h] at hk
      cases hk
  | some k => decidable_of_iff (a.sockets.state k = some .connecting → g.isWeb)
    ⟨fun hw j hj => by
      rw [h] at hj
      exact Option.some.inj hj ▸ hw,fun hw => hw k h⟩

instance (g : Config) : (e : Event) → (a : Agent) → Decidable (NodeCalm g e a)
  | .init, a => inferInstanceAs (Decidable (NoneClosing a))
  | .tokenFetched obtained, a =>
    inferInstanceAs (Decidable (obtained → 0 < a.fetching → ∀ k, ¬ a.sockets.Due k))
  | .disconnect, a => inferInstanceAs (Decidable (g.isHeadless → Closable g a))
  | .disconnectCleared, a => inferInstanceAs (Decidable (0 < a.disconnecting →
      a.sockets.CurrentLive a.service.socket → Closable g a ∧
        a.service.shouldBeConnected = false ∧ a.service.nodeHeartbeatTimer = false))
  | .reconnectTick, a =>
    inferInstanceAs (Decidable (a.service.reconnectTimer → a.service.wsOpen = false →
      NoneClosing a))
  | .initCleared, _ | .opened _, _ | .closed _, _ | .closeCleared _, _ => isTrue trivial

/-- A callback to come is one of the current socket, or one of a socket that was
closed by an agent that has not been started again. -/
structure NodeSettled (a : Agent) : Prop where
  current : ∀ k, a.sockets.Due k → a.service.socket = some k ∧ a.sockets.Live k ∨
    a.sockets.state k = some .closing ∧ a.service.socket = none ∧
      a.service.shouldBeConnected = false ∧ a.service.nodeHeartbeatTimer = false
  reported : a.service.wsOpen = true ↔ a.sockets.CurrentOpen a.service.socket
  stale : 0 < a.staleClosing → a.service.shouldBeConnected = false

theorem NodeSettled.live (h : NodeSettled a) (hk : a.sockets.Live k) :
    a.service.socket = some k := by
  rcases h.current k (Or.inl hk) with ⟨hcurrent, -⟩ | ⟨hclosing, -⟩
  · exact hcurrent
  · rcases hk with hk | hk <;>
    · rw [hk] at hclosing
      cases hclosing

theorem NodeSettled.single (h : NodeSettled a) : OneLive a.sockets := by
  intro i j hi hj
  have hsocket := h.live hi
  rw [h.live hj] at hsocket
  exact (Option.some.inj hsocket).symm

/-- A step that leaves the sockets, what is reported and the heartbeat. -/
theorem NodeSettled.congr (h : NodeSettled a) (hw : a'.sockets = a.sockets)
    (hs : a'.service.socket = a.service.socket) (ho : a'.service.wsOpen = a.service.wsOpen)
    (hb : a.service.nodeHeartbeatTimer = false → a'.service.nodeHeartbeatTimer = false)
    (hc : a.service.shouldBeConnected = false → a'.service.shouldBeConnected = false)
    (hn : a'.staleClosing = a.staleClosing) : NodeSettled a' where
  current := by
    intro k hk
    rw [hw] at hk
    rw [hw, hs]
    rcases h.current k hk with hcurrent | ⟨hclosing, hnone, hcalled, hbeat⟩
    · exact Or.inl hcurrent
    · exact Or.inr ⟨hclosing,hnone,hc hcalled,hb hbeat⟩
  reported := by
    rw [hw, hs, ho]
    exact h.reported
  stale := by
    rw [hn]
    exact fun hpos => hc (h.stale hpos)

theorem fetch_settled (h : NodeSettled a) : NodeSettled (a.fetch g) := by
  unfold Agent.fetch
  split
  · exact h.congr rfl rfl rfl id id rfl
  · exact h

theorem called_settled (h : NodeSettled a) (hnone : NoneClosing a) :
    NodeSettled { a with service := { a.service with shouldBeConnected := true } } where
  current := by
    intro k hk
    rcases h.current k hk with hcurrent | ⟨hclosing, -⟩
    · exact Or.inl hcurrent
    · exact absurd hclosing (hnone.1 k)
  reported := h.reported
  stale := fun hpos => absurd hnone.2 (Nat.pos_iff_ne_zero.mp hpos)

theorem agent_init_settled (h : NodeSettled a) (hnone : NoneClosing a) :
    NodeSettled (a.init g) := by
  have hcalled := called_settled h hnone
  simp only [Agent.init]
  split
  · exact fetch_settled hcalled
  · exact hcalled.congr rfl rfl rfl id id rfl

theorem agent_connect_settled (h : NodeSettled a) (halone : ∀ k, ¬ a.sockets.Due k) :
    NodeSettled a.connect where
  current := by
    intro k hk
    rcases Sockets.connect_due hk with rfl | hold
    · refine Or.inl ⟨rfl,Or.inl ?_⟩
      show a.sockets.connect.state _ = _
      rw [Sockets.state_connect, if_pos rfl]
    · exact absurd hold (halone k)
  reported := by
    refine iff_of_false Bool.false_ne_true ?_
    rintro ⟨k, hk, hopen⟩
    have hnew : a.sockets.connect.state k = some .open := hopen
    rw [← Option.some.inj hk, Sockets.state_connect, if_pos rfl] at hnew
    cases hnew
  stale := h.stale

/-- Giving up a socket that can be closed, by an agent that is not to be
connected, leaves nothing but a closing socket. -/
theorem agent_release_settled (h : NodeSettled a)
    (hcalm : a.sockets.CurrentLive a.service.socket → Closable g a ∧
      a.service.shouldBeConnected = false ∧ a.service.nodeHeartbeatTimer = false) :
    NodeSettled (a.release g) where
  current := by
    intro k hk
    right
    rcases h.current k (Sockets.close_due hk) with ⟨hcurrent, hlive⟩ | ⟨hclosing, hnone, hidle⟩
    · obtain ⟨hclosable, hidle⟩ := hcalm ⟨k,hcurrent,hlive⟩
      refine ⟨?_,rfl,hidle⟩
      show (a.sockets.close g.isWeb a.service.socket).state k = _
      rw [hcurrent]
      rcases hlive with hconn | hopen
      · rw [Sockets.state_close hconn]
        simp [Sockets.closed, hclosable k hcurrent hconn]
      · rw [Sockets.state_close hopen]
        rfl
    · refine ⟨?_,rfl,hidle⟩
      show (a.sockets.close g.isWeb a.service.socket).state k = _
      rw [hnone]
      exact hclosing
  reported := iff_of_false Bool.false_ne_true (Sockets.not_currentOpen_none _)
  stale := h.stale

theorem agent_disconnect_settled (h : NodeSettled a) (hg : g.isHeadless → Closable g a) :
    NodeSettled (a.disconnect g) := by
  have hcalled : NodeSettled { a with service := { a.service with
      shouldBeConnected := false, nodeHeartbeatTimer := false } } :=
    h.congr rfl rfl rfl (fun _ => rfl) (fun _ => rfl) rfl
  simp only [Agent.disconnect]
  split
  · rename_i hheadless
    exact agent_release_settled hcalled fun _ => ⟨hg hheadless,rfl,rfl⟩
  · exact hcalled.congr rfl rfl rfl id id rfl

theorem agent_opened_settled (h : NodeSettled a) (hk : a.sockets.state k = some .connecting) :
    NodeSettled { a with service := a.service.onOpen, sockets := a.sockets.set k .open } where
  current := by
    intro j hj
    have hcurrent := h.live (Or.inl hk)
    left
    by_cases hjk : j = k
    · subst hjk
      exact ⟨hcurrent,Sockets.set_open_live hk⟩
    · rw [Sockets.set_due hk hjk] at hj
      rcases h.current j hj with ⟨hother, -⟩ | ⟨-, hnone, -⟩
      · rw [hother] at hcurrent
        exact absurd (Option.some.inj hcurrent) hjk
      · rw [hnone] at hcurrent
        cases hcurrent
  reported := by
    refine iff_of_true rfl ⟨k,h.live (Or.inl hk),?_⟩
    show (a.sockets.set k .open).state k = _
    rw [Sockets.state_set hk, if_pos rfl]
  stale := h.stale

theorem armReconnect_settled (h : NodeSettled a) :
    NodeSettled { a with service := a.service.armReconnect } := by
  unfold Service.armReconnect
  split
  · exact h.congr rfl rfl rfl id id rfl
  · exact h

theorem onClose_eq {s : Service} (ho : s.wsOpen = false) (hn : s.socket = none)
    (hb : s.nodeHeartbeatTimer = false) : s.onClose = s := by
  obtain ⟨called, isOpen, socket, timer, beat⟩ := s
  cases ho
  cases hn
  cases hb
  rfl

/-- The close callback of a socket that was given up changes nothing. -/
theorem onClose_idle (h : NodeSettled a) (hk : a.sockets.Due k)
    (hs : a.service.socket ≠ some k) :
    a.service.onClose = a.service ∧ a.service.shouldBeConnected = false := by
  rcases h.current k hk with ⟨hcurrent, -⟩ | ⟨-, hnone, hcalled, hbeat⟩
  · exact absurd hcurrent hs
  · refine ⟨?_,hcalled⟩
    have hopen : a.service.wsOpen = false := by
      refine Bool.eq_false_iff.mpr fun ho => ?_
      obtain ⟨j, hj, -⟩ := h.reported.mp ho
      rw [hnone] at hj
      cases hj
    exact onClose_eq hopen hnone hbeat

theorem agent_closed_settled (h : NodeSettled a) (hk : a.sockets.Due k) :
    NodeSettled { a with service := a.service.onClose, sockets := a.sockets.set k .closed } where
  current := by
    intro j hj
    obtain ⟨r, hr⟩ := Sockets.due_state hk
    by_cases hjk : j = k
    · subst hjk
      exact absurd hj (Sockets.set_closed_due hr)
    · rw [Sockets.set_due hr hjk] at hj
      show _ ∨ (a.sockets.set k .closed).state j = _ ∧ _
      rw [Sockets.state_set hr, if_neg hjk]
      rcases h.current j hj with ⟨hother, hlive⟩ | ⟨hclosing, -, hcalled, -⟩
      · have hs : a.service.socket ≠ some k := by
          rw [hother]
          exact fun heq => hjk (Option.some.inj heq)
        obtain ⟨-, hnone, -⟩ := (h.current k hk).resolve_left fun hc => hs hc.1
        rw [hnone] at hother
        cases hother
      · exact Or.inr ⟨hclosing,rfl,hcalled,rfl⟩
  reported := iff_of_false Bool.false_ne_true (Sockets.not_currentOpen_none _)
  stale := h.stale

theorem onClose_settled (h : NodeSettled a) (hk : a.sockets.Due k) :
    NodeSettled (a.onClose g k) := by
  have hclosed := agent_closed_settled h hk
  simp only [Agent.onClose]
  split
  · exact armReconnect_settled hclosed
  · split
    · exact hclosed.congr rfl rfl rfl id id rfl
    · rename_i hs
      exact ⟨hclosed.current,hclosed.reported,fun _ => (onClose_idle h hk hs).2⟩

theorem agent_step_settled (e : Event) (h : NodeSettled a)
    (hg : NodeCalm g e a) : NodeSettled (step g e a) := by
  cases e with
  | init => exact agent_init_settled h hg
  | initCleared =>
    simp only [step]
    split
    · exact h
    · exact fetch_settled (h.congr rfl rfl rfl id id rfl)
  | tokenFetched obtained =>
    simp only [step]
    split
    · exact h
    · rename_i n hn
      split
      · rename_i hob
        refine agent_connect_settled (h.congr rfl rfl rfl id id rfl) (hg hob ?_)
        show 0 < a.fetching
        omega
      · exact h.congr rfl rfl rfl id id rfl
  | opened k =>
    simp only [step]
    split
    · rename_i hk
      exact agent_opened_settled h hk
    · exact h
  | closed k =>
    simp only [step]
    split
    · rename_i hk
      exact onClose_settled h hk
    · exact h
  | closeCleared stale =>
    cases stale with
    | false =>
      simp only [step]
      split
      · exact h
      · rename_i n _
        have hless : NodeSettled { a with closing := n } := h.congr rfl rfl rfl id id rfl
        exact armReconnect_settled hless
    | true =>
      simp only [step]
      split
      · exact h
      · rename_i n hn
        have hless : NodeSettled { a with staleClosing := n } :=
          ⟨h.current,h.reported,fun _ => h.stale (by omega)⟩
        exact armReconnect_settled hless
  | disconnect => exact agent_disconnect_settled h hg
  | disconnectCleared =>
    simp only [step]
    split
    · exact h
    · rename_i n hn
      refine agent_release_settled (h.congr rfl rfl rfl id id rfl) (hg ?_)
      show 0 < a.disconnecting
      omega
  | reconnectTick =>
    simp only [step]
    split
    · rename_i htimer
      split
      · exact h.congr rfl rfl rfl id id rfl
      · rename_i hopen
        exact agent_init_settled h (hg htimer (Bool.eq_false_iff.mpr hopen))
    · exact h

theorem armReconnect_idle {s : Service} (h : s.shouldBeConnected = false) :
    s.armReconnect = s := by
  unfold Service.armReconnect
  rw [h]
  rfl

theorem agent_stale_inert (h : NodeSettled a) (e : Event)
    (hs : StaleNodeCallback a e) : (step g e a).service = a.service := by
  cases e with
  | opened k =>
    have hk : ¬ a.sockets.state k = some .connecting := fun hk => hs (h.live (Or.inl hk))
    simp only [step, if_neg hk]
  | closed k =>
    simp only [step]
    split
    · rename_i hk
      obtain ⟨hidle, hcalled⟩ := onClose_idle h hk hs
      simp only [Agent.onClose]
      split
      · exact (congrArg _ hidle).trans (armReconnect_idle hcalled)
      · split
        · exact hidle
        · exact hidle
    · rfl
  | closeCleared stale =>
    cases stale with
    | false => cases hs
    | true =>
      simp only [step]
      split
      · rfl
      · rename_i n hn
        exact armReconnect_idle (h.stale (by omega))
  | _ => exact hs.elim

theorem agent_settled_initial : NodeSettled {} where
  current := fun k hk => absurd hk (by simp [Sockets.Due, Sockets.Live, Sockets.state])
  reported := iff_of_false Bool.false_ne_true (Sockets.not_currentOpen_none _)
  stale := fun h => absurd h (Nat.lt_irrefl 0)

theorem node_sound (g : Config) (es : List Event)
    (hg : Meets (step g) (NodeCalm g) es {}) :
    Meets (step g) (NodeSound g) es {} := by
  have hstep : ∀ e a, NodeCalm g e a → NodeSettled a → NodeSettled (step g e a) :=
    fun e a hg h => agent_step_settled e h hg
  refine meets_of_invariant (step g) hstep (fun e a hg h => ?_) es {} hg agent_settled_initial
  have hnext := hstep e a hg h
  exact ⟨agent_stale_inert h e,hnext.reported,hnext.single⟩

end

/-- Both services, in every run that is calm. -/
theorem superseded_inert (p : WebSocketService.ClientPlatform)
    (es : List WebSocketService.Event) (g : Config) (fs : List Event)
    (hclient : Meets (WebSocketService.step p) (Calm p) es {})
    (hnode : Meets (step g) (NodeCalm g) fs {}) :
    Meets (WebSocketService.step p) (Sound p) es {} ∧ Meets (step g) (NodeSound g) fs {} :=
  ⟨client_sound p es hclient,node_sound g fs hnode⟩

/-- A client that loses its socket and gets another one. -/
def calmClient : List WebSocketService.Event :=
  [.init, .tokensRead .valid, .opened 0, .closed 0, .reconnectTick, .tokensRead .valid, .opened 1]

/-- A node that is stopped, told so late and started again. -/
def calmNode : List Event :=
  [.init, .tokenFetched true, .opened 0, .disconnect, .closed 0, .init, .tokenFetched true]

theorem calm_sound :
    Meets (WebSocketService.step .desktop) (Sound .desktop) calmClient {} ∧
      Meets (step {}) (NodeSound {}) calmNode {} :=
  superseded_inert .desktop calmClient {} calmNode (by decide) (by decide)

/-- A client reconnects while it is connected: it reports a connection without a
socket, and the late close of the old socket marks the new one as lost. A node
calls `init` again before its first socket is there: the close of the first
socket takes the second one away. -/
theorem stale_close_harms :
    ¬ Meets (WebSocketService.step .desktop) (Sound .desktop)
      [.init, .tokensRead .valid, .opened 0, .reconnect] {} ∧
    (WebSocketService.step .desktop (.closed 0) (run (WebSocketService.step .desktop)
        [.init, .tokensRead .valid, .opened 0, .reconnect, .tokensRead .valid, .opened 1]
        {})).service.reconnectTimer = true ∧
    ¬ Meets (step {}) (NodeSound {})
      [.init, .init, .tokenFetched true, .tokenFetched true, .opened 0, .opened 1, .closed 0] {} := by
  refine ⟨fun h => ?_,rfl,fun h => ?_⟩
  · have hreported := h.2.2.2.1.reported
    revert hreported
    decide
  · have hinert := h.2.2.2.2.2.2.1.inert (show some 1 ≠ some 0 by decide)
    revert hinert
    decide

end CloudPlay.SupersededSockets
