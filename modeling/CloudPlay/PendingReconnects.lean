import CloudPlay.NodeAgentSocket
import CloudPlay.PendingClientReconnects

/-!
# Nodes that are to be connected

As for a client, what is on its way is a socket, a call of `init`, or the
reconnect timer. Once the timer is armed the agent tries again by itself; before
that a token that is not obtained ends it, and so does a close for as long as
the preferences take.
-/

set_option autoImplicit false

namespace CloudPlay.PendingReconnects
open ClientSockets NodeAgentSocket TransitionRun

section
variable {g : Config} {a : Agent}

def nodeInits (a : Agent) : ℕ := a.clearing+a.fetching

def NodeWaiting (n : ℕ) (a : Agent) : Prop :=
  a.sockets.CurrentLive a.service.socket ∨ n < nodeInits a ∨ a.service.reconnectTimer = true

/-- An agent with a device id and a secret. -/
def NodePending (g : Config) (a : Agent) : Prop :=
  a.service.shouldBeConnected = true → g.configured = true → NodeWaiting 0 a

/-- Where a step needs something else on the way. -/
def NodeUpheld (g : Config) (a : Agent) : Event → Prop
  | .tokenFetched obtained => obtained = false → 0 < a.fetching →
      a.service.shouldBeConnected = true → g.configured = true → NodeWaiting 1 a
  | .closed k => a.sockets.Due k → a.service.shouldBeConnected = true → g.configured = true →
      g.isHeadless = true ∨ 0 < nodeInits a ∨ a.service.reconnectTimer = true
  | .disconnectCleared => 0 < a.disconnecting → a.service.shouldBeConnected = true →
      g.configured = true → 0 < nodeInits a
  | .reconnectTick => a.service.reconnectTimer = true → a.service.wsOpen = true →
      a.service.shouldBeConnected = true → g.configured = true →
      a.sockets.CurrentLive a.service.socket ∨ 0 < nodeInits a
  | _ => True

theorem agent_connect_pending (a : Agent) : NodePending g a.connect := fun _ _ =>
  Or.inl (Sockets.connect_current a.sockets)

theorem fetch_pending (a : Agent) : NodePending g (a.fetch g) := by
  intro _ hg
  refine Or.inr (Or.inl ?_)
  simp only [Agent.fetch, if_pos hg, nodeInits]
  omega

theorem agent_init_pending (a : Agent) : NodePending g (a.init g) := by
  simp only [Agent.init]
  split
  · exact fetch_pending _
  · intro _ _
    refine Or.inr (Or.inl ?_)
    simp only [nodeInits]
    omega

theorem agent_opened_pending {k : ℕ} (hk : a.sockets.state k = some .connecting)
    (h : NodePending g a) :
    NodePending g { a with service := a.service.onOpen, sockets := a.sockets.set k .open } := by
  intro hs hg
  rcases h hs hg with hlive | hinits | htimer
  · exact Or.inl (PendingClientReconnects.opened_current hk hlive)
  · exact Or.inr (Or.inl hinits)
  · exact Or.inr (Or.inr htimer)

theorem armReconnect_pending (a : Agent) :
    NodePending g { a with service := a.service.armReconnect } := by
  intro hs _
  refine Or.inr (Or.inr ?_)
  have hcalled : a.service.armReconnect.shouldBeConnected = true := hs
  show a.service.armReconnect.reconnectTimer = true
  unfold Service.armReconnect at hcalled ⊢
  split
  · rfl
  · rename_i hnot
    rw [if_neg hnot] at hcalled
    exact absurd hcalled hnot

/-- Without a socket, a call of `init` or the timer has to be there. -/
theorem waiting_none {a : Agent} (h : a.service.socket = none) :
    NodeWaiting 0 a ↔ 0 < nodeInits a ∨ a.service.reconnectTimer = true := by
  unfold NodeWaiting
  rw [h]
  exact or_iff_right (Sockets.not_currentLive_none _)

theorem closed_pending_iff {k : ℕ} (hk : a.sockets.Due k) :
    NodePending g (a.onClose g k) ↔ NodeUpheld g a (.closed k) := by
  simp only [Agent.onClose]
  by_cases hheadless : g.isHeadless = true
  · rw [if_pos hheadless]
    refine iff_of_true ?_ (fun _ _ _ => Or.inl hheadless)
    exact armReconnect_pending
      { a with service := a.service.onClose, sockets := a.sockets.set k .closed }
  · rw [if_neg hheadless]
    have hwait : ∀ b : Agent, b.service = a.service.onClose → nodeInits b = nodeInits a →
        (NodePending g b ↔ NodeUpheld g a (.closed k)) := by
      intro b hservice hinits
      unfold NodePending
      rw [waiting_none (by rw [hservice]; rfl), hservice, hinits]
      constructor
      · exact fun h _ hs hg => Or.inr (h hs hg)
      · exact fun h hs hg => (h hk hs hg).resolve_left hheadless
    split
    · exact hwait _ rfl rfl
    · exact hwait _ rfl rfl

theorem tokenFetched_pending_iff {n : ℕ} (hn : a.fetching = n+1) (obtained : Bool) :
    NodePending g (if obtained then { a with fetching := n }.connect else { a with fetching := n }) ↔
      NodeUpheld g a (.tokenFetched obtained) := by
  cases obtained with
  | true => exact iff_of_true (agent_connect_pending _) (fun h => by cases h)
  | false =>
    have hinits : 0 < nodeInits { a with fetching := n } ↔ 1 < nodeInits a := by
      simp only [nodeInits]
      omega
    have hpos : 0 < a.fetching := by omega
    constructor
    · intro h _ _ hs hg
      rcases h hs hg with hlive | hmore | htimer
      · exact Or.inl hlive
      · exact Or.inr (Or.inl (hinits.mp hmore))
      · exact Or.inr (Or.inr htimer)
    · intro h hs hg
      rcases h rfl hpos hs hg with hlive | hmore | htimer
      · exact Or.inl hlive
      · exact Or.inr (Or.inl (hinits.mpr hmore))
      · exact Or.inr (Or.inr htimer)

theorem release_pending_iff : NodePending g (a.release g) ↔
    (a.service.shouldBeConnected = true → g.configured = true → 0 < nodeInits a) := by
  unfold NodePending
  rw [waiting_none rfl]
  constructor
  · exact fun h hs hg => (h hs hg).resolve_right Bool.false_ne_true
  · exact fun h hs hg => Or.inl (h hs hg)

theorem agent_reconnectTick_pending_iff (h : NodePending g a) :
    NodePending g (step g .reconnectTick a) ↔ NodeUpheld g a .reconnectTick := by
  by_cases htimer : a.service.reconnectTimer = true
  · by_cases hopen : a.service.wsOpen = true
    · simp only [step, if_pos htimer, if_pos hopen]
      constructor
      · intro hnext _ _ hs hg
        rcases hnext hs hg with hlive | hinits | htimer'
        · exact Or.inl hlive
        · exact Or.inr hinits
        · cases htimer'
      · intro hup hs hg
        rcases hup htimer hopen hs hg with hlive | hinits
        · exact Or.inl hlive
        · exact Or.inr (Or.inl hinits)
    · simp only [step, if_pos htimer, if_neg hopen]
      exact iff_of_true (agent_init_pending a) (fun _ ho => absurd ho hopen)
  · simp only [step, if_neg htimer]
    exact iff_of_true h (fun ht => absurd ht htimer)

theorem agent_step_pending_iff (g : Config) (e : Event) (a : Agent) (h : NodePending g a) :
    NodePending g (step g e a) ↔ NodeUpheld g a e := by
  cases e with
  | init => exact iff_of_true (agent_init_pending a) trivial
  | initCleared =>
    refine iff_of_true ?_ trivial
    simp only [step]
    split
    · exact h
    · exact fetch_pending _
  | tokenFetched obtained =>
    simp only [step]
    split
    · rename_i hzero
      exact iff_of_true h (fun _ hpos => absurd hpos (by omega))
    · rename_i n hn
      exact tokenFetched_pending_iff hn obtained
  | opened k =>
    refine iff_of_true ?_ trivial
    simp only [step]
    split
    · rename_i hk
      exact agent_opened_pending hk h
    · exact h
  | closed k =>
    simp only [step]
    split
    · rename_i hk
      exact closed_pending_iff hk
    · rename_i hk
      exact iff_of_true h (fun hdue => absurd hdue hk)
  | closeCleared stale =>
    refine iff_of_true ?_ trivial
    cases stale <;> simp only [step] <;> split
    · exact h
    · exact armReconnect_pending { a with closing := _ }
    · exact h
    · exact armReconnect_pending { a with staleClosing := _ }
  | disconnect =>
    refine iff_of_true ?_ trivial
    simp only [step, Agent.disconnect]
    split
    · exact fun hs => by cases hs
    · exact fun hs => by cases hs
  | disconnectCleared =>
    simp only [step]
    split
    · rename_i hzero
      exact iff_of_true h (fun hpos => absurd hpos (by omega))
    · rename_i n hn
      have hpos : 0 < a.disconnecting := by omega
      refine release_pending_iff.trans ?_
      exact ⟨fun hup _ => hup,fun hup => hup hpos⟩
  | reconnectTick => exact agent_reconnectTick_pending_iff h

end

/-- In every state of a run something is on its way, for both services, exactly
when every step finds what it needs. -/
theorem reconnect_pending (p : WebSocketService.ClientPlatform)
    (es : List WebSocketService.Event) (g : Config) (fs : List Event) :
    ((∀ before after, es = before ++ after →
        PendingClientReconnects.Pending (run (WebSocketService.step p) before {})) ↔
      Meets (WebSocketService.step p) (fun e c => PendingClientReconnects.Upheld c e) es {}) ∧
    ((∀ before after, fs = before ++ after → NodePending g (run (step g) before {})) ↔
      Meets (step g) (fun e a => NodeUpheld g a e) fs {}) := by
  constructor
  · apply always_iff_meets (WebSocketService.step p) (PendingClientReconnects.step_pending_iff p)
    exact fun h => by cases h
  · apply always_iff_meets (step g) (agent_step_pending_iff g)
    exact fun h => by cases h

/-- A client whose token cannot be refreshed for once, and a node that gets no
device token when it starts. -/
theorem gives_up :
    ¬ PendingClientReconnects.Pending (run (WebSocketService.step .desktop)
      [.init, .tokensRead .expired, .refreshed .failed] {}) ∧
    ¬ NodePending {} (run (step {}) [.init, .tokenFetched false] {}) := by
  constructor
  · intro h
    rcases h rfl rfl with hlive | hinits | htimer
    · exact Sockets.not_currentLive_none _ hlive
    · exact absurd hinits (by decide)
    · cases htimer
  · intro h
    rcases h rfl rfl with hlive | hinits | htimer
    · exact Sockets.not_currentLive_none _ hlive
    · exact absurd hinits (by decide)
    · cases htimer

end CloudPlay.PendingReconnects
