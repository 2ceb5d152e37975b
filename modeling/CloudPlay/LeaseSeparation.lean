import CloudPlay.NodeAgentProcess
import CloudPlay.StreamAuthorization

/-!
# Releases of other leases

The handler of `lease_release` compares the lease ids only before it forgets
the active id. The token goes in any case, and outside of headless mode so do
the password hash, the connectable flag and the sessions. So a release for
another lease leaves the active one alone only when an earlier one has done
all the damage. In a GUI the handler of `lease_assigned` waits for the preferences
before it makes the node connectable, and other messages are handled meanwhile.
-/

set_option autoImplicit false

namespace CloudPlay.LeaseSeparation
open ControlPlaneModels ControlPlaneSerializers ControlPlaneConsumer NodeAgentService
open NodeAgentProcess TransitionRun
open StreamAuthorization (digest)

/-- Everything the active lease has on the node. -/
structure Untouched (p p' : AgentProcess) : Prop where
  activeLeaseId : p'.agent.activeLeaseId = p.agent.activeLeaseId
  activeLeaseToken : p'.agent.activeLeaseToken = p.agent.activeLeaseToken
  connectPasswordHash : p'.agent.connectPasswordHash = p.agent.connectPasswordHash
  connectable : p'.agent.connectable = p.agent.connectable
  sessions : p'.sessions = p.sessions

/-- What a handler of `lease_assigned` waits for in a GUI: the stored hash, then the stored
switch. -/
inductive Await
  | hash (leaseId : Uuid)
  | allow (leaseId : Uuid)
  deriving DecidableEq

/-- The agent with the handlers that are suspended. -/
structure SplitAgent where
  process : AgentProcess
  waiting : List Await := []

inductive SplitEvent
  | agent (e : AgentEvent)
  | stored (n : ℕ)

section Split
variable (hash : String → String)

/-- What `lease_assigned` does in a GUI before it waits. -/
def AgentProcess.beginAssign (p : AgentProcess) (leaseId : Uuid) (leaseToken : String) :
    AgentProcess :=
  { p with
    agent := { p.agent with
      activeLeaseId := some leaseId
      activeLeaseToken := some leaseToken
      connectPasswordHash := hash leaseToken } }

def SplitAgent.assign (s : SplitAgent) (msg : Message) (leaseId : Uuid) (leaseToken : String) :
    SplitAgent :=
  if s.process.agent.isHeadless then {s with process := step hash (.onMessage msg) s.process}
  else
    { process := AgentProcess.beginAssign hash s.process leaseId leaseToken
      waiting := s.waiting ++ [.hash leaseId] }

/-- A write to the preferences completes; the node is connectable after the first. -/
def SplitAgent.resume (n : ℕ) (s : SplitAgent) : SplitAgent :=
  match s.waiting[n]? with
  | some (.hash leaseId) =>
    { process := { s.process with agent := { s.process.agent with connectable := true } }
      waiting := s.waiting.set n (.allow leaseId) }
  | some (.allow _) => {s with waiting := s.waiting.eraseIdx n}
  | none => s

/-- The handlers of all other messages do what concerns the lease before they wait. -/
def splitStep : SplitEvent → SplitAgent → SplitAgent
  | .agent (.onMessage (.leaseAssigned leaseId d leaseToken unit)), s =>
    s.assign hash (.leaseAssigned leaseId d leaseToken unit) leaseId leaseToken
  | .agent e, s => {s with process := step hash e s.process}
  | .stored n, s => s.resume n

end Split

/-- In a GUI the token of an active lease goes together with the password. -/
def TokenGuards (p : AgentProcess) : Prop :=
  p.agent.isHeadless = false → p.agent.activeLeaseId.isSome → p.agent.activeLeaseToken = none →
    p.agent.connectPasswordHash = ""

section Reached
variable (hash : String → String)

theorem onMessage_tokenGuards {p : AgentProcess} (msg : Message) (h : TokenGuards p) :
    TokenGuards (p.receive hash msg) := by
  cases msg with
  | leaseAssigned leaseId d leaseToken unit =>
    intro _ _ htoken
    simp [AgentProcess.receive, NodeAgent.onMessage, NodeAgent.applyLeaseCredentials] at htoken
  | leaseRelease leaseId d reason =>
    intro hgui _ _
    apply And.right
    apply clearUnlessHeadless_gui
    exact (onMessage_mode hash p.agent (.leaseRelease leaseId d reason)).symm.trans hgui
  | _ => exact h

theorem step_tokenGuards (e : AgentEvent) {p : AgentProcess} (h : TokenGuards p) :
    TokenGuards (step hash e p) := by
  rcases step_agent hash e p with ha | ha | ⟨msg, rfl, -⟩
  · simpa only [TokenGuards, ha] using h
  · intro hgui hid htoken
    rw [ha] at hgui ⊢
    exact (clearUnlessHeadless_gui (by simpa using hgui)).2
  · exact onMessage_tokenGuards hash msg h

theorem assign_tokenGuards {s : SplitAgent} (msg : Message) (leaseId : Uuid) (leaseToken : String)
    (h : TokenGuards s.process) : TokenGuards (s.assign hash msg leaseId leaseToken).process := by
  unfold SplitAgent.assign
  split
  · exact step_tokenGuards hash (.onMessage msg) h
  · intro _ _ htoken
    cases htoken

theorem resume_tokenGuards {s : SplitAgent} (n : ℕ) (h : TokenGuards s.process) :
    TokenGuards (s.resume n).process := by
  unfold SplitAgent.resume
  split
  · exact h
  · exact h
  · exact h

/-- Whatever is suspended, an active lease without its token has no password. -/
theorem splitStep_tokenGuards (e : SplitEvent) (s : SplitAgent) (h : TokenGuards s.process) :
    TokenGuards (splitStep hash e s).process := by
  cases e with
  | agent e =>
    unfold splitStep
    split
    · exact assign_tokenGuards hash _ _ _ h
    · rename_i hsame
      cases hsame
      exact step_tokenGuards hash e h
    · rename_i hsame
      cases hsame
  | stored n => exact resume_tokenGuards n h

theorem reachable_tokenGuards {isHeadless enabled connectable : Bool} {digest : String}
    {s : SplitAgent}
    (hs : Reachable (splitStep hash) ⟨start isHeadless enabled connectable digest,[]⟩ s) :
    TokenGuards s.process := by
  refine @reachable_invariant _ _ (splitStep hash) (fun s => TokenGuards s.process) _
    (splitStep_tokenGuards hash) ?_ _ hs
  intro _ hid
  simp [start] at hid

/-- The release of another lease leaves the active one alone exactly when its token is gone
already and there is nothing left to take away: no session, and no node that lets in. -/
theorem foreign_release_iff {isHeadless enabled connectable : Bool} {digest : String}
    {s : SplitAgent}
    (hs : Reachable (splitStep hash) ⟨start isHeadless enabled connectable digest,[]⟩ s)
    {L X : Uuid} (hL : s.process.agent.activeLeaseId = some L) (hX : X ≠ L)
    (deviceId reason : String) :
    Untouched s.process
        (splitStep hash (.agent (.onMessage (.leaseRelease X deviceId reason))) s).process ↔
      s.process.agent.activeLeaseToken = none ∧ (s.process.agent.isHeadless = true ∨
        s.process.sessions = [] ∧ s.process.agent.connectable = false) := by
  show Untouched s.process (step hash (.onMessage (.leaseRelease X deviceId reason)) s.process) ↔ _
  generalize hp : s.process = p at hL
  have hguards : TokenGuards p := hp ▸ reachable_tokenGuards hash hs
  have hid : (step hash (.onMessage (.leaseRelease X deviceId reason)) p).agent =
      NodeAgent.clearUnlessHeadless { p.agent with activeLeaseToken := none } := by
    have hkeep : (if p.agent.activeLeaseId = some X then none else p.agent.activeLeaseId) =
        p.agent.activeLeaseId := by
      rw [hL, if_neg (by simpa using Ne.symm hX)]
    simp only [step, AgentProcess.receive, NodeAgent.onMessage, hkeep]
  have hsessions : (step hash (.onMessage (.leaseRelease X deviceId reason)) p).sessions =
      if p.agent.isHeadless then p.sessions else [] := by
    cases hh : p.agent.isHeadless <;> simp [step, AgentProcess.receive, isRelease, hh]
  constructor
  · intro h
    have htoken := h.activeLeaseToken
    rw [hid, clearUnlessHeadless_leaseToken] at htoken
    refine ⟨htoken.symm,?_⟩
    cases hh : p.agent.isHeadless with
    | true => exact Or.inl rfl
    | false =>
      right
      have hstopped := h.sessions
      have hconn := h.connectable
      rw [hsessions, hh] at hstopped
      rw [hid, (clearUnlessHeadless_gui (a := { p.agent with activeLeaseToken := none }) hh).1]
        at hconn
      exact ⟨hstopped.symm,hconn.symm⟩
  · rintro ⟨htoken, hmode⟩
    have hagent : { p.agent with activeLeaseToken := none } = p.agent := by rw [← htoken]
    rw [hagent] at hid
    cases hh : p.agent.isHeadless with
    | true =>
      rw [clearUnlessHeadless_headless hh] at hid
      exact ⟨by rw [hid],by rw [hid],by rw [hid],by rw [hid],by simp [hsessions, hh]⟩
    | false =>
      obtain ⟨hnil, hconn⟩ := hmode.resolve_left (by simp [hh])
      have hhash := hguards hh (by simp [hL]) htoken
      obtain ⟨hconn', hhash'⟩ := clearUnlessHeadless_gui hh
      exact ⟨by rw [hid, clearUnlessHeadless_leaseId],by rw [hid, clearUnlessHeadless_leaseToken],
        by rw [hid, hhash', hhash],by rw [hid, hconn', hconn],by simp [hsessions, hh, hnil]⟩

end Reached

def assigned (leaseId : Uuid) (leaseToken : String) : AgentEvent :=
  .onMessage (.leaseAssigned leaseId "node-1" leaseToken .hour)

def released (leaseId : Uuid) : AgentEvent :=
  .onMessage (.leaseRelease leaseId "node-1" "USER_RELEASE")

def gui : SplitAgent := ⟨start false true false "",[]⟩

/-- The second customer of a node streams. -/
def streamingRun : List SplitEvent :=
  [.agent .init,.agent .onOpen,.agent (assigned 1 "t0"),.stored 0,.stored 0,
    .agent (released 1),.agent (assigned 2 "t1"),.stored 0,.stored 0,
    .agent (.onMessage (.remoteSessionRequested ⟨2,"bob","u2","Windows","pc",true,1⟩ [])),
    .agent (.sessionCreated "u2")]

/-- The release of the first lease is delivered a second time. -/
theorem late_release_disconnects :
    (run (splitStep digest) streamingRun gui).process.agent.activeLeaseId = some 2 ∧
    (run (splitStep digest) streamingRun gui).process.sessions = ["u2"] ∧
    ¬Untouched (run (splitStep digest) streamingRun gui).process
      (splitStep digest (.agent (released 1)) (run (splitStep digest) streamingRun gui)).process := by
  refine ⟨by decide,by decide,fun h => ?_⟩
  have hgone : (splitStep digest (.agent (released 1))
      (run (splitStep digest) streamingRun gui)).process.sessions = [] := by decide
  have hsome : (run (splitStep digest) streamingRun gui).process.sessions = ["u2"] := by
    decide
  rw [h.sessions, hsome] at hgone
  cases hgone

/-- A headless node loses its token to the first foreign release. -/
def wipedRun : List SplitEvent :=
  [.agent .init,.agent .onOpen,.agent (assigned 2 "t1"),.agent (released 1)]

def headless : SplitAgent := ⟨start true true false "",[]⟩

theorem second_release_harmless :
    Untouched (run (splitStep digest) wipedRun headless).process
      (splitStep digest (.agent (released 1)) (run (splitStep digest) wipedRun headless)).process :=
  (@foreign_release_iff digest true true false "" _ ⟨wipedRun,rfl⟩ 2 1 (by decide) (by decide)
    "node-1" "USER_RELEASE").mpr (by decide)

/-- A release between the two halves of an assignment: the node lets in afterwards. -/
example : (run (splitStep digest)
    [.agent (assigned 2 "t1"),.agent (released 1),.stored 0] gui).process.agent =
      {isHeadless := false, enabled := true, activeLeaseId := some 2, connectable := true} := by
  decide

end CloudPlay.LeaseSeparation
