import CloudPlay.LeaseSeparation

/-!
# Which password the node accepts

The password check reads two global settings. They are written when a lease
is assigned and wiped, in a GUI only, by whatever clears the lease state. The
lease an agent holds is the one assigned last, until its own release comes.
Passwords follow leases when the two ways to lose them coincide: in headless
mode no release of the lease may come, in a GUI none but its own may be all
that clears the state.
-/

set_option autoImplicit false

namespace CloudPlay.TokenRevocation
open ControlPlaneModels ControlPlaneSerializers NodeAgentService NodeAgentProcess LeaseSeparation
open TransitionRun
open StreamAuthorization (digest)

/-- The lease an agent has been assigned and not yet been told to release. -/
def hold : AgentEvent → Option (Uuid × String) → Option (Uuid × String)
  | .onMessage (.leaseAssigned leaseId _ leaseToken _), _ => some (leaseId,leaseToken)
  | .onMessage (.leaseRelease leaseId _ _), held => held.filter (fun l => l.1 ≠ leaseId)
  | _, held => held

/-- The checks of `startStreaming` accept the token of the held lease and no
other password. -/
def PasswordFollows (hash : String → String) (a : NodeAgent) (held : Option (Uuid × String)) :
    Prop :=
  ∀ settings password, settings.connectPassword = some password → settings.screenId.isSome →
    (startStreaming hash a settings = .passed ↔ ∃ leaseId, held = some (leaseId,password))

def assigns : AgentEvent → Bool
  | .onMessage (.leaseAssigned _ _ _ _) => true
  | _ => false

def releases (leaseId : Uuid) : AgentEvent → Bool
  | .onMessage (.leaseRelease id _ _) => id = leaseId
  | _ => false

/-- The events whose handler reaches `_clearLeaseState`. -/
def clears : AgentEvent → Bool
  | .init => true
  | .onClose => true
  | .disconnect => true
  | .onMessage (.leaseRelease _ _ _) => true
  | _ => false

/-- What may follow the assignment of a lease. -/
def Tolerated (isHeadless : Bool) (leaseId : Uuid) (after : List AgentEvent) : Prop :=
  if isHeadless then after.any (releases leaseId) = false
  else after.any (releases leaseId) = true ∨ after.any clears = false

def credentials (a : NodeAgent) : Option String :=
  if a.connectable then some a.connectPasswordHash else none

section Reading
variable (hash : String → String)

theorem credentials_cleared {a : NodeAgent} :
    credentials a.clearUnlessHeadless = if a.isHeadless then credentials a else none := by
  cases h : a.isHeadless with
  | true => simp [clearUnlessHeadless_headless h]
  | false => simp [credentials, (clearUnlessHeadless_gui h).1]

theorem step_credentials (e : AgentEvent) (p : AgentProcess) (h : assigns e = false) :
    credentials (step hash e p).agent =
      if clears e && !p.agent.isHeadless then none else credentials p.agent := by
  have hcleared : credentials p.agent.clearUnlessHeadless =
      if !p.agent.isHeadless then none else credentials p.agent := by
    rw [credentials_cleared]
    cases p.agent.isHeadless <;> rfl
  cases e with
  | init => exact hcleared
  | onClose => exact hcleared
  | disconnect => exact hcleared
  | sessionCreated c =>
    have hsame : (step hash (.sessionCreated c) p).agent = p.agent := by
      simp only [step]
      split <;> rfl
    rw [hsame]
    rfl
  | onMessage msg =>
    cases msg with
    | leaseAssigned leaseId d leaseToken unit => simp [assigns] at h
    | leaseRelease leaseId d reason =>
      refine (credentials_cleared).trans ?_
      cases hh : p.agent.isHeadless <;> simp [clears, credentials]
    | _ => rfl
  | _ => rfl

theorem run_credentials (es : List AgentEvent) (p : AgentProcess) (h : es.any assigns = false) :
    credentials (run (step hash) es p).agent =
      if es.any clears && !p.agent.isHeadless then none else credentials p.agent := by
  induction es generalizing p with
  | nil => rfl
  | cons e es ih =>
    rw [List.any_cons, Bool.or_eq_false_iff] at h
    rw [run, ih _ h.2, step_mode, step_credentials hash e p h.1, List.any_cons]
    cases clears e <;> cases p.agent.isHeadless <;> simp

theorem run_hold_none (es : List AgentEvent) (h : es.any assigns = false) :
    run hold es none = none := by
  induction es with
  | nil => rfl
  | cons e es ih =>
    rw [List.any_cons, Bool.or_eq_false_iff] at h
    have hnone : hold e none = none := by
      cases e with
      | onMessage msg =>
        cases msg with
        | leaseAssigned => simp [assigns] at h
        | _ => rfl
      | _ => rfl
    rw [run, hnone]
    exact ih h.2

theorem hold_unassigned (e : AgentEvent) (leaseId : Uuid) (leaseToken : String)
    (h : assigns e = false) :
    hold e (some (leaseId,leaseToken)) =
      if releases leaseId e then none else some (leaseId,leaseToken) := by
  cases e with
  | onMessage msg =>
    cases msg with
    | leaseAssigned => simp [assigns] at h
    | leaseRelease id d reason =>
      by_cases hid : id = leaseId
      · simp [hold, releases, hid]
      · simp [hold, releases, hid, Ne.symm hid]
    | _ => rfl
  | _ => rfl

theorem run_hold (es : List AgentEvent) (leaseId : Uuid) (leaseToken : String)
    (h : es.any assigns = false) :
    run hold es (some (leaseId,leaseToken)) =
      if es.any (releases leaseId) then none else some (leaseId,leaseToken) := by
  induction es with
  | nil => rfl
  | cons e es ih =>
    rw [List.any_cons, Bool.or_eq_false_iff] at h
    rw [run, hold_unassigned e leaseId leaseToken h.1, List.any_cons]
    cases releases leaseId e with
    | true => exact run_hold_none es h.2
    | false => exact ih h.2

theorem releases_clears {leaseId : Uuid} {es : List AgentEvent}
    (h : es.any (releases leaseId) = true) : es.any clears = true := by
  obtain ⟨e, he, hr⟩ := List.any_eq_true.mp h
  refine List.any_eq_true.mpr ⟨e,he,?_⟩
  cases e with
  | onMessage msg =>
    cases msg with
    | leaseRelease => rfl
    | _ => cases hr
  | _ => cases hr

/-- Either no lease has been assigned, or there is a last one. -/
theorem last_assignment (es : List AgentEvent) :
    es.any assigns = false ∨ ∃ before leaseId d leaseToken unit after,
      es = before ++ .onMessage (.leaseAssigned leaseId d leaseToken unit) :: after ∧
      after.any assigns = false := by
  induction es with
  | nil => exact Or.inl rfl
  | cons e es ih =>
    rcases ih with hnone | ⟨before, leaseId, d, leaseToken, unit, after, rfl, hafter⟩
    · cases he : assigns e with
      | false => exact Or.inl (by simp [he, hnone])
      | true =>
        right
        cases e with
        | onMessage msg =>
          cases msg with
          | leaseAssigned leaseId d leaseToken unit =>
            exact ⟨[],leaseId,d,leaseToken,unit,es,rfl,hnone⟩
          | _ => cases he
        | _ => cases he
    · exact Or.inr ⟨e::before,leaseId,d,leaseToken,unit,after,rfl,hafter⟩

theorem credentials_eq_some (a : NodeAgent) (digest : String) :
    credentials a = some digest ↔ a.connectable = true ∧ a.connectPasswordHash = digest := by
  cases h : a.connectable <;> simp [credentials, h]

variable {hash : String → String}

/-- A password that a request can bring. -/
def bringing (password : String) : StreamedSettings :=
  ⟨none,none,none,none,none,some 0,none,none,some password,none,none,none,none,none⟩

/-- With digests of tokens only, the check follows the lease exactly when the
stored digest does. -/
theorem passwordFollows_iff (hinj : Function.Injective hash) {a : NodeAgent}
    {held : Option (Uuid × String)}
    (htoken : ∀ digest, credentials a = some digest → ∃ leaseToken, digest = hash leaseToken) :
    PasswordFollows hash a held ↔ credentials a = held.map (fun l => hash l.2) := by
  have hpass (settings : StreamedSettings) (password : String)
      (hp : settings.connectPassword = some password) (hs : settings.screenId.isSome) :
      startStreaming hash a settings = .passed ↔ credentials a = some (hash password) := by
    rw [startStreaming_passed_iff, credentials_eq_some]
    simp [hp, hs]
  constructor
  · intro h
    cases held with
    | none =>
      cases hc : credentials a with
      | none => rfl
      | some digest =>
        obtain ⟨leaseToken, rfl⟩ := htoken digest hc
        obtain ⟨_, hheld⟩ := (h (bringing leaseToken) leaseToken rfl rfl).mp
          ((hpass _ leaseToken rfl rfl).mpr hc)
        cases hheld
    | some l =>
      exact (hpass _ l.2 rfl rfl).mp ((h (bringing l.2) l.2 rfl rfl).mpr ⟨l.1,rfl⟩)
  · intro h settings password hp hs
    rw [hpass settings password hp hs, h]
    cases held with
    | none => simp
    | some l =>
      obtain ⟨leaseId, leaseToken⟩ := l
      simp only [Option.map_some, Option.some.injEq, Prod.mk.injEq, exists_eq_left']
      exact hinj.eq_iff

theorem run_mode (es : List AgentEvent) (p : AgentProcess) :
    (run (step hash) es p).agent.isHeadless = p.agent.isHeadless := by
  induction es generalizing p with
  | nil => rfl
  | cons e es ih => rw [run, ih, step_mode]

/-- From an assignment on, digest and lease are decided by what follows it. -/
theorem passwordFollows_after (hinj : Function.Injective hash) (before after : List AgentEvent)
    (leaseId : Uuid) (d leaseToken : String) (unit : BillingUnit) (p : AgentProcess)
    (hafter : after.any assigns = false) :
    PasswordFollows hash
        (run (step hash)
          (before ++ .onMessage (.leaseAssigned leaseId d leaseToken unit) :: after) p).agent
        (run hold (before ++ .onMessage (.leaseAssigned leaseId d leaseToken unit) :: after) none) ↔
      Tolerated p.agent.isHeadless leaseId after := by
  have hcred := run_credentials hash after
    (step hash (.onMessage (.leaseAssigned leaseId d leaseToken unit))
      (run (step hash) before p)) hafter
  rw [step_mode, run_mode] at hcred
  have hnew : credentials (step hash (.onMessage (.leaseAssigned leaseId d leaseToken unit))
      (run (step hash) before p)).agent = some (hash leaseToken) := rfl
  rw [hnew] at hcred
  rw [run_append, run_append, run, run, passwordFollows_iff hinj, hcred]
  · have hheld : hold (.onMessage (.leaseAssigned leaseId d leaseToken unit))
        (run hold before none) = some (leaseId,leaseToken) := rfl
    rw [hheld, run_hold after leaseId leaseToken hafter]
    have hsub := @releases_clears leaseId after
    unfold Tolerated
    cases hr : after.any (releases leaseId) with
    | true => cases p.agent.isHeadless <;> simp [hsub hr]
    | false => cases p.agent.isHeadless <;> cases after.any clears <;> simp
  · intro digest hdigest
    rw [hcred] at hdigest
    split at hdigest
    · cases hdigest
    · exact ⟨leaseToken,(Option.some.inj hdigest).symm⟩

end Reading

/-- The check accepts exactly the token of the held lease, for the sequences
of events in which the last lease assigned has lost its credentials exactly
when it has been released. -/
theorem password_follows_iff {hash : String → String} (hinj : Function.Injective hash)
    (isHeadless enabled : Bool) (stored : String) (es : List AgentEvent) :
    PasswordFollows hash (run (step hash) es (start isHeadless enabled false stored)).agent
        (run hold es none) ↔
      ∀ before leaseId d leaseToken unit after,
        es = before ++ .onMessage (.leaseAssigned leaseId d leaseToken unit) :: after →
        after.any assigns = false → Tolerated isHeadless leaseId after := by
  rcases last_assignment es with hnone |
    ⟨before, leaseId, d, leaseToken, unit, after, rfl, hafter⟩
  · have hcred : credentials (run (step hash) es (start isHeadless enabled false stored)).agent =
        none := by
      rw [run_credentials hash es _ hnone]
      cases es.any clears <;> cases isHeadless <;> rfl
    rw [passwordFollows_iff hinj (by simp [hcred]), hcred, run_hold_none es hnone]
    refine iff_of_true rfl ?_
    rintro before leaseId d leaseToken unit after rfl -
    simp [assigns] at hnone
  · constructor
    · intro h before' leaseId' d' leaseToken' unit' after' heq hafter'
      rw [heq] at h
      exact (passwordFollows_after hinj before' after' leaseId' d' leaseToken' unit' _ hafter').mp h
    · intro h
      exact (passwordFollows_after hinj before after leaseId d leaseToken unit _ hafter).mpr
        (h before leaseId d leaseToken unit after rfl hafter)

/-- A customer comes, streams and is released. -/
def releasedRun : List AgentEvent := [.init,.onOpen,assigned 1 "t1",released 1]

theorem gui_revokes :
    PasswordFollows digest (run (step digest) releasedRun (start false true false "")).agent
      (run hold releasedRun none) := by
  refine (password_follows_iff (Equiv.swap _ _).injective false true "" releasedRun).mpr ?_
  intro before leaseId d leaseToken unit after heq _
  rcases before with _ | ⟨_, _ | ⟨_, _ | ⟨_, _ | ⟨_, _⟩⟩⟩⟩ <;>
    simp [releasedRun, assigned, released] at heq
  obtain ⟨-, -, ⟨rfl, -⟩, rfl⟩ := heq
  exact Or.inl (by decide)

/-- A headless node goes on accepting the token. -/
theorem headless_keeps_token :
    run hold releasedRun none = none ∧
    startStreaming digest (run (step digest) releasedRun (start true true false "")).agent
      (bringing "t1") = .passed ∧
    ¬PasswordFollows digest (run (step digest) releasedRun (start true true false "")).agent
      (run hold releasedRun none) := by
  refine ⟨rfl,by decide,fun h => ?_⟩
  obtain ⟨_, hheld⟩ := (h (bringing "t1") "t1" rfl rfl).mp (by decide)
  cases hheld

end CloudPlay.TokenRevocation
