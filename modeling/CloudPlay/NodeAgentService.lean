import CloudPlay.ControlPlaneSerializers

/-!
# The agent of a pool node

`node_agent_service.dart` and the checks at the head of
`StreamedManager.startStreaming`. The agent adopts the token of an assigned
lease as its password and fills it into requests that bring none. A headless
agent keeps its credentials on every path that clears them in a GUI. Digests
of passwords come from a hash function that is a parameter here.
-/

set_option autoImplicit false

namespace CloudPlay.NodeAgentService
open ControlPlaneModels ControlPlaneSerializers

/-- The agent's own fields with `ApplicationInfo.connectable`,
`StreamingSettings.connectPasswordHash` and the two switches of its
configuration, as they stand when it starts. -/
structure NodeAgent where
  isHeadless : Bool
  enabled : Bool
  activeLeaseId : Option Uuid := none
  activeLeaseToken : Option String := none
  connectable : Bool := false
  connectPasswordHash : String := ""
  deriving DecidableEq, Repr

structure StreamedSettings where
  framerate : Option ℤ
  bitrate : Option ℤ
  audioBitrate : Option ℤ
  showRemoteCursor : Option Bool
  streamAudio : Option Bool
  screenId : Option ℤ
  codec : Option String
  hookCursorImage : Option Bool
  connectPassword : Option String
  useClipBoard : Option Bool
  syncMousePosition : Option Bool
  streamMode : Option ℤ
  customScreenWidth : Option ℤ
  customScreenHeight : Option ℤ
  deriving DecidableEq, Repr

/-- A cast to a nullable type; `none` is a cast that fails. -/
def nullable {α : Type*} (cast : Json → Option α) (settings : Fields) (name : String) :
    Option (Option α) :=
  match getField settings name with
  | none => some none
  | some .null => some none
  | some value => (cast value).map some

def StreamedSettings.fromJson (settings : Fields) : Option StreamedSettings := do
  return {
    framerate := ← nullable asInt settings "framerate"
    bitrate := ← nullable asInt settings "bitrate"
    audioBitrate := ← nullable asInt settings "audioBitrate"
    showRemoteCursor := ← nullable asBool settings "showRemoteCursor"
    streamAudio := ← nullable asBool settings "streamAudio"
    screenId := ← nullable asInt settings "targetScreenId"
    codec := ← nullable asString settings "codec"
    hookCursorImage := ← nullable asBool settings "hookCursorImage"
    connectPassword := ← nullable asString settings "connectPassword"
    useClipBoard := ← nullable asBool settings "useClipBoard"
    syncMousePosition := ← nullable asBool settings "syncMousePosition"
    streamMode := ← nullable asInt settings "streamMode"
    customScreenWidth := ← nullable asInt settings "customScreenWidth"
    customScreenHeight := ← nullable asInt settings "customScreenHeight" }

/-- A password that is null or the empty string. -/
def blankPassword (settings : Fields) : Bool :=
  match getField settings "connectPassword" with
  | none => true
  | some .null => true
  | some (.str s) => s = ""
  | some _ => false

/-- The condition of the branch that takes the active lease's token. -/
def NodeAgent.fillsIn (a : NodeAgent) (settings : Fields) : Bool :=
  blankPassword settings && a.activeLeaseToken.isSome && a.enabled

def NodeAgent.fillPassword (a : NodeAgent) (settings : Fields) : Fields :=
  if a.fillsIn settings then
    setField settings "connectPassword" (.str (a.activeLeaseToken.getD ""))
  else settings

/-- `settings['targetScreenId'] ??= 0`. -/
def defaultScreen (settings : Fields) : Fields :=
  match getField settings "targetScreenId" with
  | none => setField settings "targetScreenId" (.int 0)
  | some .null => setField settings "targetScreenId" (.int 0)
  | some _ => settings

/-- A call of `startStreaming` on behalf of a requester. -/
structure StreamCall where
  target : RequesterInfo
  settings : StreamedSettings
  deriving DecidableEq, Repr

structure Outcome where
  agent : NodeAgent
  leaseReady : Option Uuid := none
  call : Option StreamCall := none

section Hashing
variable (hash : String → String)

def NodeAgent.applyLeaseCredentials (a : NodeAgent) (leaseToken : String) : NodeAgent :=
  { a with connectPasswordHash := hash leaseToken, connectable := true }

def NodeAgent.clearLeaseState (a : NodeAgent) : NodeAgent :=
  { a with connectPasswordHash := "", connectable := false }

/-- The guard around every `_clearLeaseState`. -/
def NodeAgent.clearUnlessHeadless (a : NodeAgent) : NodeAgent :=
  if a.isHeadless then a else a.clearLeaseState

/-- `onMessage`. A cast that fails inside a request is caught there, and the
request is dropped. -/
def NodeAgent.onMessage (a : NodeAgent) : Message → Outcome
  | .leaseAssigned leaseId _ leaseToken _ =>
    let a := { a with activeLeaseId := some leaseId, activeLeaseToken := some leaseToken }
    { agent := a.applyLeaseCredentials hash leaseToken, leaseReady := some leaseId }
  | .leaseRelease leaseId _ _ =>
    let activeLeaseId := if a.activeLeaseId = some leaseId then none else a.activeLeaseId
    { agent := NodeAgent.clearUnlessHeadless
        { a with activeLeaseId := activeLeaseId, activeLeaseToken := none } }
  | .remoteSessionRequested requesterInfo settings =>
    { agent := a
      call := (StreamedSettings.fromJson (defaultScreen (a.fillPassword settings))).map
        (fun settings => ⟨requesterInfo,settings⟩) }
  | _ => { agent := a }

/-- How the checks of `startStreaming` end. -/
inductive Verdict where
  | notConnectable
  | noPassword
  | noScreen
  | passwordMismatch
  | passed
  deriving DecidableEq, Repr

def startStreaming (a : NodeAgent) (settings : StreamedSettings) : Verdict :=
  if a.connectable = false then .notConnectable
  else match settings.connectPassword with
    | none => .noPassword
    | some password =>
      if settings.screenId = none then .noScreen
      else if a.connectPasswordHash ≠ hash password then .passwordMismatch
      else .passed

theorem startStreaming_passed_iff (a : NodeAgent) (settings : StreamedSettings) :
    startStreaming hash a settings = .passed ↔
      a.connectable = true ∧ settings.screenId.isSome ∧
        ∃ password, settings.connectPassword = some password ∧
          a.connectPasswordHash = hash password := by
  cases hc : a.connectable with
  | false => simp [startStreaming, hc]
  | true =>
    cases hp : settings.connectPassword with
    | none => simp [startStreaming, hc, hp]
    | some password => cases hs : settings.screenId <;> simp [startStreaming, hc, hp, hs]

/-- The agent accepts passwords only by credentials it had before or by those
of the message. -/
theorem onMessage_credentials (a : NodeAgent) (msg : Message)
    (h : (a.onMessage hash msg).agent.connectable = true) :
    (a.connectable = true ∧
      (a.onMessage hash msg).agent.connectPasswordHash = a.connectPasswordHash) ∨
    ∃ leaseId d leaseToken unit, msg = .leaseAssigned leaseId d leaseToken unit ∧
      (a.onMessage hash msg).agent.connectPasswordHash = hash leaseToken := by
  cases msg with
  | leaseAssigned leaseId d leaseToken unit => exact Or.inr ⟨_,_,_,_,rfl,rfl⟩
  | leaseRelease leaseId d reason =>
    simp only [NodeAgent.onMessage, NodeAgent.clearUnlessHeadless] at h ⊢
    cases hh : a.isHeadless with
    | true => simpa [hh] using h
    | false => simp [hh, NodeAgent.clearLeaseState] at h
  | _ => exact Or.inl ⟨h,rfl⟩

theorem clearUnlessHeadless_credentials (a : NodeAgent)
    (h : a.clearUnlessHeadless.connectable = true) :
    a.connectable = true ∧ a.clearUnlessHeadless.connectPasswordHash = a.connectPasswordHash := by
  cases hh : a.isHeadless with
  | true => simpa [NodeAgent.clearUnlessHeadless, hh] using h
  | false => simp [NodeAgent.clearUnlessHeadless, NodeAgent.clearLeaseState, hh] at h

theorem onMessage_call {a : NodeAgent} {msg : Message} {call : StreamCall}
    (h : (a.onMessage hash msg).call = some call) :
    ∃ settings, msg = .remoteSessionRequested call.target settings ∧
      StreamedSettings.fromJson (defaultScreen (a.fillPassword settings)) =
        some call.settings := by
  cases msg with
  | remoteSessionRequested requesterInfo settings =>
    simp only [NodeAgent.onMessage, Option.map_eq_some_iff] at h
    obtain ⟨st, hst, rfl⟩ := h
    exact ⟨settings,rfl,hst⟩
  | _ => simp [NodeAgent.onMessage] at h

end Hashing

theorem getField_setField_self (fields : Fields) (name : String) (value : Json) :
    getField (setField fields name value) name = some value := by
  have hnone : (fields.filter (fun f => f.1 ≠ name)).find? (fun f => f.1 = name) = none := by
    simp
  rw [getField, setField, List.find?_append, hnone]
  simp

theorem getField_setField_ne (fields : Fields) {name other : String} (value : Json)
    (h : other ≠ name) : getField (setField fields name value) other = getField fields other := by
  have hfind : (fields.filter (fun f => f.1 ≠ name)).find? (fun f => f.1 = other) =
      fields.find? (fun f => f.1 = other) := by
    rw [List.find?_filter]
    congr
    funext f
    by_cases hf : f.1 = other
    · simp [hf, h]
    · simp [hf]
  rw [getField, setField, List.find?_append, hfind]
  simp [getField, Ne.symm h]

theorem defaultScreen_password (settings : Fields) :
    getField (defaultScreen settings) "connectPassword" = getField settings "connectPassword" := by
  unfold defaultScreen
  split
  · exact getField_setField_ne settings _ (by decide)
  · exact getField_setField_ne settings _ (by decide)
  · rfl

theorem fromJson_password {settings : Fields} {st : StreamedSettings}
    (h : StreamedSettings.fromJson settings = some st) :
    nullable asString settings "connectPassword" = some st.connectPassword := by
  obtain ⟨_, -, h⟩ := Option.bind_eq_some_iff.mp h
  obtain ⟨_, -, h⟩ := Option.bind_eq_some_iff.mp h
  obtain ⟨_, -, h⟩ := Option.bind_eq_some_iff.mp h
  obtain ⟨_, -, h⟩ := Option.bind_eq_some_iff.mp h
  obtain ⟨_, -, h⟩ := Option.bind_eq_some_iff.mp h
  obtain ⟨_, -, h⟩ := Option.bind_eq_some_iff.mp h
  obtain ⟨_, -, h⟩ := Option.bind_eq_some_iff.mp h
  obtain ⟨_, -, h⟩ := Option.bind_eq_some_iff.mp h
  obtain ⟨password, hp, h⟩ := Option.bind_eq_some_iff.mp h
  have hst : st.connectPassword = password := by
    simp only [Option.bind_eq_bind, Option.bind_eq_some_iff, Option.pure_def,
      Option.some.injEq] at h
    obtain ⟨_, -, _, -, _, -, _, -, _, -, rfl⟩ := h
    rfl
  rw [hp, hst]

theorem asString_eq_some {value : Json} {s : String} (h : asString value = some s) :
    value = .str s := by
  cases value with
  | str t => exact congrArg Json.str (Option.some.inj h)
  | _ => cases h

theorem nullable_eq_some {α : Type*} {cast : Json → Option α} {settings : Fields}
    {name : String} {v : α} (h : nullable cast settings name = some (some v)) :
    ∃ value, getField settings name = some value ∧ cast value = some v := by
  unfold nullable at h
  split at h
  · simp at h
  · simp at h
  · rename_i value _ hv
    exact ⟨value,hv,by simpa using h⟩

/-- Without the branch that fills in a token, the password checked is the one
the request brought. -/
theorem unfilled_password {a : NodeAgent} {settings : Fields} {st : StreamedSettings}
    {password : String} (hfill : a.fillsIn settings = false)
    (h : StreamedSettings.fromJson (defaultScreen (a.fillPassword settings)) = some st)
    (hp : st.connectPassword = some password) :
    getField settings "connectPassword" = some (.str password) := by
  have hcast := (fromJson_password h).trans (congrArg some hp)
  obtain ⟨value, hv, hs⟩ := nullable_eq_some hcast
  rw [defaultScreen_password, NodeAgent.fillPassword, if_neg (by simp [hfill])] at hv
  rw [hv, asString_eq_some hs]

end CloudPlay.NodeAgentService
