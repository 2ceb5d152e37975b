import CloudPlay.NodeAgentService

/-!
# What a start of streaming asks of the machine

The platform calls of `StreamedManager.startStreaming`, each with the answer
it gets. `none` is a call that throws. `createVirtualDisplay` never counts its
tries, so it waits for as long as the new display refuses its resolution.
-/

set_option autoImplicit false

namespace CloudPlay.HostDisplays
open NodeAgentService ControlPlaneSerializers

abbrev ConnectionId := String

abbrev ScreenId := ℤ

abbrev DisplayId := ℤ

def vdisplayOccupy : ℤ := 1

def vdsiplayExtend : ℤ := 2

def isVirtualDisplayMode (settings : StreamedSettings) : Bool :=
  settings.streamMode = some vdisplayOccupy ∨ settings.streamMode = some vdsiplayExtend

/-- The application and its platform while one start runs. `sources i` is the
number of screens the i-th call of `getSources` lists, `multiDisplayMode i`
whether the i-th reading and setting of the mode works. -/
structure Host where
  agent : NodeAgent
  thisDevice : Option ConnectionId
  websocketSessionid : Option ConnectionId
  isWeb : Bool := false
  isWindows : Bool := true
  screenCount : ℤ := 1
  getAllDisplays : Option ℤ := some 1
  initParsecVdd : Option Bool := some true
  getCustomDisplayConfigs : Option (List (ℤ × ℤ)) := some []
  setCustomDisplayConfigs : List (ℤ × ℤ) → Option Bool := fun _ => some true
  createDisplay : Option DisplayId := some 0
  refreshDisplays : Bool := true
  changeDisplaySettings : List (Option Bool) := [some true]
  removeDisplay : Option Bool := some true
  defaultCapture : Bool := true
  sources : ℕ → Option ℕ := fun _ => some 1
  multiDisplayMode : ℕ → Bool := fun _ => true
  setPrimaryDisplayOnly : Bool := true
  getDisplayMedia : Bool := true
  addCursorPositionUpdated : Bool := true

/-- The loop over `changeDisplaySettings`; `none` once the answers so far are
used up and the loop goes on. -/
def settle : List (Option Bool) → Option Bool
  | [] => none
  | some true::_ => some true
  | some false::answers => settle answers
  | none::_ => some false

/-- How `_createVirtualDisplay` ends, with the display it made on the way. -/
inductive Created where
  | display (d : DisplayId)
  | null (made : Option DisplayId)
  | waiting (d : DisplayId)
  deriving DecidableEq, Repr

inductive Wait where
  | listed (calls : ℕ) (n : ℕ)
  | timedOut
  | failed
  deriving DecidableEq, Repr

/-- How the capture of a screen ends. An exclusive start captures screen 0
whatever screen it was asked for. -/
inductive Capture where
  | stream (screenId : ScreenId)
  | timedOut
  | failed
  deriving DecidableEq, Repr

namespace Host
variable (host : Host)

/-- The driver is there and knows the resolution. -/
def vddReady (width height : ℤ) : Bool :=
  if host.initParsecVdd ≠ some true then false
  else match host.getCustomDisplayConfigs with
    | none => false
    | some configs =>
      if (width,height) ∈ configs then true
      else
        let configs := if configs.length > 4 then configs.tail else configs
        host.setCustomDisplayConfigs (configs ++ [(width,height)]) = some true

def createVirtualDisplay (width height : ℤ) : Created :=
  if host.vddReady width height then
    match host.createDisplay with
    | none => .null none
    | some d =>
      if 0 ≤ d then
        if host.refreshDisplays then
          match settle host.changeDisplaySettings with
          | none => .waiting d
          | some true => .display d
          | some false => .null (some d)
        else .null (some d)
      else .null none
  else .null none

/-- Windows has no display in the default mode. -/
def lacksDisplay : Bool :=
  host.isWindows ∧ host.getAllDisplays.getD host.screenCount ≤ 0

def wantsDisplay (settings : StreamedSettings) : Bool :=
  isVirtualDisplayMode settings ∨ host.lacksDisplay

def displayFor (settings : StreamedSettings) : Created :=
  host.createVirtualDisplay (settings.customScreenWidth.getD 1920)
    (settings.customScreenHeight.getD 1080)

/-- The wait until screen `k` is listed, with ten more calls. -/
def waitForSources (k : ScreenId) : ℕ → ℕ → ℕ → Wait
  | calls, n, left =>
    if (n : ℤ) ≤ k then
      if host.multiDisplayMode calls then
        match left with
        | 0 => .timedOut
        | left+1 =>
          match host.sources (calls+1) with
          | none => .failed
          | some n => waitForSources k (calls+1) n left
      else .failed
    else .listed calls n

/-- The wait until only one screen is left. -/
def waitForPrimary : ℕ → ℕ → ℕ → Option ℕ
  | calls, n, left =>
    if n = 1 then some n
    else match left with
      | 0 => none
      | left+1 =>
        match host.sources (calls+1) with
        | none => none
        | some n => waitForPrimary (calls+1) n left

/-- The new display becomes the only one; the number of screens then. -/
def makePrimary (calls : ℕ) (primary : Option DisplayId) : Option ℕ :=
  match host.sources (calls+1) with
  | none => none
  | some n =>
    if n = 1 then some n
    else if primary.isSome ∧ host.setPrimaryDisplayOnly then host.waitForPrimary (calls+1) n 10
    else none

def captureSource (k : ScreenId) (n : ℕ) : Capture :=
  if n = 0 ∨ k < 0 ∨ (n : ℤ) ≤ k then .failed
  else if host.getDisplayMedia then .stream k
  else .failed

/-- A screen that is not captured yet. `primary` is `virtualDisplayIds[0]`. -/
def capture (settings : StreamedSettings) (k : ScreenId) (primary : Option DisplayId) : Capture :=
  if host.isWeb then
    if host.getDisplayMedia then .stream k else .failed
  else if ¬ isVirtualDisplayMode settings ∧ k = 0 ∧ host.defaultCapture then .stream k
  else match host.sources 0 with
    | none => .failed
    | some n =>
      if isVirtualDisplayMode settings then
        match host.waitForSources k 0 n 10 with
        | .timedOut => .timedOut
        | .failed => .failed
        | .listed calls n =>
          if settings.streamMode = some vdisplayOccupy then
            match host.makePrimary calls primary with
            | none => .failed
            | some n => host.captureSource 0 n
          else host.captureSource k n
      else host.captureSource k n

/-- `acceptRequest` takes the settings before its first `await`. -/
def accepts (device : ConnectionId) (settings : StreamedSettings) : Bool :=
  some device = host.websocketSessionid ∧
    (settings.syncMousePosition = some true → host.isWindows → host.addCursorPositionUpdated)

end Host

section
variable {host : Host} {settings : StreamedSettings} {k : ScreenId} {primary : Option DisplayId}

theorem captureSource_ne_timedOut (n : ℕ) : host.captureSource k n ≠ .timedOut := by
  unfold Host.captureSource
  split
  · exact Capture.noConfusion
  · split <;> exact Capture.noConfusion

/-- Only a start that made a display waits for it. -/
theorem capture_timedOut (h : host.capture settings k primary = .timedOut) :
    isVirtualDisplayMode settings = true := by
  by_contra hmode
  unfold Host.capture at h
  split at h
  · split at h <;> cases h
  · split at h
    · cases h
    · split at h
      · cases h
      · exact captureSource_ne_timedOut _ h

end

end CloudPlay.HostDisplays
