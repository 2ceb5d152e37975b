import CloudPlay.TransitionRun
import CloudPlay.VirtualControls

/-!
# The manager of the on-screen controls

The list of controls with the counter of their ids, and the preferences: the
controls and the counter as they were last saved, and the named configurations,
each with its own controls and counter. Every write to the preferences is
completed, but a text that cannot be encoded is not written. A restart forgets the
manager and loads the controls.
-/

set_option autoImplicit false

namespace CloudPlay.ControlManager
open VirtualControls

section Numbers

def decimalDigit (c : Char) : Option ℕ := if c.isDigit then some (c.toNat - '0'.toNat) else none

def hexDigit (c : Char) : Option ℕ :=
  if c.isDigit then some (c.toNat - '0'.toNat)
  else if 'a' ≤ c ∧ c ≤ 'f' then some (c.toNat - 'a'.toNat+10)
  else if 'A' ≤ c ∧ c ≤ 'F' then some (c.toNat - 'A'.toNat+10)
  else none

def magnitude (base : ℕ) (digit : Char → Option ℕ) (cs : List Char) : Option ℕ :=
  if cs = [] then none
  else cs.foldlM (fun sofar c => (digit c).map (fun d => base*sofar+d)) 0

def unsigned : List Char → Option ℕ
  | '0' :: 'x' :: cs => magnitude 16 hexDigit cs
  | '0' :: 'X' :: cs => magnitude 16 hexDigit cs
  | cs => magnitude 10 decimalDigit cs

def signed : List Char → Option ℤ
  | '-'::cs => (unsigned cs).map (fun n => -(n : ℤ))
  | '+'::cs => (unsigned cs).map (fun n => (n : ℤ))
  | cs => (unsigned cs).map (fun n => (n : ℤ))

def trim (cs : List Char) : List Char :=
  ((cs.dropWhile Char.isWhitespace).reverse.dropWhile Char.isWhitespace).reverse

/-- `int.tryParse`, with integers of any size. -/
def tryParse (s : String) : Option ℤ := signed (trim s.toList)

end Numbers

structure Manager where
  controls : List Control := []
  nextId : ℤ := 1
  currentConfigName : String := "默认配置"
  deriving DecidableEq

structure Preferences where
  controls : Option JsonText := none
  nextControlId : Option ℤ := none
  controlConfigs : Option JsonText := none

structure App where
  manager : Manager := {}
  prefs : Preferences := {}

/-- What a control is created from; the modes of a mouse mode button may be
missing. -/
inductive Draft
  | joystick (joystickType : JoystickType)
  | eightDirectionJoystick
  | wasdJoystick (keys : WasdKeys)
  | button (keys : ButtonKeys)
  | mouseModeButton (enabledModes : List MouseMode)

/-- The constructor throws when there is no mode to start in. -/
def Draft.build : Draft → Option Detail
  | .joystick t => some (.joystick t)
  | .eightDirectionJoystick => some .eightDirectionJoystick
  | .wasdJoystick k => some (.wasdJoystick k)
  | .button k => some (.button k)
  | .mouseModeButton modes => (EnabledModes.of? modes).map Detail.mouseModeButton

/-- The named arguments of `updateControl`. -/
structure ControlUpdate where
  centerX : Option Double := none
  centerY : Option Double := none
  size : Option Double := none
  label : Option String := none
  keyCode : Option ℤ := none
  color : Option Color := none
  opacity : Option Double := none
  joystickType : Option JoystickType := none
  isGamepadButton : Option Bool := none
  isMouseButton : Option Bool := none
  enabledModes : Option (List MouseMode) := none
  shape : Option ButtonShape := none
  keyMapping : Option (List (String × ℤ)) := none
  enableLongPull : Option Bool := none
  isFpsFireButton : Option Bool := none
  isToggleMode : Option Bool := none
  sneakKeyCode : Option ℤ := none
  sprintKeyCode : Option ℤ := none
  sneakThreshold : Option Double := none
  sprintThreshold : Option Double := none
  enableArcadeMode : Option Bool := none
  arcadeThreshold : Option Double := none

def ControlUpdate.detail (u : ControlUpdate) : Detail → Option Detail
  | .joystick t => some (.joystick (u.joystickType.getD t))
  | .eightDirectionJoystick => some .eightDirectionJoystick
  | .wasdJoystick k => some (.wasdJoystick {
      keyMapping := u.keyMapping.getD k.keyMapping
      enableLongPull := u.enableLongPull.getD k.enableLongPull
      sneakKeyCode := u.sneakKeyCode <|> k.sneakKeyCode
      sprintKeyCode := u.sprintKeyCode <|> k.sprintKeyCode
      sneakThreshold := u.sneakThreshold.getD k.sneakThreshold
      sprintThreshold := u.sprintThreshold.getD k.sprintThreshold
      enableArcadeMode := u.enableArcadeMode.getD k.enableArcadeMode
      arcadeThreshold := u.arcadeThreshold.getD k.arcadeThreshold })
  | .button k => some (.button {
      label := u.label.getD k.label
      keyCode := u.keyCode.getD k.keyCode
      isGamepadButton := u.isGamepadButton.getD k.isGamepadButton
      isMouseButton := u.isMouseButton.getD k.isMouseButton
      shape := u.shape.getD k.shape
      isFpsFireButton := u.isFpsFireButton.getD k.isFpsFireButton
      isToggleMode := u.isToggleMode.getD k.isToggleMode })
  | .mouseModeButton e =>
    (EnabledModes.of? (u.enabledModes.getD e.modes)).map Detail.mouseModeButton

/-- The new control keeps the id. -/
def ControlUpdate.apply (u : ControlUpdate) (c : Control) : Option Control :=
  (u.detail c.detail).map fun detail => {
    id := c.id
    centerX := u.centerX.getD c.centerX
    centerY := u.centerY.getD c.centerY
    size := u.size.getD c.size
    color := u.color.getD c.color
    opacity := u.opacity.getD c.opacity
    detail := detail }

/-- The control an import makes of a decoded one, type by type. -/
def reissued (c : Control) (id : String) : Control where
  id := id
  centerX := c.centerX
  centerY := c.centerY
  size := c.size
  color := c.color
  opacity := c.opacity
  detail :=
    match c.detail with
    | .joystick joystickType => .joystick joystickType
    | .eightDirectionJoystick => .eightDirectionJoystick
    | .button k => .button {
        label := k.label
        keyCode := k.keyCode
        isGamepadButton := k.isGamepadButton
        isMouseButton := k.isMouseButton
        shape := k.shape
        isFpsFireButton := k.isFpsFireButton
        isToggleMode := k.isToggleMode }
    | .mouseModeButton enabledModes => .mouseModeButton enabledModes
    | .wasdJoystick k => .wasdJoystick {
        keyMapping := k.keyMapping
        enableLongPull := k.enableLongPull
        sneakKeyCode := k.sneakKeyCode
        sprintKeyCode := k.sprintKeyCode
        sneakThreshold := k.sneakThreshold
        sprintThreshold := k.sprintThreshold
        enableArcadeMode := k.enableArcadeMode
        arcadeThreshold := k.arcadeThreshold }

def controlsList (controls : List Control) : JsonValue := .arr (controls.map Control.toMap)

/-- Throws at a double that is not finite. -/
def exportControls (controls : List Control) : Option JsonText :=
  jsonEncode (controlsList controls)

def decodeControls (text : JsonText) : Option (List Control) :=
  ((jsonDecode text).bind JsonValue.asList).bind fun maps => maps.mapM Control.fromMap

/-- The controls read before the first one that cannot be, and whether all
could. -/
def readControls : List JsonValue → List Control × Bool
  | [] => ([], true)
  | map::maps =>
    match Control.fromMap map with
    | none => ([], false)
    | some c => (c::(readControls maps).1, (readControls maps).2)

/-- `map[key] = value` -/
def setField (fields : List (String × JsonValue)) (key : String) (v : JsonValue) :
    List (String × JsonValue) :=
  if key ∈ fields.map Prod.fst then fields.map (fun e => if e.1 = key then (key, v) else e)
  else fields ++ [(key, v)]

namespace App

def withControls (a : App) (controls : List Control) : App :=
  { a with manager := { a.manager with controls := controls } }

/-- Whether the controls could be written. -/
def saveControls (a : App) : App × Bool :=
  match exportControls a.manager.controls with
  | none => (a, false)
  | some text => ({ a with prefs := { a.prefs with controls := some text } }, true)

def saveNextId (a : App) : App :=
  { a with prefs := { a.prefs with nextControlId := some a.manager.nextId } }

/-- The counter after an id was taken from it. -/
def countId (a : App) : App :=
  saveNextId { a with manager := { a.manager with nextId := a.manager.nextId+1 } }

def nextIdText (a : App) : String := toString a.manager.nextId

/-- The save is not awaited, so nobody hears when it throws. -/
def addControl (a : App) (c : Control) : App :=
  (a.withControls (a.manager.controls ++ [c])).saveControls.1

def create (a : App) (centerX centerY size : Double) (color : Color) (opacity : Double)
    (draft : Draft) : App :=
  match draft.build with
  | none => a.countId
  | some detail => a.countId.addControl
      ⟨⟨a.nextIdText,centerX,centerY,size,color,opacity⟩,detail⟩

def removeControl (a : App) (id : String) : App :=
  (a.withControls (a.manager.controls.filter (fun c => c.id ≠ id))).saveControls.1

def clearControls (a : App) : App :=
  (saveControls { a with manager := { a.manager with controls := [],
                                                     currentConfigName := "未命名配置" } }).1

def updateControl (a : App) (id : String) (u : ControlUpdate) : App :=
  match a.manager.controls.findIdx? (fun c => c.id = id) with
  | none => a
  | some index =>
    match (a.manager.controls[index]?).bind u.apply with
    | none => a
    | some c => (a.withControls (a.manager.controls.set index c)).saveControls.1

def importControl (a : App) (c : Control) : App :=
  a.countId.withControls (a.manager.controls ++ [reissued c a.nextIdText])

/-- Nothing is cleared before all controls are decoded; the save at the end may throw. -/
def importControls (a : App) (text : JsonText) : App × Bool :=
  match decodeControls text with
  | none => (a, false)
  | some newControls => (newControls.foldl importControl (a.withControls [])).saveControls

def configs (a : App) : Option (List (String × JsonValue)) :=
  (a.prefs.controlConfigs.bind jsonDecode).bind JsonValue.asMap

def withConfigs (a : App) (fields : List (String × JsonValue)) : Option App :=
  (jsonEncode (.obj fields)).map fun text =>
    { a with prefs := { a.prefs with controlConfigs := some text } }

def config (m : Manager) : JsonValue :=
  .obj [("controls", controlsList m.controls), ("nextId", .int m.nextId)]

def named (a : App) (configName : String) : App :=
  { a with manager := { a.manager with currentConfigName := configName } }

def saveConfig (a : App) (configName : String) : App :=
  match a.withConfigs (setField (a.configs.getD []) configName (config a.manager)) with
  | none => a
  | some saved => saved.named configName

/-- The controls are gone before the configuration is read. -/
def readConfig (a : App) (configName : String) (saved : JsonValue) : App × Bool :=
  match (saved.field "controls").asList with
  | none => (a.withControls [], false)
  | some maps =>
    let loaded := a.withControls (readControls maps).1
    if (readControls maps).2 then
      match (saved.field "nextId").orElse JsonValue.asInt 1 with
      | none => (loaded, false)
      | some n =>
        (named { loaded with manager := { loaded.manager with nextId := n } } configName, true)
    else (loaded, false)

def loadConfig (a : App) (configName : String) : App × Bool :=
  match a.configs.bind (List.lookup configName) with
  | none => (a, false)
  | some saved => a.readConfig configName saved

def deleteConfig (a : App) (configName : String) : App × Bool :=
  match a.configs with
  | none => (a, false)
  | some fields =>
    if (fields.lookup configName).isSome then
      match a.withConfigs (fields.filter (fun e => e.1 ≠ configName)) with
      | none => (a, false)
      | some deleted =>
        if a.manager.currentConfigName = configName then ((deleted.loadConfig "默认配置").1, true)
        else (deleted, true)
    else (a, false)

/-- The counter after it has been raised above the ids of these controls. -/
def raiseNextId (nextId : ℤ) (controls : List Control) : ℤ :=
  controls.foldl (fun next c =>
    match tryParse c.id with
    | none => next
    | some id => if next ≤ id then id+1 else next) nextId

def loadControls (a : App) : App :=
  let counted := { a with manager := { a.manager with nextId := a.prefs.nextControlId.getD 1 } }
  match (a.prefs.controls.bind jsonDecode).bind JsonValue.asList with
  | none => counted
  | some maps =>
    let loaded := counted.withControls (readControls maps).1
    if (readControls maps).2 then
      saveNextId { loaded with manager := { loaded.manager with
        nextId := raiseNextId loaded.manager.nextId loaded.manager.controls } }
    else loaded

def restart (a : App) : App := loadControls { a with manager := {} }

end App

inductive Operation
  | create (centerX centerY size : Double) (color : Color) (opacity : Double) (draft : Draft)
  | removeControl (id : String)
  | updateControl (id : String) (update : ControlUpdate)
  | clearControls
  | importControls (text : JsonText)
  | saveConfig (configName : String)
  | loadConfig (configName : String)
  | deleteConfig (configName : String)
  | restart

def step : Operation → App → App
  | .create centerX centerY size color opacity draft, a =>
    a.create centerX centerY size color opacity draft
  | .removeControl id, a => a.removeControl id
  | .updateControl id update, a => a.updateControl id update
  | .clearControls, a => a.clearControls
  | .importControls text, a => (a.importControls text).1
  | .saveConfig configName, a => a.saveConfig configName
  | .loadConfig configName, a => (a.loadConfig configName).1
  | .deleteConfig configName, a => (a.deleteConfig configName).1
  | .restart, a => a.restart

end CloudPlay.ControlManager
