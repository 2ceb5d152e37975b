import Mathlib.Data.BitVec
import Mathlib.Data.Rat.Defs

/-!
# The controls of the on-screen gamepad

Five types of controls with what they have in common and what is their own, and
their maps as JSON. A cast of a decoded value to another type fails, a missing
field is null. A text is given by what it decodes to: `jsonDecode` inverts `jsonEncode`,
which throws at a double that is not finite.
-/

set_option autoImplicit false

namespace CloudPlay.VirtualControls

/-- A double, exact where it is finite. -/
inductive Double
  | finite (d : ℚ)
  | infinite (negative : Bool)
  | nan
  deriving DecidableEq

def Double.isFinite : Double → Bool
  | .finite _ => true
  | _ => false

inductive JsonValue where
  | null
  | bool (b : Bool)
  | int (n : ℤ)
  | double (d : Double)
  | str (s : String)
  | arr (items : List JsonValue)
  | obj (fields : List (String × JsonValue))

/-- A text, by the value it decodes to if it is JSON. -/
structure JsonText where
  decoded : Option JsonValue

mutual

def JsonValue.encodable : JsonValue → Bool
  | .double d => d.isFinite
  | .arr items => itemsEncodable items
  | .obj fields => fieldsEncodable fields
  | _ => true

def itemsEncodable : List JsonValue → Bool
  | [] => true
  | v::vs => v.encodable && itemsEncodable vs

def fieldsEncodable : List (String × JsonValue) → Bool
  | [] => true
  | e::es => fieldEncodable e && fieldsEncodable es

def fieldEncodable : String × JsonValue → Bool
  | (_, v) => v.encodable

end

def jsonEncode (v : JsonValue) : Option JsonText := if v.encodable then some ⟨some v⟩ else none

def jsonDecode (t : JsonText) : Option JsonValue := t.decoded

namespace JsonValue

/-- `map[key]` -/
def field : JsonValue → String → JsonValue
  | .obj fields, key => (fields.lookup key).getD .null
  | _, _ => .null

def asBool : JsonValue → Option Bool
  | .bool b => some b
  | _ => none

def asInt : JsonValue → Option ℤ
  | .int n => some n
  | _ => none

def asDouble : JsonValue → Option Double
  | .double d => some d
  | _ => none

/-- `(v as num).toDouble()` -/
def numToDouble : JsonValue → Option Double
  | .int n => some (.finite n)
  | .double d => some d
  | _ => none

def asString : JsonValue → Option String
  | .str s => some s
  | _ => none

def asList : JsonValue → Option (List JsonValue)
  | .arr items => some items
  | _ => none

def asMap : JsonValue → Option (List (String × JsonValue))
  | .obj fields => some fields
  | _ => none

/-- A cast to a type or null. -/
def nullable {α : Type} (cast : JsonValue → Option α) : JsonValue → Option (Option α)
  | .null => some none
  | v => (cast v).map some

/-- A cast with `??` and a default. -/
def orElse {α : Type} (cast : JsonValue → Option α) (default : α) : JsonValue → Option α
  | .null => some default
  | v => cast v

end JsonValue

/-- A color by its 32 bits. -/
abbrev Color := BitVec 32

def Color.ofValue (n : ℤ) : Color := BitVec.ofInt 32 n

def Color.value (c : Color) : ℤ := c.toNat

def grey : Color := 0xFF9E9E9E

def blue : Color := 0xFF2196F3

def green : Color := 0xFF4CAF50

inductive JoystickType
  | left | right
  deriving DecidableEq

def JoystickType.toStringValue : JoystickType → String
  | .left => "left"
  | .right => "right"

def JoystickType.ofString (value : String) : JoystickType :=
  ([.left, .right] : List JoystickType).find? (fun e => e.toStringValue == value) |>.getD .left

inductive MouseMode
  | leftClick | rightClick | move
  deriving DecidableEq

def MouseMode.toStringValue : MouseMode → String
  | .leftClick => "MouseMode.leftClick"
  | .rightClick => "MouseMode.rightClick"
  | .move => "MouseMode.move"

/-- An unknown mode is taken for the first one. -/
def MouseMode.ofJson (m : JsonValue) : MouseMode :=
  ([.leftClick, .rightClick, .move] : List MouseMode).find?
    (fun e => m.asString == some e.toStringValue) |>.getD .leftClick

inductive ButtonShape
  | circle | square
  deriving DecidableEq

/-- The modes of a mouse mode button, which starts in the first one. -/
structure EnabledModes where
  modes : List MouseMode
  nonempty : modes ≠ []
  deriving DecidableEq

def EnabledModes.of? (modes : List MouseMode) : Option EnabledModes :=
  if h : modes ≠ [] then some ⟨modes,h⟩ else none

structure WasdKeys where
  keyMapping : List (String × ℤ)
  enableLongPull : Bool
  sneakKeyCode : Option ℤ
  sprintKeyCode : Option ℤ
  sneakThreshold : Double
  sprintThreshold : Double
  enableArcadeMode : Bool
  arcadeThreshold : Double
  deriving DecidableEq

structure ButtonKeys where
  label : String
  keyCode : ℤ
  isGamepadButton : Bool
  isMouseButton : Bool
  shape : ButtonShape
  isFpsFireButton : Bool
  isToggleMode : Bool
  deriving DecidableEq

/-- The fields of one type of control. -/
inductive Detail
  | joystick (joystickType : JoystickType)
  | eightDirectionJoystick
  | wasdJoystick (keys : WasdKeys)
  | button (keys : ButtonKeys)
  | mouseModeButton (enabledModes : EnabledModes)
  deriving DecidableEq

structure ControlBase where
  id : String
  centerX : Double
  centerY : Double
  size : Double
  color : Color
  opacity : Double
  deriving DecidableEq

structure Control extends ControlBase where
  detail : Detail
  deriving DecidableEq

section
open JsonValue

/-- The fields every control writes, around those of its type. -/
def ControlBase.toMap (b : ControlBase) (type : String) (own : List (String × JsonValue)) :
    JsonValue :=
  .obj ([("id", .str b.id), ("type", .str type), ("centerX", .double b.centerX),
    ("centerY", .double b.centerY), ("size", .double b.size), ("color", .int b.color.value),
    ("opacity", .double b.opacity)] ++ own)

def optionalInt : Option ℤ → JsonValue
  | none => .null
  | some n => .int n

def WasdKeys.toFields (k : WasdKeys) : List (String × JsonValue) :=
  [("keyMapping", .obj (k.keyMapping.map (fun e => (e.1, .int e.2)))),
    ("enableLongPull", .bool k.enableLongPull),
    ("sneakKeyCode", optionalInt k.sneakKeyCode),
    ("sprintKeyCode", optionalInt k.sprintKeyCode),
    ("sneakThreshold", .double k.sneakThreshold),
    ("sprintThreshold", .double k.sprintThreshold),
    ("enableArcadeMode", .bool k.enableArcadeMode),
    ("arcadeThreshold", .double k.arcadeThreshold)]

def ButtonKeys.toFields (k : ButtonKeys) : List (String × JsonValue) :=
  [("label", .str k.label), ("keyCode", .int k.keyCode),
    ("isGamepadButton", .bool k.isGamepadButton), ("isMouseButton", .bool k.isMouseButton),
    ("shape", .str (if k.shape = .square then "square" else "circle")),
    ("isFpsFireButton", .bool k.isFpsFireButton), ("isToggleMode", .bool k.isToggleMode)]

def Control.toMap (c : Control) : JsonValue :=
  match c.detail with
  | .joystick t => c.toControlBase.toMap "joystick" [("joystickType", .str t.toStringValue)]
  | .eightDirectionJoystick => c.toControlBase.toMap "eightDirectionJoystick" []
  | .wasdJoystick k => c.toControlBase.toMap "wasdJoystick" k.toFields
  | .button k => c.toControlBase.toMap "button" k.toFields
  | .mouseModeButton e => c.toControlBase.toMap "mouseModeButton"
      [("enabledModes", .arr (e.modes.map (fun m => .str m.toStringValue)))]

/-- The fields every control reads; the types differ in the defaults. -/
def ControlBase.fromMap (map : JsonValue) (color : Color) (opacity : Double) :
    Option ControlBase := do
  let id ← (map.field "id").asString
  let centerX ← (map.field "centerX").asDouble
  let centerY ← (map.field "centerY").asDouble
  let size ← (map.field "size").asDouble
  let color ← (map.field "color").orElse asInt color.value
  let opacity ← (map.field "opacity").orElse asDouble opacity
  return ⟨id,centerX,centerY,size,Color.ofValue color,opacity⟩

def JoystickControl.fromMap (map : JsonValue) : Option Control := do
  let base ← ControlBase.fromMap map grey (.finite (3/10))
  let joystickType ← (map.field "joystickType").orElse asString "left"
  return ⟨base,.joystick (JoystickType.ofString joystickType)⟩

def EightDirectionJoystickControl.fromMap (map : JsonValue) : Option Control := do
  let base ← ControlBase.fromMap map blue (.finite (3/10))
  return ⟨base,.eightDirectionJoystick⟩

def keyMappingOf (fields : List (String × JsonValue)) : Option (List (String × ℤ)) :=
  fields.mapM (fun e => e.2.asInt.map (fun n => (e.1, n)))

def WasdKeys.fromMap (map : JsonValue) : Option WasdKeys := do
  let keyMappingData ← (map.field "keyMapping").orElse asMap []
  let keyMapping ← keyMappingOf keyMappingData
  let enableLongPull ← (map.field "enableLongPull").orElse asBool false
  let sneakKeyCode ← (map.field "sneakKeyCode").nullable asInt
  let sprintKeyCode ← (map.field "sprintKeyCode").nullable asInt
  let sneakThreshold ← (map.field "sneakThreshold").orElse numToDouble (.finite (3/10))
  let sprintThreshold ← (map.field "sprintThreshold").orElse numToDouble (.finite (8/10))
  let enableArcadeMode ← (map.field "enableArcadeMode").orElse asBool false
  let arcadeThreshold ← (map.field "arcadeThreshold").orElse numToDouble (.finite (5/10))
  return ⟨keyMapping,enableLongPull,sneakKeyCode,sprintKeyCode,sneakThreshold,sprintThreshold,
    enableArcadeMode,arcadeThreshold⟩

def WASDJoystickControl.fromMap (map : JsonValue) : Option Control := do
  let keys ← WasdKeys.fromMap map
  let base ← ControlBase.fromMap map green (.finite (3/10))
  return ⟨base,.wasdJoystick keys⟩

def ButtonKeys.fromMap (map : JsonValue) : Option ButtonKeys := do
  let label ← (map.field "label").orElse asString "Button"
  let keyCode ← (map.field "keyCode").orElse asInt 0
  let isGamepadButton ← (map.field "isGamepadButton").orElse asBool false
  let isMouseButton ← (map.field "isMouseButton").orElse asBool false
  let shape := if (map.field "shape").asString = some "square" then ButtonShape.square else .circle
  let isFpsFireButton ← (map.field "isFpsFireButton").orElse asBool false
  let isToggleMode ← (map.field "isToggleMode").orElse asBool false
  return ⟨label,keyCode,isGamepadButton,isMouseButton,shape,isFpsFireButton,isToggleMode⟩

def ButtonControl.fromMap (map : JsonValue) : Option Control := do
  let base ← ControlBase.fromMap map blue (.finite (4/10))
  let keys ← ButtonKeys.fromMap map
  return ⟨base,.button keys⟩

def MouseModeButtonControl.fromMap (map : JsonValue) : Option Control := do
  let base ← ControlBase.fromMap map blue (.finite (5/10))
  let modes ← (map.field "enabledModes").asList
  let enabledModes ← EnabledModes.of? (modes.map MouseMode.ofJson)
  return ⟨base,.mouseModeButton enabledModes⟩

def Control.fromMap (map : JsonValue) : Option Control :=
  match (map.field "type").asString with
  | some "joystick" => JoystickControl.fromMap map
  | some "eightDirectionJoystick" => EightDirectionJoystickControl.fromMap map
  | some "wasdJoystick" => WASDJoystickControl.fromMap map
  | some "button" => ButtonControl.fromMap map
  | some "mouseModeButton" => MouseModeButtonControl.fromMap map
  | _ => none

end

section RoundTrips

theorem color_value (c : Color) : Color.ofValue c.value = c := by
  simp [Color.ofValue, Color.value]

theorem joystickType_text (t : JoystickType) : JoystickType.ofString t.toStringValue = t := by
  cases t <;> rfl

theorem mouseMode_text (m : MouseMode) : MouseMode.ofJson (.str m.toStringValue) = m := by
  cases m <;> rfl

theorem enabledModes_of (e : EnabledModes) : EnabledModes.of? e.modes = some e := dif_pos e.nonempty

theorem modes_text (modes : List MouseMode) :
    (modes.map (fun m => JsonValue.str m.toStringValue)).map MouseMode.ofJson = modes := by
  rw [List.map_map]
  conv_rhs => rw [← List.map_id modes]
  apply List.map_congr_left
  intro m _
  exact mouseMode_text m

theorem keyMapping_fields (entries : List (String × ℤ)) :
    keyMappingOf (entries.map (fun e => (e.1, .int e.2))) = some entries := by
  induction entries with
  | nil => rfl
  | cons e es ih =>
    unfold keyMappingOf at ih ⊢
    rw [List.map_cons, List.mapM_cons, ih]
    rfl

theorem optionalInt_nullable (n : Option ℤ) :
    (optionalInt n).nullable JsonValue.asInt = some n := by
  cases n <;> rfl

/-- What a control writes of the fields all controls have it reads again, with
any defaults. -/
theorem base_round_trip (b : ControlBase) (type : String) (own : List (String × JsonValue))
    (color : Color) (opacity : Double) :
    ControlBase.fromMap (b.toMap type own) color opacity = some b := by
  have hcolor : Color.ofValue b.color.value = b.color := color_value b.color
  simp [ControlBase.fromMap, ControlBase.toMap, JsonValue.field, JsonValue.asString,
    JsonValue.asDouble, JsonValue.asInt, JsonValue.orElse, List.lookup_cons, hcolor]

theorem wasdKeys_round_trip (b : ControlBase) (type : String) (k : WasdKeys) :
    WasdKeys.fromMap (b.toMap type k.toFields) = some k := by
  have hkeys := keyMapping_fields k.keyMapping
  have hsneak := optionalInt_nullable k.sneakKeyCode
  have hsprint := optionalInt_nullable k.sprintKeyCode
  simp [WasdKeys.fromMap, ControlBase.toMap, WasdKeys.toFields, JsonValue.field, List.lookup_cons,
    JsonValue.orElse, JsonValue.asMap, JsonValue.asBool, JsonValue.numToDouble, hkeys, hsneak,
    hsprint]

theorem buttonKeys_round_trip (b : ControlBase) (type : String) (k : ButtonKeys) :
    ButtonKeys.fromMap (b.toMap type k.toFields) = some k := by
  obtain ⟨label, keyCode, isGamepadButton, isMouseButton, shape, isFpsFireButton, isToggleMode⟩ := k
  cases shape with
  | circle => rfl
  | square => rfl

/-- What a control writes of itself it reads again. -/
theorem fromMap_toMap (c : Control) : Control.fromMap c.toMap = some c := by
  obtain ⟨b, detail⟩ := c
  cases detail with
  | joystick t =>
    show JoystickControl.fromMap (b.toMap "joystick" _) = _
    simp only [JoystickControl.fromMap, base_round_trip]
    show some (Control.mk b (.joystick (JoystickType.ofString t.toStringValue))) = _
    rw [joystickType_text]
  | eightDirectionJoystick =>
    show EightDirectionJoystickControl.fromMap (b.toMap "eightDirectionJoystick" _) = _
    simp only [EightDirectionJoystickControl.fromMap, base_round_trip]
    rfl
  | wasdJoystick k =>
    show WASDJoystickControl.fromMap (b.toMap "wasdJoystick" _) = _
    simp only [WASDJoystickControl.fromMap, base_round_trip, wasdKeys_round_trip]
    rfl
  | button k =>
    show ButtonControl.fromMap (b.toMap "button" _) = _
    simp only [ButtonControl.fromMap, base_round_trip, buttonKeys_round_trip]
    rfl
  | mouseModeButton e =>
    show MouseModeButtonControl.fromMap (b.toMap "mouseModeButton" _) = _
    simp only [MouseModeButtonControl.fromMap, base_round_trip]
    show (EnabledModes.of? ((e.modes.map (fun m => JsonValue.str m.toStringValue)).map
      MouseMode.ofJson)).bind (fun e => some (Control.mk b (.mouseModeButton e))) = _
    rw [modes_text, enabledModes_of]
    rfl

end RoundTrips

end CloudPlay.VirtualControls
