import CloudPlay.ByteViews

/-!
# Cursor messages of the host

What the host session sends when its desktop reports a cursor: the shape known
by its hash, a shape of the system, the cursor hidden, shown or moved. The codes
of the reports come from the input plugin and are a parameter. A coordinate is
the 32 bits of a float of single precision; the double that the position hook
gets is rounded by the write.
-/

set_option autoImplicit false

namespace CloudPlay.CursorMessages
open ByteViews

def LP_MOUSECURSOR_CHANGED_WITHBUFFER : ℤ := 9
def LP_MOUSECURSOR_CHANGED : ℤ := 10

inductive CursorMessage where
  | CURSOR_UPDATED_IMAGE
  | CURSOR_UPDATED_CACHED
  | CURSOR_UPDATED_DEFAULT
  | CURSOR_INVISIBLE
  | CURSOR_VISIBLE
  | CURSOR_POSITION_CHANGED
  deriving DecidableEq, Repr

structure HardwareSimulator where
  code : CursorMessage → ℤ
  injective : Function.Injective code
  int32 : ∀ message, signed 4 (code message) = code message

abbrev Coordinate := UInt32

def newByteData (n : ℕ) : List UInt8 := List.replicate n 0

/-- The hook on cursor positions that `acceptRequest` registers: what is sent. -/
def cursorPositionUpdated (sim : HardwareSimulator) (imageHooked : Bool)
    (message screenId : ℤ) (xPercent yPercent : Float) : Option (List (List UInt8)) :=
  if message = sim.code .CURSOR_POSITION_CHANGED ∧ imageHooked then do
    let byteData ← setUint8 (newByteData 17) 0 LP_MOUSECURSOR_CHANGED
    let byteData ← setInt32 byteData 1 message .big
    let byteData ← setInt32 byteData 5 screenId .big
    let byteData ← setFloat32 byteData 9 xPercent.toFloat32.toBits .little
    let byteData ← setFloat32 byteData 13 yPercent.toFloat32.toBits .little
    some [byteData]
  else some []

def onLocalCursorImageMessage (sim : HardwareSimulator) (message messageInfo : ℤ)
    (cursorImage : List UInt8) : Option (List (List UInt8)) :=
  if message = sim.code .CURSOR_UPDATED_IMAGE then some [cursorImage]
  else if message = sim.code .CURSOR_VISIBLE then do
    let byteData ← setUint8 (newByteData 17) 0 LP_MOUSECURSOR_CHANGED
    let byteData ← setInt32 byteData 1 message .big
    let byteData ← setInt32 byteData 5 messageInfo .big
    let xPercent ← getFloat32 cursorImage 0 .little
    let yPercent ← getFloat32 cursorImage 4 .little
    -- no byte order is given here, so it is the default one
    let byteData ← setFloat32 byteData 9 xPercent .big
    let byteData ← setFloat32 byteData 13 yPercent .big
    some [byteData]
  else do
    let byteData ← setUint8 (newByteData 9) 0 LP_MOUSECURSOR_CHANGED
    let byteData ← setInt32 byteData 1 message .big
    let byteData ← setInt32 byteData 5 messageInfo .big
    some [byteData]

/-- A report of the host's desktop, the raw image apart. -/
inductive CursorEvent where
  | cached (hash : ℤ)
  | shape (info : ℤ)
  | hidden (info : ℤ)
  | visible (screen : ℤ) (x y : Coordinate)
  | positionChanged (screen : ℤ) (x y : Float)

/-- The message of an event. The plugin hands the place of a cursor that appears
over as two floats in the image's bytes. -/
def encode (sim : HardwareSimulator) : CursorEvent → Option (List (List UInt8))
  | .cached hash => onLocalCursorImageMessage sim (sim.code .CURSOR_UPDATED_CACHED) hash []
  | .shape info => onLocalCursorImageMessage sim (sim.code .CURSOR_UPDATED_DEFAULT) info []
  | .hidden info => onLocalCursorImageMessage sim (sim.code .CURSOR_INVISIBLE) info []
  | .visible screen x y => onLocalCursorImageMessage sim (sim.code .CURSOR_VISIBLE) screen
      (bytesOf .little 4 x.toNat++bytesOf .little 4 y.toNat)
  | .positionChanged screen x y =>
      cursorPositionUpdated sim true (sim.code .CURSOR_POSITION_CHANGED) screen x y

/-! The messages as fields one behind the other. -/

def message (kind info : ℤ) (rest : List UInt8) : List UInt8 :=
  bytesOf .big 1 (lowBytes 1 LP_MOUSECURSOR_CHANGED)++
    (bytesOf .big 4 (lowBytes 4 kind)++(bytesOf .big 4 (lowBytes 4 info)++rest))

def place (e : Endian) (x y : Coordinate) : List UInt8 := bytesOf e 4 x.toNat++bytesOf e 4 y.toNat

section
variable (sim : HardwareSimulator) (e : Endian) (kind info : ℤ) (x y : Coordinate)

theorem short_built : (do
    let byteData ← setUint8 (newByteData 9) 0 LP_MOUSECURSOR_CHANGED
    let byteData ← setInt32 byteData 1 kind .big
    let byteData ← setInt32 byteData 5 info .big
    some [byteData]) = some [message kind info []] := rfl

theorem placed_built : (do
    let byteData ← setUint8 (newByteData 17) 0 LP_MOUSECURSOR_CHANGED
    let byteData ← setInt32 byteData 1 kind .big
    let byteData ← setInt32 byteData 5 info .big
    let byteData ← setFloat32 byteData 9 x e
    let byteData ← setFloat32 byteData 13 y e
    some [byteData]) = some [message kind info (place e x y)] := by
  cases e <;> rfl

end

section
variable (sim : HardwareSimulator)

@[simp] theorem code_inj {a b : CursorMessage} : sim.code a = sim.code b ↔ a = b :=
  sim.injective.eq_iff

def sent : CursorEvent → List UInt8
  | .cached hash => message (sim.code .CURSOR_UPDATED_CACHED) hash []
  | .shape info => message (sim.code .CURSOR_UPDATED_DEFAULT) info []
  | .hidden info => message (sim.code .CURSOR_INVISIBLE) info []
  | .visible screen x y => message (sim.code .CURSOR_VISIBLE) screen (place .big x y)
  | .positionChanged screen x y => message (sim.code .CURSOR_POSITION_CHANGED) screen
      (place .little x.toFloat32.toBits y.toFloat32.toBits)

theorem encode_visible (screen : ℤ) (x y : Coordinate) : encode sim (.visible screen x y) =
    some [sent sim (.visible screen x y)] := by
  have hx : getFloat32 (bytesOf .little 4 x.toNat++bytesOf .little 4 y.toNat) 0 .little =
      some x := by
    rw [getFloat32, read_append_left (bytesOf_length _ _ _)]
    simp
  have hy : getFloat32 (bytesOf .little 4 x.toNat++bytesOf .little 4 y.toNat) 4 .little =
      some y := by
    rw [getFloat32, read_append_right (by simp), bytesOf_length, read_self (bytesOf_length _ _ _)]
    simp
  simp only [encode, onLocalCursorImageMessage, code_inj, reduceCtorEq, if_false, if_true, hx, hy,
    Option.bind_eq_bind, Option.bind_some]
  exact placed_built .big _ _ x y

/-- Every event is one message. -/
theorem encode_eq (e : CursorEvent) : encode sim e = some [sent sim e] := by
  cases e with
  | cached hash =>
    simp only [encode, onLocalCursorImageMessage, code_inj, reduceCtorEq, if_false, short_built,
      sent]
  | shape info =>
    simp only [encode, onLocalCursorImageMessage, code_inj, reduceCtorEq, if_false, short_built,
      sent]
  | hidden info =>
    simp only [encode, onLocalCursorImageMessage, code_inj, reduceCtorEq, if_false, short_built,
      sent]
  | visible screen x y => exact encode_visible sim screen x y
  | positionChanged screen x y =>
    simp only [encode, cursorPositionUpdated, and_self, if_true]
    exact placed_built .little _ _ _ _

end

/-! What a message reads as. -/

section
variable (e e' : Endian) (kind info : ℤ) (rest : List UInt8) (x y : Coordinate)

@[simp] theorem message_tag :
    getUint8 (message kind info rest) 0 = some LP_MOUSECURSOR_CHANGED := by
  rw [getUint8, message, read_append_left (bytesOf_length _ _ _)]
  rfl

@[simp] theorem message_kind :
    getInt32 (message kind info rest) 1 .big = some (signed 4 kind) := by
  rw [getInt32, message, read_append_right (by simp), bytesOf_length,
    read_append_left (bytesOf_length _ _ _)]
  simp only [Option.map_some, signed_field]

@[simp] theorem message_info :
    getInt32 (message kind info rest) 5 .big = some (signed 4 info) := by
  rw [getInt32, message, read_append_right (by simp), bytesOf_length,
    read_append_right (by simp), bytesOf_length, read_append_left (bytesOf_length _ _ _)]
  simp only [Option.map_some, signed_field]

/-- What the bytes of a coordinate stand for in the other order, or in its own. -/
def reread (e e' : Endian) (x : Coordinate) : Coordinate :=
  UInt32.ofNat (valueOf e' (bytesOf e 4 x.toNat))

@[simp] theorem message_x :
    getFloat32 (message kind info (place e x y)) 9 e' = some (reread e e' x) := by
  rw [getFloat32, message, read_append_right (by simp), bytesOf_length,
    read_append_right (by simp), bytesOf_length, read_append_right (by simp), bytesOf_length,
    place, read_append_left (bytesOf_length _ _ _)]
  rfl

@[simp] theorem message_y :
    getFloat32 (message kind info (place e x y)) 13 e' = some (reread e e' y) := by
  rw [getFloat32, message, read_append_right (by simp), bytesOf_length,
    read_append_right (by simp), bytesOf_length, read_append_right (by simp), bytesOf_length,
    place, read_append_right (by simp), bytesOf_length, read_self (bytesOf_length _ _ _)]
  rfl

@[simp] theorem message_length :
    (message kind info (place e x y)).length = 17 := by
  simp [message, place]

@[simp] theorem reread_same : reread e e x = x := by
  simp [reread]

theorem reread_eq_iff :
    reread .big .little x = x ↔ (leBytes 4 x.toNat).reverse = leBytes 4 x.toNat := by
  rw [← little_of_big_iff 4 x.toNat x.toNat_lt, ← UInt32.toNat_inj, reread, UInt32.toNat_ofNat']
  have h : valueOf .little (bytesOf .big 4 x.toNat) < 2^32 := by
    have hv := valueOf_lt .little (bytesOf .big 4 x.toNat)
    rw [bytesOf_length] at hv
    exact hv
  rw [Nat.mod_eq_of_lt h]

end
end CloudPlay.CursorMessages
