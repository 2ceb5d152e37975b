import CloudPlay.ControlIds

/-!
# Layouts that are exported and imported

What is imported is what was exported, control by control, under ids the counter
has just given out.
-/

set_option autoImplicit false

namespace CloudPlay.ControlLayouts
open VirtualControls ControlManager ControlIds

/-- The same type and the same fields but for the id. -/
def SameButId (c c' : Control) : Prop := c' = { c with id := c'.id }

theorem reissued_same (c : Control) (id : String) : SameButId c (reissued c id) := by
  obtain ⟨b, detail⟩ := c
  cases detail <;> rfl

theorem reissued_id (c : Control) (id : String) : (reissued c id).id = id := rfl

theorem mapM_saved (controls : List Control) :
    (controls.map Control.toMap).mapM Control.fromMap = some controls := by
  induction controls with
  | nil => rfl
  | cons c cs ih =>
    rw [List.map_cons, List.mapM_cons, fromMap_toMap, ih]
    rfl

/-- The controls an import adds to those that are there. -/
theorem import_same (news : List Control) (a : App) :
    ∃ added, (news.foldl App.importControl a).manager.controls = a.manager.controls ++ added ∧
      List.Forall₂ SameButId news added ∧
      ∀ c ∈ added, ∃ n : ℤ, c.id = toString n ∧ a.manager.nextId ≤ n := by
  induction news generalizing a with
  | nil => exact ⟨[],by simp,List.Forall₂.nil,fun c h => by cases h⟩
  | cons c cs ih =>
    obtain ⟨added, hadded, hsame, hids⟩ := ih (a.importControl c)
    have hcount : (a.importControl c).manager.nextId = a.manager.nextId+1 := rfl
    refine ⟨reissued c a.nextIdText::added,?_,?_,?_⟩
    · rw [List.foldl_cons, hadded]
      show (a.manager.controls ++ [reissued c a.nextIdText]) ++ added = _
      rw [List.append_assoc]
      rfl
    · exact List.Forall₂.cons (reissued_same c _) hsame
    · intro d hd
      rcases List.mem_cons.mp hd with rfl | hd
      · exact ⟨a.manager.nextId,reissued_id c _,le_rfl⟩
      · obtain ⟨n, hn, hle⟩ := hids d hd
        exact ⟨n,hn,by omega⟩

/-- The fields of a control that are doubles. -/
def doubles (c : Control) : List Double :=
  [c.centerX, c.centerY, c.size, c.opacity] ++
    match c.detail with
    | .wasdJoystick k => [k.sneakThreshold, k.sprintThreshold, k.arcadeThreshold]
    | _ => []

/-- `jsonEncode` throws at a double that is not finite. -/
def encodable (c : Control) : Bool := (doubles c).all Double.isFinite

section Encoding

theorem fieldsEncodable_append (es es' : List (String × JsonValue)) :
    fieldsEncodable (es ++ es') = (fieldsEncodable es && fieldsEncodable es') := by
  induction es with
  | nil => rfl
  | cons e es ih =>
    rw [List.cons_append, fieldsEncodable, fieldsEncodable, ih, Bool.and_assoc]

theorem itemsEncodable_eq (items : List JsonValue) :
    itemsEncodable items = items.all JsonValue.encodable := by
  induction items with
  | nil => rfl
  | cons v vs ih => rw [itemsEncodable, List.all_cons, ih]

theorem base_encodable (b : ControlBase) (type : String) (own : List (String × JsonValue)) :
    (b.toMap type own).encodable =
      ([b.centerX, b.centerY, b.size, b.opacity].all Double.isFinite && fieldsEncodable own) := by
  rw [ControlBase.toMap, JsonValue.encodable, fieldsEncodable_append]
  simp [fieldsEncodable, fieldEncodable, JsonValue.encodable, Bool.and_assoc]

theorem keyMapping_encodable (entries : List (String × ℤ)) :
    fieldsEncodable (entries.map fun e => (e.1, .int e.2)) = true := by
  induction entries with
  | nil => rfl
  | cons e es ih =>
    rw [List.map_cons, fieldsEncodable, ih]
    rfl

theorem optionalInt_encodable (n : Option ℤ) : (optionalInt n).encodable = true := by
  cases n <;> rfl

theorem wasd_encodable (k : WasdKeys) : fieldsEncodable k.toFields =
    [k.sneakThreshold, k.sprintThreshold, k.arcadeThreshold].all Double.isFinite := by
  simp [WasdKeys.toFields, fieldsEncodable, fieldEncodable, JsonValue.encodable,
    keyMapping_encodable, optionalInt_encodable]

theorem modes_encodable (modes : List MouseMode) :
    itemsEncodable (modes.map fun m => .str m.toStringValue) = true := by
  rw [itemsEncodable_eq, List.all_map, List.all_eq_true]
  intro m _
  rfl

/-- A control is written when all its doubles are finite. -/
theorem toMap_encodable (c : Control) : c.toMap.encodable = encodable c := by
  obtain ⟨b, detail⟩ := c
  rw [encodable, doubles, List.all_append]
  cases detail with
  | joystick t => exact base_encodable b "joystick" _
  | eightDirectionJoystick => exact base_encodable b "eightDirectionJoystick" []
  | wasdJoystick k =>
    rw [Control.toMap, base_encodable, wasd_encodable]
  | button k => exact base_encodable b "button" k.toFields
  | mouseModeButton e =>
    rw [Control.toMap, base_encodable]
    simp [fieldsEncodable, fieldEncodable, JsonValue.encodable, modes_encodable]

theorem exportControls_eq (controls : List Control) : exportControls controls =
    if controls.all encodable then some ⟨some (controlsList controls)⟩ else none := by
  have hlist : (controlsList controls).encodable = controls.all encodable := by
    rw [controlsList, JsonValue.encodable, itemsEncodable_eq, List.all_map]
    exact congrArg controls.all (funext toMap_encodable)
  rw [exportControls, jsonEncode, hlist]

theorem reissued_encodable (c : Control) (id : String) :
    encodable (reissued c id) = encodable c := by
  obtain ⟨base, detail⟩ := c
  cases detail <;> rfl

theorem import_encodable (news : List Control) (a : App) :
    (news.foldl App.importControl a).manager.controls.all encodable =
      (a.manager.controls.all encodable && news.all encodable) := by
  induction news generalizing a with
  | nil => simp
  | cons c news ih =>
    have hadded : (a.importControl c).manager.controls =
        a.manager.controls ++ [reissued c a.nextIdText] := rfl
    rw [List.foldl_cons, ih, hadded, List.all_append, List.all_cons, List.all_nil,
      reissued_encodable, List.all_cons, Bool.and_true, Bool.and_assoc]

/-- Whether a save is written. -/
theorem saveControls_written (a : App) : a.saveControls.2 = a.manager.controls.all encodable := by
  rw [App.saveControls, exportControls_eq]
  cases a.manager.controls.all encodable <;> rfl

end Encoding

/-- A button in the middle, and a joystick that an import of 1e999 has put out of reach. -/
def middle : Control :=
  ⟨⟨"7",.finite (1/2),.finite (1/2),.finite (1/10),blue,.finite (2/5)⟩,
    .button ⟨"A",65,false,false,.circle,false,false⟩⟩

def boundless : Control :=
  ⟨⟨"8",.infinite false,.finite (1/2),.finite (1/10),grey,.finite (3/10)⟩,.joystick .left⟩

end CloudPlay.ControlLayouts
