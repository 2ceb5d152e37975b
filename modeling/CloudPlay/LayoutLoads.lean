import CloudPlay.ControlLayouts

/-!
# Layouts that fail to load

A load that reports a failure is to change nothing. A named configuration and the
stored controls are read into the list that has just been cleared, and stay there
as far as they could be read. An import reads everything first, but it can fail
once more when it saves: a number too large for a double is read as an infinity,
which no text can hold.
-/

set_option autoImplicit false

namespace CloudPlay.LayoutLoads
open ControlIds ControlLayouts ControlManager VirtualControls

/-- The decoding of the stored controls throws. -/
def Undecodable (a : App) : Prop :=
  ∃ text, a.prefs.controls = some text ∧
    ∀ maps, (jsonDecode text).bind JsonValue.asList = some maps → (readControls maps).2 = false

/-- What a failure leaves as it was. -/
structure Unchanged (a : App) (configName : String) (text : JsonText) : Prop where
  loadConfig : (a.loadConfig configName).2 = false → (a.loadConfig configName).1.manager = a.manager
  importControls : (a.importControls text).2 = false → (a.importControls text).1.manager = a.manager
  loadControls : Undecodable a → a.loadControls.manager.controls = a.manager.controls

/-- The controls of a configuration before the first that cannot be read. -/
def readable (saved : JsonValue) : List Control :=
  match (saved.field "controls").asList with
  | none => []
  | some maps => (readControls maps).1

/-- A configuration that can be read to its end. -/
def loads (saved : JsonValue) : Bool :=
  match (saved.field "controls").asList with
  | none => false
  | some maps =>
    (readControls maps).2 && ((saved.field "nextId").orElse JsonValue.asInt 1).isSome

/-- What is stored can be read to its end, or what can be read of it are the
controls there are, and an import holds no infinity. -/
structure Safe (a : App) (configName : String) (text : JsonText) : Prop where
  config : ∀ saved, a.configs.bind (List.lookup configName) = some saved →
    loads saved = true ∨ readable saved = a.manager.controls
  imported : ∀ newControls, decodeControls text = some newControls →
    ∀ c ∈ newControls, encodable c = true
  stored : ∀ maps, (a.prefs.controls.bind jsonDecode).bind JsonValue.asList = some maps →
    (readControls maps).2 = true ∨ (readControls maps).1 = a.manager.controls

section
variable {a : App} {configName : String} {text : JsonText}

theorem readConfig_result (a : App) (configName : String) (saved : JsonValue) :
    (a.readConfig configName saved).2 = loads saved ∧
      (loads saved = false → (a.readConfig configName saved).1 = a.withControls (readable saved)) := by
  unfold App.readConfig loads readable
  cases (saved.field "controls").asList with
  | none => exact ⟨rfl,fun _ => rfl⟩
  | some maps =>
    cases hread : (readControls maps).2 with
    | false => simp [hread]
    | true => cases (saved.field "nextId").orElse JsonValue.asInt 1 <;> simp [hread]

theorem withControls_manager (controls : List Control) :
    (a.withControls controls).manager = a.manager ↔ controls = a.manager.controls := by
  constructor
  · intro h
    exact congrArg Manager.controls h
  · rintro rfl
    rfl

theorem loadConfig_unchanged : ((a.loadConfig configName).2 = false →
      (a.loadConfig configName).1.manager = a.manager) ↔
    ∀ saved, a.configs.bind (List.lookup configName) = some saved →
      loads saved = true ∨ readable saved = a.manager.controls := by
  unfold App.loadConfig
  cases a.configs.bind (List.lookup configName) with
  | none => simp
  | some saved =>
    obtain ⟨hresult, hfailed⟩ := readConfig_result a configName saved
    simp only [Option.some.injEq, forall_eq', hresult]
    cases hloads : loads saved with
    | false => simp [hfailed hloads, withControls_manager]
    | true => simp

theorem import_nextId (news : List Control) (a : App) :
    (news.foldl App.importControl a).manager.nextId = a.manager.nextId+news.length := by
  induction news generalizing a with
  | nil => simp
  | cons c news ih =>
    have hcount : (a.importControl c).manager.nextId = a.manager.nextId+1 := rfl
    rw [List.foldl_cons, ih, hcount, List.length_cons]
    push_cast
    omega

theorem importControls_unchanged : ((a.importControls text).2 = false →
      (a.importControls text).1.manager = a.manager) ↔
    ∀ newControls, decodeControls text = some newControls →
      ∀ c ∈ newControls, encodable c = true := by
  unfold App.importControls
  cases decodeControls text with
  | none => simp
  | some news =>
    have hfit : (news.foldl App.importControl (a.withControls [])).manager.controls.all encodable =
        news.all encodable := by
      rw [import_encodable]
      rfl
    simp only [Option.some.injEq, forall_eq', saveControls_written, saveControls_manager, hfit,
      ← List.all_eq_true]
    cases hall : news.all encodable with
    | true => simp
    | false =>
      -- some control was imported, so the counter has moved
      have hne : news ≠ [] := by
        rintro rfl
        cases hall
      have hpos := List.length_pos_of_ne_nil hne
      have hcount := import_nextId news (a.withControls [])
      simp only [Bool.false_eq_true, iff_false]
      intro h
      rw [h trivial] at hcount
      have hkept : (a.withControls []).manager.nextId = a.manager.nextId := rfl
      omega

theorem loadControls_failed {maps : List JsonValue}
    (hmaps : (a.prefs.controls.bind jsonDecode).bind JsonValue.asList = some maps)
    (hread : (readControls maps).2 = false) :
    a.loadControls.manager.controls = (readControls maps).1 := by
  simp [App.loadControls, hmaps, hread, App.withControls]

theorem loadControls_unread
    (hmaps : (a.prefs.controls.bind jsonDecode).bind JsonValue.asList = none) :
    a.loadControls.manager.controls = a.manager.controls := by
  simp [App.loadControls, hmaps]

theorem loadControls_unchanged :
    (Undecodable a → a.loadControls.manager.controls = a.manager.controls) ↔
    ∀ maps, (a.prefs.controls.bind jsonDecode).bind JsonValue.asList = some maps →
      (readControls maps).2 = true ∨ (readControls maps).1 = a.manager.controls := by
  cases hmaps : (a.prefs.controls.bind jsonDecode).bind JsonValue.asList with
  | none => exact iff_of_true (fun _ => loadControls_unread hmaps) (fun _ h => nomatch h)
  | some maps =>
    obtain ⟨value, hvalue, hlist⟩ := Option.bind_eq_some_iff.mp hmaps
    obtain ⟨text, htext, hdecoded⟩ := Option.bind_eq_some_iff.mp hvalue
    have hundecodable : Undecodable a ↔ (readControls maps).2 = false := by
      constructor
      · rintro ⟨text', htext', h⟩
        rw [htext] at htext'
        cases htext'
        exact h maps (by rw [hdecoded]; exact hlist)
      · intro h
        refine ⟨text,htext,fun maps' hmaps' => ?_⟩
        rw [hdecoded, Option.bind_some, hlist] at hmaps'
        cases hmaps'
        exact h
    rw [hundecodable]
    simp only [Option.some.injEq, forall_eq']
    cases hread : (readControls maps).2 with
    | true => simp
    | false => simp [loadControls_failed hmaps hread]

end

/-- A load that fails changes nothing exactly when the failure comes before the first
control or finds the controls there are, and an import holds no infinity. -/
theorem failed_loads_unchanged (a : App) (configName : String) (text : JsonText) :
    Unchanged a configName text ↔ Safe a configName text := by
  constructor
  · rintro ⟨hload, himport, hstored⟩
    exact ⟨loadConfig_unchanged.mp hload,importControls_unchanged.mp himport,
      loadControls_unchanged.mp hstored⟩
  · rintro ⟨hload, himport, hstored⟩
    exact ⟨loadConfig_unchanged.mpr hload,importControls_unchanged.mpr himport,
      loadControls_unchanged.mpr hstored⟩

/-- A layout of one joystick, and a stored configuration whose first control is a
number. -/
def damaged : App where
  manager := {
    controls := [⟨⟨"1",.finite (1/2),.finite (1/2),.finite (1/10),grey,.finite (3/10)⟩,
      .joystick .left⟩]
    nextId := 2 }
  prefs := {controlConfigs := some ⟨some (.obj [("fps", .obj [("controls", .arr [.int 5])])])⟩}

theorem joystick_lost : (damaged.loadConfig "fps").2 = false ∧
    (damaged.loadConfig "fps").1.manager ≠ damaged.manager := by
  decide +kernel

end CloudPlay.LayoutLoads
