import CloudPlay.ControlPlaneConsumer
import CloudPlay.NodeAgentService

/-!
# The settings of a stream on their way to the node

`StreamingSettings.toJson` leaves out what is null, the server converts the
fields it knows to the types the agent casts to, and the agent fills in what
it lacks before `StreamedSettings.fromJson` reads it. Every step but the last
is a map on the fields, so all of them are compared by what a lookup finds.
-/

set_option autoImplicit false

namespace CloudPlay.RequestSettings
open ControlPlaneModels ControlPlaneSerializers ControlPlaneConsumer NodeAgentService

/-- The settings of the app that a request carries. -/
structure StreamingSettings where
  framerate : Option ℤ := none
  bitrate : Option ℤ := none
  audioBitrate : Option ℤ := none
  showRemoteCursor : Option Bool := none
  streamAudio : Option Bool := none
  targetScreenId : Option ℤ := none
  codec : Option String := none
  hookCursorImage : Option Bool := none
  connectPassword : Option String := none
  useClipBoard : Bool := true
  syncMousePosition : Bool := false
  streamMode : ℤ := 0
  customScreenWidth : ℤ := 1920
  customScreenHeight : ℤ := 1080

/-- `data.removeWhere((key, value) => value == null)`. -/
def removeNulls (data : List (String × Option Json)) : Fields :=
  data.filterMap (fun f => f.2.map (f.1,·))

def StreamingSettings.data (s : StreamingSettings) : List (String × Option Json) :=
  [("framerate",s.framerate.map .int),("bitrate",s.bitrate.map .int),
    ("audioBitrate",s.audioBitrate.map .int),("showRemoteCursor",s.showRemoteCursor.map .bool),
    ("streamAudio",s.streamAudio.map .bool),("targetScreenId",s.targetScreenId.map .int),
    ("codec",s.codec.map .str),("hookCursorImage",s.hookCursorImage.map .bool),
    ("connectPassword",s.connectPassword.map .str),("useClipBoard",some (.bool s.useClipBoard)),
    ("syncMousePosition",some (.bool s.syncMousePosition)),("streamMode",some (.int s.streamMode)),
    ("customScreenWidth",some (.int s.customScreenWidth)),
    ("customScreenHeight",some (.int s.customScreenHeight))]

def StreamingSettings.toJson (s : StreamingSettings) : Fields := removeNulls s.data

/-- The settings the host reads when nothing is converted or filled in. -/
def StreamingSettings.streamed (s : StreamingSettings) : StreamedSettings where
  framerate := s.framerate
  bitrate := s.bitrate
  audioBitrate := s.audioBitrate
  showRemoteCursor := s.showRemoteCursor
  streamAudio := s.streamAudio
  screenId := s.targetScreenId
  codec := s.codec
  hookCursorImage := s.hookCursorImage
  connectPassword := s.connectPassword
  useClipBoard := some s.useClipBoard
  syncMousePosition := some s.syncMousePosition
  streamMode := some s.streamMode
  customScreenWidth := some s.customScreenWidth
  customScreenHeight := some s.customScreenHeight

/-- A lookup finds the same in both. -/
def Alike (fields fields' : Fields) : Prop := ∀ name, getField fields name = getField fields' name

section Lookup
variable {fields fields' : Fields} {name : String}

theorem getField_removeNulls (data : List (String × Option Json))
    (h : (data.map Prod.fst).Nodup) (name : String) :
    getField (removeNulls data) name = (data.find? (fun f => f.1 = name)).bind Prod.snd := by
  induction data with
  | nil => rfl
  | cons f data ih =>
    obtain ⟨key, value⟩ := f
    rw [List.map_cons, List.nodup_cons] at h
    have hrest := ih h.2
    by_cases hk : key = name
    · cases value with
      | some v => simp [removeNulls, getField, hk]
      | none =>
        have hnone : data.find? (fun f => f.1 = name) = none := by
          simp only [List.find?_eq_none, decide_eq_true_eq]
          exact fun f hf hn => h.1 (List.mem_map.mpr ⟨f,hf,hn.trans hk.symm⟩)
        rw [hnone] at hrest
        simpa [removeNulls, hk] using hrest
    · cases value with
      | some v => simpa [removeNulls, getField, hk] using hrest
      | none => simpa [removeNulls, hk] using hrest

theorem data_nodup (s : StreamingSettings) : (s.data.map Prod.fst).Nodup := by
  have hkeys : s.data.map Prod.fst = ({} : StreamingSettings).data.map Prod.fst := rfl
  rw [hkeys]
  decide

/-- Every entry of the data is found under its name. -/
theorem getField_toJson (s : StreamingSettings) : ∀ f ∈ s.data, getField s.toJson f.1 = f.2 := by
  intro f hf
  obtain ⟨q, hq⟩ : ∃ q, s.data.find? (fun q => q.1 = f.1) = some q :=
    Option.isSome_iff_exists.mp (List.find?_isSome.mpr ⟨f,hf,by simp⟩)
  have hname : q.1 = f.1 := by simpa using List.find?_some hq
  have hsame : q = f :=
    List.inj_on_of_nodup_map (data_nodup s) (List.mem_of_find?_eq_some hq) hf hname
  rw [StreamingSettings.toJson, getField_removeNulls s.data (data_nodup s), hq, hsame]
  rfl

theorem toJson_password (s : StreamingSettings) :
    getField s.toJson "connectPassword" = s.connectPassword.map .str :=
  getField_toJson s ("connectPassword",s.connectPassword.map .str)
    (by simp [StreamingSettings.data])

theorem toJson_screen (s : StreamingSettings) :
    getField s.toJson "targetScreenId" = s.targetScreenId.map .int :=
  getField_toJson s ("targetScreenId",s.targetScreenId.map .int) (by simp [StreamingSettings.data])

/-- What is read of the fields depends on lookups alone. -/
theorem fromJson_congr (h : Alike fields fields') :
    StreamedSettings.fromJson fields = StreamedSettings.fromJson fields' := by
  have hcast {α : Type} (cast : Json → Option α) (name : String) :
      nullable cast fields name = nullable cast fields' name := by
    rw [nullable, nullable, h name]
  simp only [StreamedSettings.fromJson, hcast]

theorem nullable_map {α : Type} {cast : Json → Option α} {value : Option α} {f : α → Json}
    (hfield : getField fields name = value.map f) (hcast : ∀ v, cast (f v) = some v)
    (hnull : ∀ v, f v ≠ .null) : nullable cast fields name = some value := by
  unfold nullable
  rw [hfield]
  cases value with
  | none => rfl
  | some v =>
    simp only [Option.map_some]
    split
    · simp_all
    · rename_i heq
      exact absurd (Option.some.inj heq) (hnull v)
    · rename_i heq
      rw [← Option.some.inj heq, hcast]
      rfl

theorem fromJson_toJson (s : StreamingSettings) :
    StreamedSettings.fromJson s.toJson = some s.streamed := by
  have hint {name : String} {value : Option ℤ} (h : getField s.toJson name = value.map .int) :
      nullable asInt s.toJson name = some value :=
    nullable_map h (fun _ => rfl) (by simp)
  have hbool {name : String} {value : Option Bool}
      (h : getField s.toJson name = value.map .bool) :
      nullable asBool s.toJson name = some value :=
    nullable_map h (fun _ => rfl) (by simp)
  have hstr {name : String} {value : Option String}
      (h : getField s.toJson name = value.map .str) :
      nullable asString s.toJson name = some value :=
    nullable_map h (fun _ => rfl) (by simp)
  have hfields := getField_toJson s
  simp only [StreamingSettings.data, List.forall_mem_cons] at hfields
  obtain ⟨hframerate, hbitrate, haudio, hcursor, hstream, hscreen, hcodec, hhook, hpassword, hclip,
    hsync, hmode, hwidth, hheight, -⟩ := hfields
  have hclip : nullable asBool s.toJson "useClipBoard" = some (some s.useClipBoard) := hbool hclip
  have hsync : nullable asBool s.toJson "syncMousePosition" = some (some s.syncMousePosition) :=
    hbool hsync
  have hmode : nullable asInt s.toJson "streamMode" = some (some s.streamMode) := hint hmode
  have hwidth : nullable asInt s.toJson "customScreenWidth" = some (some s.customScreenWidth) :=
    hint hwidth
  have hheight : nullable asInt s.toJson "customScreenHeight" =
      some (some s.customScreenHeight) := hint hheight
  simp only [StreamedSettings.fromJson, hint hframerate, hint hbitrate, hint haudio, hbool hcursor,
    hbool hstream, hint hscreen, hstr hcodec, hbool hhook, hstr hpassword, hclip, hsync, hmode,
    hwidth, hheight]
  rfl

end Lookup

section Sanitizing
variable {fields fields' : Fields}

theorem Alike.trans {fields'' : Fields} (h : Alike fields fields') (h' : Alike fields' fields'') :
    Alike fields fields'' := fun name => (h name).trans (h' name)

/-- Writing what is there changes no lookup. -/
theorem setField_alike {name : String} {value : Json} (h : getField fields name = some value) :
    Alike (setField fields name value) fields := by
  intro other
  by_cases ho : other = name
  · rw [ho, getField_setField_self, h]
  · exact getField_setField_ne fields value ho

theorem setField_congr (h : Alike fields fields') (name : String) (value : Json) :
    Alike (setField fields name value) (setField fields' name value) := by
  intro other
  by_cases ho : other = name
  · rw [ho, getField_setField_self, getField_setField_self]
  · rw [getField_setField_ne fields value ho, getField_setField_ne fields' value ho, h]

/-- A field that is an integer or null, if it is there at all. -/
def Whole (fields : Fields) (name : String) : Prop :=
  ∀ value ∈ getField fields name, value = .null ∨ ∃ n, value = .int n

theorem intField_alike {name : String} (h : Whole fields name) :
    Alike (intField fields name) fields := by
  unfold intField
  split
  · exact fun _ => rfl
  · exact fun _ => rfl
  · rename_i value hnull hget
    rcases h value hget with rfl | ⟨n, rfl⟩
    · exact absurd rfl hnull
    · exact setField_alike hget

theorem intFields_alike (names : List String) (h : ∀ name ∈ names, Whole fields name) :
    Alike (names.foldl intField fields) fields := by
  induction names generalizing fields with
  | nil => exact fun _ => rfl
  | cons name names ih =>
    have hfirst := intField_alike (h name List.mem_cons_self)
    refine (ih fun other ho => ?_).trans hfirst
    rw [Whole, hfirst other]
    exact h other (List.mem_cons_of_mem _ ho)

theorem toJson_whole (s : StreamingSettings) : ∀ name ∈ intFields, Whole s.toJson name := by
  have hwhole {name : String} {value : Option ℤ} (h : getField s.toJson name = value.map .int) :
      Whole s.toJson name := by
    intro v hv
    rw [h, Option.mem_def, Option.map_eq_some_iff] at hv
    obtain ⟨n, -, rfl⟩ := hv
    exact Or.inr ⟨n,rfl⟩
  have hfields := getField_toJson s
  simp only [StreamingSettings.data, List.forall_mem_cons] at hfields
  obtain ⟨hframerate, hbitrate, haudio, -, -, hscreen, -, -, -, -, -, hmode, hwidth, hheight, -⟩ :=
    hfields
  intro name hname
  simp only [intFields, List.mem_cons, List.not_mem_nil, or_false] at hname
  rcases hname with rfl | rfl | rfl | rfl | rfl | rfl | rfl
  · exact @hwhole _ (some s.streamMode) hmode
  · exact hwhole hframerate
  · exact hwhole hbitrate
  · exact hwhole haudio
  · exact hwhole hscreen
  · exact @hwhole _ (some s.customScreenWidth) hwidth
  · exact @hwhole _ (some s.customScreenHeight) hheight

/-- What the app sends passes through the server as it is. -/
theorem sanitize_toJson (s : StreamingSettings) : Alike (sanitizeSettings s.toJson) s.toJson := by
  have hints {fields : Fields} (h : Alike fields s.toJson) :
      Alike (intFields.foldl intField fields) s.toJson := by
    refine (intFields_alike intFields fun name hname => ?_).trans h
    rw [Whole, h name]
    exact toJson_whole s name hname
  have hpassword := toJson_password s
  unfold sanitizeSettings
  cases hp : s.connectPassword with
  | none =>
    rw [hp, Option.map_none] at hpassword
    rw [hpassword]
    exact hints fun _ => rfl
  | some password =>
    rw [hp, Option.map_some] at hpassword
    rw [hpassword]
    exact hints (setField_alike hpassword)

end Sanitizing

section Filling
variable {fields : Fields} {s : StreamingSettings}

/-- The password a request has after the agent has seen it. -/
def passwordAfter (a : NodeAgent) (password : Option String) : Option String :=
  if password.getD "" = "" ∧ a.activeLeaseToken.isSome ∧ a.enabled then
    some (a.activeLeaseToken.getD "")
  else password

/-- Writing one of the settings as the app itself would have sent it. -/
theorem setField_toJson {s s' : StreamingSettings} {name : String} {value : Json}
    (hself : getField s'.toJson name = some value)
    (hothers : ∀ other ≠ name, getField s'.toJson other = getField s.toJson other) :
    Alike (setField s.toJson name value) s'.toJson := by
  intro other
  by_cases ho : other = name
  · rw [ho, getField_setField_self, hself]
  · rw [getField_setField_ne s.toJson value ho, hothers other ho]

theorem password_alike (s : StreamingSettings) (password : String) :
    Alike (setField s.toJson "connectPassword" (.str password))
      { s with connectPassword := some password }.toJson := by
  refine setField_toJson (toJson_password { s with connectPassword := some password })
    fun other ho => ?_
  rw [StreamingSettings.toJson, StreamingSettings.toJson, getField_removeNulls _ (data_nodup _),
    getField_removeNulls _ (data_nodup _)]
  simp [StreamingSettings.data, List.find?_cons, Ne.symm ho]

theorem screen_alike (s : StreamingSettings) (screen : ℤ) :
    Alike (setField s.toJson "targetScreenId" (.int screen))
      { s with targetScreenId := some screen }.toJson := by
  refine setField_toJson (toJson_screen { s with targetScreenId := some screen })
    fun other ho => ?_
  rw [StreamingSettings.toJson, StreamingSettings.toJson, getField_removeNulls _ (data_nodup _),
    getField_removeNulls _ (data_nodup _)]
  simp [StreamingSettings.data, List.find?_cons, Ne.symm ho]

/-- The agent fills in the password as if the app had sent it. -/
theorem fillPassword_toJson (a : NodeAgent) {fields : Fields} (h : Alike fields s.toJson) :
    Alike (a.fillPassword fields)
      { s with connectPassword := passwordAfter a s.connectPassword }.toJson := by
  have hblank : blankPassword fields = decide (s.connectPassword.getD "" = "") := by
    rw [blankPassword, h, toJson_password]
    cases s.connectPassword <;> simp
  by_cases hfill : a.fillsIn fields = true
  · have hafter : passwordAfter a s.connectPassword = some (a.activeLeaseToken.getD "") := by
      rw [NodeAgent.fillsIn, hblank, Bool.and_eq_true, Bool.and_eq_true, decide_eq_true_eq] at hfill
      rw [passwordAfter, if_pos ⟨hfill.1.1,hfill.1.2,hfill.2⟩]
    rw [NodeAgent.fillPassword, if_pos hfill, hafter]
    exact (setField_congr h _ _).trans (password_alike s _)
  · have hafter : passwordAfter a s.connectPassword = s.connectPassword := by
      rw [NodeAgent.fillsIn, hblank, Bool.and_eq_true, Bool.and_eq_true, decide_eq_true_eq] at hfill
      rw [passwordAfter, if_neg fun hc => hfill ⟨⟨hc.1,hc.2.1⟩,hc.2.2⟩]
    rw [NodeAgent.fillPassword, if_neg hfill, hafter]
    exact h

theorem defaultScreen_toJson {fields : Fields} (h : Alike fields s.toJson) :
    Alike (defaultScreen fields)
      { s with targetScreenId := some (s.targetScreenId.getD 0) }.toJson := by
  have hscreen := (h "targetScreenId").trans (toJson_screen s)
  unfold defaultScreen
  cases hs : s.targetScreenId with
  | none =>
    rw [hs] at hscreen
    simp only [hscreen, Option.map_none]
    exact (setField_congr h _ _).trans (screen_alike s 0)
  | some screen =>
    rw [hs] at hscreen
    simp only [hscreen, Option.map_some]
    have hsame : { s with targetScreenId := some screen } = s := by rw [← hs]
    rw [Option.getD_some, hsame]
    exact h

end Filling

/-- What the host streams with, by what the app has set. A missing screen is the
first, and a blank password is the token of the active lease, if there is one. -/
def StreamingSettings.arrived (s : StreamingSettings) (a : NodeAgent) : StreamedSettings :=
  { s.streamed with
    screenId := some (s.targetScreenId.getD 0)
    connectPassword := passwordAfter a s.connectPassword }

theorem fromJson_arrived (a : NodeAgent) (s : StreamingSettings) :
    StreamedSettings.fromJson (defaultScreen (a.fillPassword (sanitizeSettings s.toJson))) =
      some (s.arrived a) := by
  have hfilled := fillPassword_toJson a (sanitize_toJson s)
  rw [fromJson_congr (defaultScreen_toJson hfilled), fromJson_toJson]
  rfl

theorem onMessage_request (hash : String → String) (a : NodeAgent) (info : RequesterInfo)
    (settings : Fields) :
    (a.onMessage hash (.remoteSessionRequested info settings)).call =
      (StreamedSettings.fromJson (defaultScreen (a.fillPassword settings))).map
        (fun arrived => ⟨info,arrived⟩) := rfl

/-- The app's settings reach `startStreaming` of the node as they were set. -/
theorem settings_arrive (hash : String → String) (a : NodeAgent) (m : ConnectionMeta)
    (deviceId : String) (s : StreamingSettings) :
    (a.onMessage hash (forwardRequest m deviceId s.toJson).message).call =
      some ⟨requesterInfo m,s.arrived a⟩ := by
  rw [forwardRequest, onMessage_request, fromJson_arrived, Option.map_some]

end CloudPlay.RequestSettings
