import CloudPlay.ControlManager

/-!
# The ids of the controls

Every id is the text of a number the counter has passed. That holds of the
controls in memory, of the saved ones with the counter they were saved under,
and of each configuration with its own counter, so whatever is loaded brings a
counter that is above its ids.
-/

set_option autoImplicit false

namespace CloudPlay.ControlIds
open VirtualControls ControlManager TransitionRun

section Numbers
variable {c : Char} {cs : List Char}

theorem not_whitespace (h : c.isDigit = true) : c.isWhitespace = false := by
  apply Bool.eq_false_iff.mpr
  intro hw
  simp only [Char.isWhitespace, Bool.or_eq_true, decide_eq_true_eq] at hw
  rcases hw with ((rfl | rfl) | rfl) | rfl <;> cases h

theorem dropWhile_none {p : Char → Bool} (h : ∀ c ∈ cs, p c = false) : cs.dropWhile p = cs := by
  cases cs with
  | nil => rfl
  | cons c cs => simp [h c List.mem_cons_self]

theorem trim_plain (h : ∀ c ∈ cs, c.isWhitespace = false) : trim cs = cs := by
  have hrev : ∀ c ∈ cs.reverse, c.isWhitespace = false := fun c hc => h c (List.mem_reverse.mp hc)
  unfold trim
  rw [dropWhile_none h, dropWhile_none hrev, List.reverse_reverse]

theorem decimal_foldlM (h : ∀ c ∈ cs, c.isDigit = true) (sofar : ℕ) :
    cs.foldlM (fun sofar c => (decimalDigit c).map (fun d => 10*sofar+d)) sofar =
      some (Nat.ofDigitChars 10 cs sofar) := by
  induction cs generalizing sofar with
  | nil => rfl
  | cons c cs ih =>
    have hc : decimalDigit c = some (c.toNat - '0'.toNat) := if_pos (h c List.mem_cons_self)
    rw [List.foldlM_cons, hc, Nat.ofDigitChars_cons]
    apply ih
    intro d hd
    exact h d (List.mem_cons_of_mem c hd)

theorem unsigned_digits (h : ∀ c ∈ cs, c.isDigit = true) (hne : cs ≠ []) :
    unsigned cs = some (Nat.ofDigitChars 10 cs 0) := by
  unfold unsigned
  split
  · exact absurd (h 'x' (by simp)) (by decide)
  · exact absurd (h 'X' (by simp)) (by decide)
  · unfold magnitude
    rw [if_neg hne]
    exact decimal_foldlM h 0

theorem signed_digits (h : ∀ c ∈ cs, c.isDigit = true) (hne : cs ≠ []) :
    signed cs = some (Nat.ofDigitChars 10 cs 0 : ℤ) := by
  unfold signed
  split
  · exact absurd (h '-' (by simp)) (by decide)
  · exact absurd (h '+' (by simp)) (by decide)
  · rw [unsigned_digits h hne]
    rfl

theorem signed_minus (cs : List Char) :
    signed ('-'::cs) = (unsigned cs).map (fun n => -(n : ℤ)) := by
  simp only [signed]

theorem toDigits_digits (n : ℕ) : ∀ c ∈ Nat.toDigits 10 n, c.isDigit = true := fun _ hc =>
  Nat.isDigit_of_mem_toDigits (by decide) (by decide) hc

theorem tryParse_toString (n : ℤ) : tryParse (toString n) = some n := by
  rw [Int.toString_eq_repr, Int.repr_eq_if]
  unfold tryParse
  split
  · rw [Nat.toList_repr, trim_plain fun c hc => not_whitespace (toDigits_digits _ c hc),
      signed_digits (toDigits_digits _) Nat.toDigits_ne_nil, Nat.ofDigitChars_ten_toDigits]
    apply congrArg some
    omega
  · have hlist : ("-" ++ (-n).toNat.repr).toList = '-'::Nat.toDigits 10 (-n).toNat := by
      rw [String.toList_append, Nat.toList_repr]
      rfl
    have hplain : ∀ c ∈ '-'::Nat.toDigits 10 (-n).toNat, c.isWhitespace = false := by
      intro c hc
      rcases List.mem_cons.mp hc with rfl | hc
      · rfl
      · exact not_whitespace (toDigits_digits _ c hc)
    rw [hlist, trim_plain hplain]
    rw [signed_minus, unsigned_digits (toDigits_digits _) Nat.toDigits_ne_nil,
      Nat.ofDigitChars_ten_toDigits]
    apply congrArg some
    show -((-n).toNat : ℤ) = n
    omega

theorem toString_injective {n m : ℤ} (h : toString n = toString m) : n = m := by
  have hn := tryParse_toString n
  rw [h, tryParse_toString m] at hn
  exact (Option.some.inj hn).symm

end Numbers

def ids (controls : List Control) : List String := controls.map (fun c => c.id)

/-- Ids given out before the counter came to `next`, each once. -/
structure Issued (next : ℤ) (controls : List Control) : Prop where
  distinct : (ids controls).Nodup
  below : ∀ id ∈ ids controls, ∃ n : ℤ, id = toString n ∧ n < next

section Lists
variable {next next' : ℤ} {controls controls' : List Control} {c : Control}

theorem issued_nil (next : ℤ) : Issued next [] where
  distinct := List.nodup_nil
  below := fun id h => by cases h

theorem Issued.mono (h : Issued next controls) (hle : next ≤ next') : Issued next' controls where
  distinct := h.distinct
  below := by
    intro id hid
    obtain ⟨n, hn, hlt⟩ := h.below id hid
    exact ⟨n,hn,by omega⟩

theorem Issued.sublist (h : Issued next controls) (hs : (ids controls').Sublist (ids controls)) :
    Issued next controls' where
  distinct := h.distinct.sublist hs
  below := fun id hid => h.below id (hs.subset hid)

theorem Issued.fresh (h : Issued next controls) : toString next ∉ ids controls := by
  intro hmem
  obtain ⟨n, hn, hlt⟩ := h.below _ hmem
  have heq := toString_injective hn
  omega

theorem Issued.append (h : Issued next controls) (hc : c.id = toString next) :
    Issued (next+1) (controls ++ [c]) where
  distinct := by
    have hids : ids (controls ++ [c]) = ids controls ++ [toString next] := by
      simp [ids, hc]
    rw [hids, List.nodup_append]
    refine ⟨h.distinct,List.nodup_singleton _,?_⟩
    rintro id hid _ hnew rfl
    rw [List.mem_singleton] at hnew
    exact h.fresh (hnew ▸ hid)
  below := by
    intro id hid
    simp only [ids, List.map_append, List.map_cons, List.map_nil, List.mem_append,
      List.mem_singleton] at hid
    rcases hid with hold | rfl
    · obtain ⟨n, hn, hlt⟩ := h.below id hold
      exact ⟨n,hn,by omega⟩
    · exact ⟨next,hc,by omega⟩

theorem Issued.filter (h : Issued next controls) (p : Control → Bool) :
    Issued next (controls.filter p) := by
  apply h.sublist
  exact List.filter_sublist.map _

/-- The counter of a manager after an import, and its new controls. -/
theorem import_issued (news : List Control) (a : App)
    (h : Issued a.manager.nextId a.manager.controls) :
    Issued (news.foldl App.importControl a).manager.nextId
      (news.foldl App.importControl a).manager.controls := by
  induction news generalizing a with
  | nil => exact h
  | cons c cs ih =>
    apply ih
    exact h.append rfl

theorem raiseNextId_le (next : ℤ) (controls : List Control) :
    next ≤ App.raiseNextId next controls := by
  induction controls generalizing next with
  | nil => exact le_rfl
  | cons c cs ih =>
    apply le_trans ?_ (ih _)
    dsimp only
    split
    · exact le_rfl
    · split <;> omega

theorem lt_raiseNextId (next : ℤ) (controls : List Control) :
    ∀ c ∈ controls, ∀ id, tryParse c.id = some id → id < App.raiseNextId next controls := by
  induction controls generalizing next with
  | nil => exact fun c hc => by cases hc
  | cons c cs ih =>
    intro d hd id hid
    rcases List.mem_cons.mp hd with rfl | hd
    · apply lt_of_lt_of_le ?_ (raiseNextId_le _ cs)
      simp only [hid]
      split <;> omega
    · exact ih _ d hd id hid

theorem Issued.raise (h : Issued next controls) (n : ℤ) :
    Issued (App.raiseNextId n controls) controls where
  distinct := h.distinct
  below := by
    intro id hid
    obtain ⟨k, hk, -⟩ := h.below id hid
    obtain ⟨c, hc, rfl⟩ := List.mem_map.mp hid
    refine ⟨k,hk,lt_raiseNextId n controls c hc k ?_⟩
    rw [hk]
    exact tryParse_toString k

theorem readControls_saved (controls : List Control) :
    readControls (controls.map Control.toMap) = (controls, true) := by
  induction controls with
  | nil => rfl
  | cons c cs ih =>
    rw [List.map_cons, readControls, fromMap_toMap]
    simp only [ih]

theorem apply_id {u : ControlUpdate} {c c' : Control} (h : u.apply c = some c') : c'.id = c.id := by
  obtain ⟨detail, -, rfl⟩ := Option.map_eq_some_iff.mp h
  rfl

theorem lookup_mem {fields : List (String × JsonValue)} {key : String} {v : JsonValue}
    (h : fields.lookup key = some v) : (key, v) ∈ fields := by
  obtain ⟨before, after, rfl, -⟩ := List.lookup_eq_some_iff.mp h
  exact List.mem_append_right before List.mem_cons_self

theorem mem_setField {fields : List (String × JsonValue)} {key : String} {v : JsonValue}
    {e : String × JsonValue} (h : e ∈ setField fields key v) : e ∈ fields ∨ e.2 = v := by
  unfold setField at h
  split at h
  · obtain ⟨e', he', rfl⟩ := List.mem_map.mp h
    split
    · exact Or.inr rfl
    · exact Or.inl he'
  · rcases List.mem_append.mp h with h | h
    · exact Or.inl h
    · exact Or.inr (congrArg Prod.snd (List.mem_singleton.mp h))

end Lists

/-- A save changes the preferences alone. -/
theorem saveControls_manager (a : App) : a.saveControls.1.manager = a.manager := by
  unfold App.saveControls
  split <;> rfl

/-- A text that could be encoded decodes to what it was made of. -/
theorem decode_encoded {v : JsonValue} {text : JsonText} (h : jsonEncode v = some text) :
    jsonDecode text = some v := by
  rw [jsonEncode] at h
  split at h
  · cases h
    rfl
  · cases h

/-- The manager and everything in the preferences. -/
structure Valid (a : App) : Prop where
  current : Issued a.manager.nextId a.manager.controls
  saved : ∀ text ∈ a.prefs.controls, ∃ cs n, exportControls cs = some text ∧ Issued n cs
  configs : ∀ text ∈ a.prefs.controlConfigs, ∃ fields, jsonEncode (.obj fields) = some text ∧
    ∀ e ∈ fields, ∃ m : Manager, e.2 = App.config m ∧ Issued m.nextId m.controls

section Steps
variable {a : App}

theorem Valid.saveControls (h : Valid a) : Valid a.saveControls.1 := by
  unfold App.saveControls
  split
  · exact h
  · rename_i text hexport
    refine ⟨h.current,?_,h.configs⟩
    intro text' htext
    cases htext
    exact ⟨a.manager.controls,a.manager.nextId,hexport,h.current⟩

theorem Valid.withControls (h : Valid a) {controls : List Control}
    (hc : Issued a.manager.nextId controls) : Valid (a.withControls controls) where
  current := hc
  saved := h.saved
  configs := h.configs

theorem Valid.countId (h : Valid a) : Valid a.countId where
  current := h.current.mono (show a.manager.nextId ≤ a.manager.nextId+1 by omega)
  saved := h.saved
  configs := h.configs

theorem Valid.named (h : Valid a) (configName : String) : Valid (a.named configName) where
  current := h.current
  saved := h.saved
  configs := h.configs

theorem Valid.fields (h : Valid a) {fields : List (String × JsonValue)}
    (hf : a.configs = some fields) :
    ∀ e ∈ fields, ∃ m : Manager, e.2 = App.config m ∧ Issued m.nextId m.controls := by
  unfold App.configs at hf
  cases htext : a.prefs.controlConfigs with
  | none => simp [htext] at hf
  | some text =>
    obtain ⟨fields', hencode, hfields⟩ := h.configs text htext
    rw [htext, Option.bind_some, decode_encoded hencode] at hf
    obtain rfl : fields' = fields := Option.some.inj hf
    exact hfields

theorem Valid.withConfigs (h : Valid a) {fields : List (String × JsonValue)}
    (hf : ∀ e ∈ fields, ∃ m : Manager, e.2 = App.config m ∧ Issued m.nextId m.controls) {a' : App}
    (ha : a.withConfigs fields = some a') : Valid a' := by
  obtain ⟨text, hencode, rfl⟩ := Option.map_eq_some_iff.mp ha
  refine ⟨h.current,h.saved,?_⟩
  intro text' htext
  cases htext
  exact ⟨fields,hencode,hf⟩

theorem create_valid (h : Valid a) (centerX centerY size : Double) (color : Color)
    (opacity : Double) (draft : Draft) : Valid (a.create centerX centerY size color opacity draft) := by
  unfold App.create
  split
  · exact h.countId
  · apply Valid.saveControls
    apply h.countId.withControls
    exact h.current.append rfl

theorem updateControl_valid (h : Valid a) (id : String) (u : ControlUpdate) :
    Valid (a.updateControl id u) := by
  unfold App.updateControl
  split
  · exact h
  · rename_i index _
    split
    · exact h
    · rename_i c' hc'
      obtain ⟨c, hc, happly⟩ := Option.bind_eq_some_iff.mp hc'
      apply Valid.saveControls
      apply h.withControls
      apply h.current.sublist
      have hsame : (ids a.manager.controls).set index c'.id = ids a.manager.controls := by
        have hget : (ids a.manager.controls)[index]? = some c'.id := by
          rw [ids, List.getElem?_map, hc, apply_id happly]
          rfl
        obtain ⟨hlt, hget⟩ := List.getElem?_eq_some_iff.mp hget
        rw [← hget, List.set_getElem_self]
      rw [← hsame, ids, List.map_set, ids]

theorem import_valid (news : List Control) (h : Valid a) :
    Valid (news.foldl App.importControl a) := by
  induction news generalizing a with
  | nil => exact h
  | cons c cs ih =>
    apply ih
    apply h.countId.withControls
    exact h.current.append rfl

theorem importControls_valid (h : Valid a) (text : JsonText) : Valid (a.importControls text).1 := by
  unfold App.importControls
  split
  · exact h
  · apply Valid.saveControls
    apply import_valid
    exact h.withControls (issued_nil _)

theorem saveConfig_valid (h : Valid a) (configName : String) : Valid (a.saveConfig configName) := by
  unfold App.saveConfig
  split
  · exact h
  · rename_i saved hsaved
    apply Valid.named
    refine h.withConfigs (fun e he => ?_) hsaved
    rcases mem_setField he with hold | hnew
    · cases hf : a.configs with
      | none => simp [hf] at hold
      | some fields =>
        rw [hf] at hold
        exact h.fields hf e hold
    · exact ⟨a.manager,hnew,h.current⟩

theorem readConfig_valid (h : Valid a) (configName : String) {m : Manager}
    (hm : Issued m.nextId m.controls) : Valid (a.readConfig configName (App.config m)).1 := by
  have hread : a.readConfig configName (App.config m) = (App.named { a with manager :=
      { a.manager with controls := m.controls, nextId := m.nextId } } configName, true) := by
    have hlist : ((App.config m).field "controls").asList =
        some (m.controls.map Control.toMap) := rfl
    have hnext : ((App.config m).field "nextId").orElse JsonValue.asInt 1 = some m.nextId := rfl
    simp only [App.readConfig, hlist, hnext, readControls_saved, if_true]
    rfl
  rw [hread]
  exact ⟨hm,h.saved,h.configs⟩

theorem loadConfig_valid (h : Valid a) (configName : String) :
    Valid (a.loadConfig configName).1 := by
  unfold App.loadConfig
  split
  · exact h
  · rename_i saved hsaved
    obtain ⟨fields, hf, hlookup⟩ := Option.bind_eq_some_iff.mp hsaved
    obtain ⟨m, hm, hissued⟩ := h.fields hf (configName, saved) (lookup_mem hlookup)
    obtain rfl : saved = App.config m := hm
    exact readConfig_valid h configName hissued

theorem deleteConfig_valid (h : Valid a) (configName : String) :
    Valid (a.deleteConfig configName).1 := by
  unfold App.deleteConfig
  split
  · exact h
  · rename_i fields hf
    split
    · split
      · exact h
      · rename_i deleted hdelete
        have hdeleted : Valid deleted :=
          h.withConfigs (fun e he => h.fields hf e (List.mem_filter.mp he).1) hdelete
        split
        · exact loadConfig_valid hdeleted _
        · exact hdeleted
    · exact h

/-- A restart keeps the preferences, and the controls it loads bring the counter
above their ids. -/
theorem restart_valid (h : Valid a) : Valid a.restart := by
  unfold App.restart App.loadControls
  cases htext : a.prefs.controls with
  | none => exact ⟨issued_nil _,h.saved,h.configs⟩
  | some text =>
    obtain ⟨cs, n, hexport, hissued⟩ := h.saved text htext
    have hlist : ((some text).bind jsonDecode).bind JsonValue.asList =
        some (cs.map Control.toMap) := by
      rw [Option.bind_some, decode_encoded hexport]
      rfl
    simp only [hlist, readControls_saved, if_true]
    exact ⟨hissued.raise _,h.saved,h.configs⟩

theorem step_valid (op : Operation) (a : App) (h : Valid a) : Valid (step op a) := by
  cases op with
  | create centerX centerY size color opacity draft =>
    exact create_valid h centerX centerY size color opacity draft
  | removeControl id =>
    apply Valid.saveControls
    exact h.withControls (h.current.filter _)
  | updateControl id update => exact updateControl_valid h id update
  | clearControls =>
    apply Valid.saveControls
    exact (h.withControls (issued_nil _)).named _
  | importControls text => exact importControls_valid h text
  | saveConfig configName => exact saveConfig_valid h configName
  | loadConfig configName => exact loadConfig_valid h configName
  | deleteConfig configName => exact deleteConfig_valid h configName
  | restart => exact restart_valid h

theorem valid_initial : Valid {} where
  current := issued_nil 1
  saved := fun text h => by cases h
  configs := fun text h => by cases h

theorem run_valid (ops : List Operation) : Valid (run step ops {}) :=
  reachable_invariant step step_valid valid_initial ⟨ops,rfl⟩

end Steps

/-- The ids of the controls are distinct and below the counter, so that a control
is removed and updated alone. -/
structure UniqueIds (a : App) : Prop where
  distinct : (ids a.manager.controls).Nodup
  below : ∀ c ∈ a.manager.controls, ∀ n, tryParse c.id = some n → n < a.manager.nextId
  alone : ∀ c ∈ a.manager.controls, ∃ before after, a.manager.controls = before ++ c::after ∧
    (a.removeControl c.id).manager.controls = before ++ after ∧
    ∀ u, (a.updateControl c.id u).manager.controls = before ++ ((u.apply c).getD c)::after

section Alone
variable {a : App} {c : Control} {before after : List Control}

theorem split_ne (h : (ids (before ++ c::after)).Nodup) :
    (∀ d ∈ before, d.id ≠ c.id) ∧ ∀ d ∈ after, d.id ≠ c.id := by
  have hperm : ids (before ++ c::after) = ids before ++ c.id::ids after := by
    simp [ids]
  rw [hperm, List.nodup_middle] at h
  have hnot := (List.nodup_cons.mp h).1
  rw [List.mem_append, not_or] at hnot
  constructor
  · intro d hd heq
    exact hnot.1 (List.mem_map.mpr ⟨d,hd,heq⟩)
  · intro d hd heq
    exact hnot.2 (List.mem_map.mpr ⟨d,hd,heq⟩)

theorem filter_split (hb : ∀ d ∈ before, d.id ≠ c.id) (ha : ∀ d ∈ after, d.id ≠ c.id) :
    (before ++ c::after).filter (fun d => d.id ≠ c.id) = before ++ after := by
  rw [List.filter_append, List.filter_cons, List.filter_eq_self.mpr, List.filter_eq_self.mpr]
  · simp
  · exact fun d hd => decide_eq_true (ha d hd)
  · exact fun d hd => decide_eq_true (hb d hd)

theorem findIdx_split (hb : ∀ d ∈ before, d.id ≠ c.id) :
    (before ++ c::after).findIdx? (fun d => d.id = c.id) = some before.length := by
  induction before with
  | nil =>
    rw [List.nil_append, List.findIdx?_cons, decide_eq_true rfl]
    rfl
  | cons d ds ih =>
    have hd : ¬ d.id = c.id := hb d List.mem_cons_self
    rw [List.cons_append, List.findIdx?_cons, decide_eq_false hd,
      ih fun e he => hb e (List.mem_cons_of_mem d he)]
    rfl

theorem updateControl_split (hc : a.manager.controls = before ++ c::after)
    (hb : ∀ d ∈ before, d.id ≠ c.id) (u : ControlUpdate) :
    (a.updateControl c.id u).manager.controls = before ++ ((u.apply c).getD c)::after := by
  have hget : (before ++ c::after)[before.length]? = some c := by
    simp
  unfold App.updateControl
  rw [hc, findIdx_split hb]
  simp only [hget, Option.bind_some]
  cases u.apply c with
  | none => exact hc
  | some c' =>
    simp [saveControls_manager, App.withControls]

end Alone

/-- In every state that operations lead to. -/
theorem control_ids (ops : List Operation) : UniqueIds (run step ops {}) := by
  have h := (run_valid ops).current
  generalize run step ops {} = a at *
  refine ⟨h.distinct,fun c hc n hn => ?_,fun c hc => ?_⟩
  · obtain ⟨k, hk, hlt⟩ := h.below c.id (List.mem_map.mpr ⟨c,hc,rfl⟩)
    rw [hk, tryParse_toString] at hn
    obtain rfl := Option.some.inj hn
    exact hlt
  · obtain ⟨before, after, hsplit⟩ := List.append_of_mem hc
    have hne := split_ne (hsplit ▸ h.distinct)
    refine ⟨before,after,hsplit,?_,updateControl_split hsplit hne.1⟩
    rw [App.removeControl, saveControls_manager, App.withControls, hsplit]
    exact filter_split hne.1 hne.2

def zero : Double := .finite 0

/-- A control created after an older configuration was loaded gets an id that the
configuration has left free. -/
example : (run step [.create zero zero zero grey zero .eightDirectionJoystick, .saveConfig "a",
    .create zero zero zero grey zero .eightDirectionJoystick, .loadConfig "a",
    .create zero zero zero grey zero (.joystick .left), .restart] {}).manager.controls.map
      (fun c => c.id) = ["1", "2"] := by
  decide +kernel

end CloudPlay.ControlIds
