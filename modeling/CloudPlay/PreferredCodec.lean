import Mathlib.Data.Int.Notation
import Mathlib.Data.List.Basic
import Mathlib.Data.String.Basic

/-!
# The preferred codec of a session description

The host keeps one codec in the first audio and the first video section of its
session description: the entries of the codec, their numbers in the media line
and the attributes that refer to them. A section that lacks the codec is left
without a number, and an attribute of all numbers is dropped. Names of codecs
are ASCII tokens, of which the two languages make the same small letters.
-/

set_option autoImplicit false

namespace CloudPlay.PreferredCodec

/-- The number an attribute refers to, or all of them. -/
inductive PayloadRef
  | number (payload : ℤ)
  | wildcard
  deriving DecidableEq

/-- An entry of `rtcpFb` or `fmtp`. -/
structure Attribute where
  payload : PayloadRef
  text : String
  deriving DecidableEq

structure Rtp where
  payload : ℤ
  codec : String
  rate : Option ℤ := none
  encoding : Option String := none
  orignPayload : Option ℤ := none
  deriving DecidableEq

/-- A parsed section. The numbers of its media line are one text, which is split at
blanks when it is read and joined when it is written. -/
structure Section where
  type : String
  payloads : List String
  rtp : Option (List Rtp) := none
  fmtp : Option (List Attribute) := none
  rtcpFb : Option (List Attribute) := none
  others : List (String × String) := []
  deriving DecidableEq

structure Session where
  media : List Section
  others : List (String × String) := []
  deriving DecidableEq

structure CodecCapability where
  kind : String
  payloads : List String
  codecs : List Rtp
  fmtp : List Attribute
  rtcpFb : List Attribute

/-- The constructor notes the number of each codec. -/
def Rtp.noted (r : Rtp) : Rtp := {r with orignPayload := some r.payload}

def getCapabilities (kind : String) (session : Session) : Option CodecCapability :=
  (session.media.find? fun mline => mline.type = kind).map fun mline =>
    { kind := kind
      payloads := mline.payloads
      codecs := (mline.rtp.getD []).map Rtp.noted
      fmtp := mline.fmtp.getD []
      rtcpFb := mline.rtcpFb.getD [] }

/-- The lists while the codecs are gone through. The attributes are shared by the
old and the new lists and change in both. -/
structure Preferences where
  rtcpFb : List Attribute
  fmtp : List Attribute
  newRtcpFb : List Attribute := []
  newFmtp : List Attribute := []
  newPayloads : List String := []

def Attribute.renumber (orign payload : ℤ) (e : Attribute) : Attribute :=
  if e.payload = .number orign then {e with payload := .number payload} else e

def taken (payload : ℤ) (l : List Attribute) : List Attribute :=
  l.filter fun e => e.payload = .number payload

def keepCodec (payloads : List String) (l : Preferences) (element : Rtp) : Preferences :=
  match element.orignPayload with
  | none => l -- the constructor has noted every number
  | some orign =>
    if element.payload ≠ orign then
      let change := Attribute.renumber orign element.payload
      { rtcpFb := l.rtcpFb.map change
        fmtp := l.fmtp.map change
        newRtcpFb := l.newRtcpFb.map change ++ (taken orign l.rtcpFb).map change
        newFmtp := l.newFmtp.map change ++ (taken orign l.fmtp).map change
        newPayloads := l.newPayloads ++
          if toString orign ∈ payloads then [toString element.payload] else [] }
    else
      { l with
        newRtcpFb := l.newRtcpFb ++ taken element.payload l.rtcpFb
        newFmtp := l.newFmtp ++ taken element.payload l.fmtp
        newPayloads := l.newPayloads ++ payloads.filter (· = toString element.payload) }

def CodecCapability.setCodecPreferences (caps : CodecCapability) (newCodecs : List Rtp) :
    CodecCapability :=
  let lists := newCodecs.foldl (keepCodec caps.payloads) {rtcpFb := caps.rtcpFb, fmtp := caps.fmtp}
  {caps with
    rtcpFb := lists.newRtcpFb
    fmtp := lists.newFmtp
    payloads := lists.newPayloads
    codecs := newCodecs}

def CodecCapability.write (caps : CodecCapability) (mline : Section) : Section :=
  {mline with
    payloads := caps.payloads
    rtp := some caps.codecs
    fmtp := some caps.fmtp
    rtcpFb := some caps.rtcpFb}

/-- The first section of a kind. -/
def first (kind : String) (media : List Section) : Option ℕ :=
  media.findIdx? fun mline => mline.type = kind

def setCapabilities (caps : CodecCapability) (session : Session) : Session :=
  match first caps.kind session.media with
  | none => session
  | some i => {session with media := session.media.modify i caps.write}

def hasCodec (name : String) (e : Rtp) : Bool := e.codec.toLower = name

def preferCodec (kind name : String) (session : Session) : Session :=
  match getCapabilities kind session with
  | none => session
  | some caps =>
    setCapabilities (caps.setCodecPreferences (caps.codecs.filter (hasCodec name))) session

def setPreferredCodec (audio video : String) (session : Session) : Session :=
  preferCodec "video" video (preferCodec "audio" audio session)

def Attribute.RefersTo (e : Attribute) (payload : ℤ) : Prop :=
  e.payload = .number payload ∨ e.payload = .wildcard

/-- The attributes kept are those that refer to one of the numbers. -/
structure Filtered (payloads : List ℤ) (attributes kept : List Attribute) : Prop where
  old : ∀ e ∈ kept, e ∈ attributes
  refers : ∀ e ∈ kept, ∃ payload ∈ payloads, e.RefersTo payload
  complete : ∀ e ∈ attributes, ∀ payload ∈ payloads, e.RefersTo payload → e ∈ kept

def Section.entries (s : Section) : List Rtp := s.rtp.getD []

/-- Names of codecs are compared without case. -/
def preferred (name : String) (r : Rtp) : Bool := r.codec.toLower = name.toLower

structure Consistent (name : String) (s s' : Section) : Prop where
  rtp : s'.entries = (s.entries.filter (preferred name)).map Rtp.noted
  payloads : s'.payloads = s'.entries.map fun r => toString r.payload
  rtcpFb : Filtered (s'.entries.map Rtp.payload) (s.rtcpFb.getD []) (s'.rtcpFb.getD [])
  fmtp : Filtered (s'.entries.map Rtp.payload) (s.fmtp.getD []) (s'.fmtp.getD [])
  nonempty : s.payloads ≠ [] → s'.payloads ≠ []
  others : s'.type = s.type ∧ s'.others = s.others

structure Kept (audio video : String) (session session' : Session) : Prop where
  others : session'.others = session.others
  length : session'.media.length = session.media.length
  sections : ∀ i s s', session.media[i]? = some s → session'.media[i]? = some s' →
    if first "audio" session.media = some i then Consistent audio s s'
    else if first "video" session.media = some i then Consistent video s s'
    else s' = s

/-- The media line lists the number of each entry once. -/
def Listed (s : Section) : Prop := ∀ r ∈ s.entries, s.payloads.count (toString r.payload) = 1

instance (s : Section) : Decidable (Listed s) := inferInstanceAs (Decidable (∀ _ ∈ _, _))

/-- The section has an entry of the codec and no attribute of all numbers, or it
lists no number. -/
def Fits (name : String) (s : Section) : Prop :=
  s.payloads = [] ∨ (∃ r ∈ s.entries, r.codec.toLower = name) ∧
    ∀ e ∈ s.rtcpFb.getD [] ++ s.fmtp.getD [], e.payload ≠ .wildcard

def FirstFits (kind name : String) (session : Session) : Prop :=
  ∀ i s, first kind session.media = some i → session.media[i]? = some s → Fits name s

section Lists
variable (payloads : List String) (codecs : List Rtp)

theorem keepCodec_noted (l : Preferences) (r : Rtp) : keepCodec payloads l r.noted =
    {l with
      newRtcpFb := l.newRtcpFb ++ taken r.payload l.rtcpFb
      newFmtp := l.newFmtp ++ taken r.payload l.fmtp
      newPayloads := l.newPayloads ++ payloads.filter (· = toString r.payload)} := by
  simp [keepCodec, Rtp.noted]

/-- No number has changed, so each list is filtered by the numbers in turn. -/
theorem foldl_noted (l : Preferences) : (codecs.map Rtp.noted).foldl (keepCodec payloads) l =
    {l with
      newRtcpFb := l.newRtcpFb ++ codecs.flatMap fun r => taken r.payload l.rtcpFb
      newFmtp := l.newFmtp ++ codecs.flatMap fun r => taken r.payload l.fmtp
      newPayloads := l.newPayloads ++
        codecs.flatMap fun r => payloads.filter (· = toString r.payload)} := by
  induction codecs generalizing l with
  | nil => simp
  | cons r codecs ih =>
    rw [List.map_cons, List.foldl_cons, keepCodec_noted, ih]
    simp only [List.flatMap_cons, List.append_assoc]

theorem listed_numbers (h : ∀ r ∈ codecs, payloads.count (toString r.payload) = 1) :
    (codecs.flatMap fun r => payloads.filter (· = toString r.payload)) =
      codecs.map fun r => toString r.payload := by
  induction codecs with
  | nil => rfl
  | cons r codecs ih =>
    have hone : payloads.filter (· = toString r.payload) = [toString r.payload] := by
      rw [List.filter_eq, h r List.mem_cons_self, List.replicate_one]
    rw [List.flatMap_cons, hone, ih fun r' hr' => h r' (List.mem_cons_of_mem _ hr'),
      List.map_cons, List.singleton_append]

theorem mem_taken {l : List Attribute} {e : Attribute} :
    e ∈ codecs.flatMap (fun r => taken r.payload l) ↔
      e ∈ l ∧ ∃ r ∈ codecs, e.payload = .number r.payload := by
  simp only [List.mem_flatMap, taken, List.mem_filter, decide_eq_true_eq]
  constructor
  · rintro ⟨r, hr, he, hp⟩
    exact ⟨he,r,hr,hp⟩
  · rintro ⟨he, r, hr, hp⟩
    exact ⟨r,hr,he,hp⟩

/-- The attributes of the numbers are all that refer to them, unless one refers to
all. -/
theorem taken_filtered (l : List Attribute) :
    Filtered (codecs.map Rtp.payload) l (codecs.flatMap fun r => taken r.payload l) ↔
      (codecs ≠ [] → ∀ e ∈ l, e.payload ≠ .wildcard) := by
  constructor
  · intro h hne e he hwild
    obtain ⟨r, hr⟩ := List.exists_mem_of_ne_nil codecs hne
    have hkept := h.complete e he r.payload (List.mem_map_of_mem hr) (Or.inr hwild)
    obtain ⟨-, r', -, hnumber⟩ := (mem_taken codecs).mp hkept
    rw [hwild] at hnumber
    cases hnumber
  · intro h
    constructor
    · intro e he
      exact ((mem_taken codecs).mp he).1
    · intro e he
      obtain ⟨-, r, hr, hnumber⟩ := (mem_taken codecs).mp he
      exact ⟨r.payload,List.mem_map_of_mem hr,Or.inl hnumber⟩
    · intro e he payload hpayload hrefers
      obtain ⟨r, hr, rfl⟩ := List.mem_map.mp hpayload
      rcases hrefers with hnumber | hwild
      · exact (mem_taken codecs).mpr ⟨he,r,hr,hnumber⟩
      · exact absurd hwild (h (List.ne_nil_of_mem hr) e he)

end Lists

/-- A letter that has been lowered is above the capitals. -/
theorem char_toLower (c : Char) : c.toLower.toLower = c.toLower := by
  unfold Char.toLower
  split
  · rename_i h
    apply dif_neg
    rintro ⟨-, hle⟩
    have hz : ('Z' : Char).val.toNat = 90 := rfl
    have ha : ('A' : Char).val.toNat = 65 := rfl
    have hlow := UInt32.le_iff_toNat_le.mp h.1
    have hhigh := UInt32.le_iff_toNat_le.mp h.2
    have hsum : (c.val+(('a' : Char).val-('A' : Char).val)).toNat ≤ ('Z' : Char).val.toNat :=
      UInt32.le_iff_toNat_le.mp hle
    have h32 : (('a' : Char).val-('A' : Char).val).toNat = 32 := rfl
    rw [UInt32.toNat_add] at hsum
    omega
  · rfl

theorem toLower_toLower (s : String) : s.toLower.toLower = s.toLower := by
  show (s.map Char.toLower).map Char.toLower = s.map Char.toLower
  apply String.toList_inj.mp
  rw [String.toList_map, String.toList_map, List.map_map]
  exact List.map_congr_left fun c _ => char_toLower c

/-! One section. -/

/-- The capability of a section after its codecs have been filtered. -/
def capability (kind name : String) (s : Section) : CodecCapability :=
  CodecCapability.setCodecPreferences
    ⟨kind,s.payloads,s.entries.map Rtp.noted,s.fmtp.getD [],s.rtcpFb.getD []⟩
    ((s.entries.map Rtp.noted).filter (hasCodec name))

def keepSection (kind name : String) (s : Section) : Section := (capability kind name s).write s

section OneSection
variable {kind name : String} {s : Section}

theorem kept_noted : (s.entries.map Rtp.noted).filter (hasCodec name) =
    (s.entries.filter (hasCodec name)).map Rtp.noted := by
  rw [List.filter_map]
  rfl

theorem capability_eq : capability kind name s =
    let kept := s.entries.filter (hasCodec name)
    { kind := kind
      payloads := kept.flatMap fun r => s.payloads.filter (· = toString r.payload)
      codecs := kept.map Rtp.noted
      fmtp := kept.flatMap fun r => taken r.payload (s.fmtp.getD [])
      rtcpFb := kept.flatMap fun r => taken r.payload (s.rtcpFb.getD []) } := by
  simp only [capability, CodecCapability.setCodecPreferences, kept_noted, foldl_noted,
    List.nil_append]

theorem keepSection_entries : (keepSection kind name s).entries =
    (s.entries.filter (hasCodec name)).map Rtp.noted := by
  rw [keepSection, capability_eq]
  rfl

theorem keepSection_numbers : (keepSection kind name s).entries.map Rtp.payload =
    (s.entries.filter (hasCodec name)).map Rtp.payload := by
  rw [keepSection_entries, List.map_map]
  rfl

theorem keepSection_payloads (h : Listed s) : (keepSection kind name s).payloads =
    (keepSection kind name s).entries.map fun r => toString r.payload := by
  have hkept : ∀ r ∈ s.entries.filter (hasCodec name),
      s.payloads.count (toString r.payload) = 1 := fun r hr => h r (List.mem_of_mem_filter hr)
  rw [keepSection_entries, List.map_map]
  rw [keepSection, capability_eq]
  exact listed_numbers s.payloads _ hkept

theorem listed_empty (h : Listed s) (hp : s.payloads = []) : s.entries = [] := by
  rw [List.eq_nil_iff_forall_not_mem]
  intro r hr
  have hone := h r hr
  rw [hp, List.count_nil] at hone
  cases hone

/-- An entry of the codec is kept when its name is lowered as the code expects. -/
theorem filter_preferred (h : s.entries = [] ∨ ∃ r ∈ s.entries, r.codec.toLower = name) :
    s.entries.filter (preferred name) = s.entries.filter (hasCodec name) := by
  rcases h with hnone | ⟨r, -, hr⟩
  · rw [hnone]
    rfl
  · have hlower : name.toLower = name := by rw [← hr, toLower_toLower]
    apply List.filter_congr
    intro r' _
    rw [preferred, hasCodec, hlower]

/-- A section is kept consistent exactly when it fits. -/
theorem consistent_iff (h : Listed s) : Consistent name s (keepSection kind name s) ↔
    Fits name s := by
  have hfmtp := taken_filtered (s.entries.filter (hasCodec name)) (s.fmtp.getD [])
  have hrtcpFb := taken_filtered (s.entries.filter (hasCodec name)) (s.rtcpFb.getD [])
  constructor
  · intro hc
    by_cases hp : s.payloads = []
    · exact Or.inl hp
    · have hkept : s.entries.filter (hasCodec name) ≠ [] := by
        intro hnone
        have hempty : (keepSection kind name s).payloads = _ := keepSection_payloads h
        rw [keepSection_entries, hnone] at hempty
        exact hc.nonempty hp hempty
      obtain ⟨r, hr⟩ := List.exists_mem_of_ne_nil _ hkept
      obtain ⟨hentry, hcodec⟩ := List.mem_filter.mp hr
      refine Or.inr ⟨⟨r,hentry,of_decide_eq_true hcodec⟩,?_⟩
      have hf := hc.fmtp
      have hb := hc.rtcpFb
      rw [keepSection_numbers] at hf hb
      simp only [keepSection, capability_eq] at hf hb
      intro e he
      rcases List.mem_append.mp he with he | he
      · exact hrtcpFb.mp hb hkept e he
      · exact hfmtp.mp hf hkept e he
  · intro hfits
    have hentries : s.entries = [] ∨ ∃ r ∈ s.entries, r.codec.toLower = name := by
      rcases hfits with hp | ⟨hcodec, -⟩
      · exact Or.inl (listed_empty h hp)
      · exact Or.inr hcodec
    have hwild : s.entries.filter (hasCodec name) ≠ [] →
        ∀ e ∈ s.rtcpFb.getD [] ++ s.fmtp.getD [], e.payload ≠ .wildcard := by
      intro hkept
      rcases hfits with hp | ⟨-, hwild⟩
      · rw [listed_empty h hp] at hkept
        exact absurd rfl hkept
      · exact hwild
    constructor
    · rw [filter_preferred hentries, keepSection_entries]
    · exact keepSection_payloads h
    · rw [keepSection_numbers]
      simp only [keepSection, capability_eq]
      exact hrtcpFb.mpr fun hkept e he => hwild hkept e (List.mem_append_left _ he)
    · rw [keepSection_numbers]
      simp only [keepSection, capability_eq]
      exact hfmtp.mpr fun hkept e he => hwild hkept e (List.mem_append_right _ he)
    · intro hp
      rcases hfits with hnone | ⟨⟨r, hr, hcodec⟩, -⟩
      · exact absurd hnone hp
      · rw [keepSection_payloads h, keepSection_entries]
        have hmem : r ∈ s.entries.filter (hasCodec name) :=
          List.mem_filter.mpr ⟨hr,decide_eq_true hcodec⟩
        simpa using List.ne_nil_of_mem hmem
    · exact ⟨rfl,rfl⟩

end OneSection

/-! The sections of a session: the first one of a kind is changed in place. -/

section Sections
variable {kind other : String} {media : List Section} {f g : Section → Section}

theorem modify_agree {i : ℕ} (h : ∀ s, media[i]? = some s → f s = g s) :
    media.modify i f = media.modify i g := by
  apply List.ext_getElem?
  intro j
  rw [List.getElem?_modify, List.getElem?_modify]
  cases hj : media[j]? with
  | none => rfl
  | some s =>
    by_cases hij : i = j
    · subst hij
      simp [h s hj]
    · simp [hij]

theorem first_some {i : ℕ} (h : first kind media = some i) :
    ∃ s, media[i]? = some s ∧ s.type = kind := by
  obtain ⟨hlt, htype, -⟩ := List.findIdx?_eq_some_iff_getElem.mp h
  exact ⟨media[i],List.getElem?_eq_getElem hlt,of_decide_eq_true htype⟩

/-- Sections of two kinds are different sections. -/
theorem first_ne {i : ℕ} (hne : kind ≠ other) (h : first kind media = some i) :
    first other media ≠ some i := by
  intro ho
  obtain ⟨s, hs, hkind⟩ := first_some h
  obtain ⟨s', hs', hother⟩ := first_some ho
  rw [hs] at hs'
  exact hne (by rw [← hkind, Option.some.inj hs', hother])

theorem find_first : media.find? (fun mline => mline.type = kind) =
    (first kind media).bind fun i => media[i]? := List.find?_eq_bind_findIdx?_getElem?

theorem capabilities_some {name : String} {session : Session} {i : ℕ} {s : Section}
    (hi : first kind session.media = some i) (hs : session.media[i]? = some s) :
    preferCodec kind name session = setCapabilities (capability kind name s) session := by
  have hfind : session.media.find? (fun mline => mline.type = kind) = some s := by
    rw [find_first, hi, Option.bind_some, hs]
  unfold preferCodec getCapabilities
  rw [hfind]
  rfl

theorem capability_kind (name : String) (s : Section) : (capability kind name s).kind = kind := rfl

theorem preferCodec_none {name : String} {session : Session}
    (h : first kind session.media = none) : preferCodec kind name session = session := by
  unfold preferCodec getCapabilities
  rw [find_first, h]
  rfl

theorem preferCodec_some {name : String} {session : Session} {i : ℕ}
    (hi : first kind session.media = some i) : preferCodec kind name session =
      {session with media := session.media.modify i (keepSection kind name)} := by
  obtain ⟨s, hs, -⟩ := first_some hi
  rw [capabilities_some hi hs]
  unfold setCapabilities
  rw [capability_kind, hi]
  have hmedia : session.media.modify i (capability kind name s).write =
      session.media.modify i (keepSection kind name) := by
    apply modify_agree
    intro s' hs'
    rw [hs] at hs'
    rw [← Option.some.inj hs']
    rfl
  exact congrArg (fun media => {session with media := media}) hmedia

/-- Each section after the codec of one kind has been chosen. -/
theorem preferCodec_section (kind name : String) (session : Session) (i : ℕ) :
    (preferCodec kind name session).media[i]? = session.media[i]?.map fun s =>
      if first kind session.media = some i then keepSection kind name s else s := by
  cases hi : first kind session.media with
  | none => simp [preferCodec_none hi]
  | some j =>
    rw [preferCodec_some hi, List.getElem?_modify]
    simp

theorem preferCodec_others (kind name : String) (session : Session) :
    (preferCodec kind name session).others = session.others ∧
      (preferCodec kind name session).media.length = session.media.length := by
  cases hi : first kind session.media with
  | none => simp [preferCodec_none hi]
  | some j => simp [preferCodec_some hi]

/-- Choosing a codec changes no type, so the first sections stay the same. -/
theorem preferCodec_first (kind name other : String) (session : Session) :
    first other (preferCodec kind name session).media = first other session.media := by
  have htypes : (preferCodec kind name session).media.map Section.type =
      session.media.map Section.type := by
    apply List.ext_getElem?
    intro i
    rw [List.getElem?_map, List.getElem?_map, preferCodec_section, Option.map_map]
    apply Option.map_congr
    intro s _
    dsimp only [Function.comp_apply]
    split <;> rfl
  have hfirst : ∀ media : List Section,
      first other media = (media.map Section.type).findIdx? (· = other) := by
    intro media
    rw [List.findIdx?_map]
    rfl
  rw [hfirst, hfirst, htypes]

end Sections

section Sessions
variable (audio video : String) {session : Session}

theorem audio_section {i : ℕ} {s : Section} (hi : first "audio" session.media = some i)
    (hs : session.media[i]? = some s) :
    (setPreferredCodec audio video session).media[i]? = some (keepSection "audio" audio s) := by
  have hvideo : first "video" session.media ≠ some i := first_ne (by decide) hi
  rw [setPreferredCodec, preferCodec_section, preferCodec_first, preferCodec_section, hs]
  simp [hi, hvideo]

theorem video_section {i : ℕ} {s : Section} (hi : first "video" session.media = some i)
    (hs : session.media[i]? = some s) :
    (setPreferredCodec audio video session).media[i]? = some (keepSection "video" video s) := by
  have haudio : first "audio" session.media ≠ some i := first_ne (by decide) hi
  rw [setPreferredCodec, preferCodec_section, preferCodec_first, preferCodec_section, hs]
  simp [hi, haudio]

theorem other_section {i : ℕ} {s : Section} (ha : first "audio" session.media ≠ some i)
    (hv : first "video" session.media ≠ some i) (hs : session.media[i]? = some s) :
    (setPreferredCodec audio video session).media[i]? = some s := by
  rw [setPreferredCodec, preferCodec_section, preferCodec_first, preferCodec_section, hs]
  simp [ha, hv]

end Sessions

/-- A session with one audio and one video codec. -/
def offered : Session where
  media := [
    { type := "audio", payloads := ["111", "0"]
      rtp := some [⟨111,"opus",some 48000,some "2",none⟩] },
    { type := "video", payloads := ["96", "97"]
      rtp := some [⟨96,"VP8",some 90000,none,none⟩, ⟨97,"rtx",some 90000,none,none⟩]
      fmtp := some [⟨.number 97,"apt=96"⟩] }]

end CloudPlay.PreferredCodec
