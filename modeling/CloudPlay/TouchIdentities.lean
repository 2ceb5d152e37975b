import CloudPlay.TransitionRun
import Mathlib.Data.Rat.Defs
import Mathlib.Logic.Function.Basic

/-!
# Fingers in touch mode

Each finger is sent to the host under an id of its own, and its release at the
place it was last reported. The renderer folds the pointers into nine ids and
keeps one place for all fingers, so two fingers keep apart only while their
pointers differ modulo nine, and a finger is released in its place only when no
other one has been reported elsewhere since.
-/

set_option autoImplicit false

namespace CloudPlay.TouchIdentities
open TransitionRun

/-- A place in the video, as fractions of its width and height. -/
structure Percent where
  xPercent : ℚ
  yPercent : ℚ
  deriving DecidableEq

structure Screen where
  leftButtonDown : Bool := false
  last : Percent := ⟨0,0⟩

inductive TouchMessage
  | button (position : Percent) (touchId : ℤ) (isDown : Bool)
  | move (position : Percent) (touchId : ℤ)
  deriving DecidableEq

def TouchMessage.position : TouchMessage → Percent
  | .button position _ _ => position
  | .move position _ => position

def TouchMessage.touchId : TouchMessage → ℤ
  | .button _ touchId _ => touchId
  | .move _ touchId => touchId

/-! Each handler returns the screen and the message it sends. -/

def handleTouchModeDown (position : Percent) (pointerId : ℤ) (s : Screen) :
    Screen × TouchMessage :=
  ({s with leftButtonDown := true, last := position}, .button position pointerId true)

def handleTouchModeUp (pointerId : ℤ) (s : Screen) : Screen × TouchMessage :=
  ({s with leftButtonDown := false}, .button s.last pointerId false)

def handleTouchModeMove (position : Percent) (pointerId : ℤ) (s : Screen) :
    Screen × TouchMessage :=
  ({s with last := position}, .move position pointerId)

def pointerId (pointer : ℤ) : ℤ := pointer%9+1

/-- A finger on the screen. The place of a finger that comes down or moves is that
of `_calculatePositionPercent`, nothing without a render box. -/
inductive Event
  | down (pointer : ℤ) (position : Option Percent)
  | move (pointer : ℤ) (position : Option Percent)
  | up (pointer : ℤ)

def Event.pointer : Event → ℤ
  | .down pointer _ => pointer
  | .move pointer _ => pointer
  | .up pointer => pointer

/-- The handlers of the listener in touch mode. -/
def handle : Event → Screen → Screen × Option TouchMessage
  | .down pointer (some position), s =>
    (handleTouchModeDown position (pointerId pointer) s).map id some
  | .move pointer (some position), s =>
    (handleTouchModeMove position (pointerId pointer) s).map id some
  | .up pointer, s => (handleTouchModeUp (pointerId pointer) s).map id some
  | _, s => (s, none)

/-- A finger that is down: the id it is sent under, and the place it was last
reported at. -/
structure Contact where
  touchId : Option ℤ := none
  last : Option Percent := none
  deriving DecidableEq

def Contact.note (contact : Contact) : Option TouchMessage → Contact
  | none => contact
  | some message => ⟨some (contact.touchId.getD message.touchId),some message.position⟩

/-- The renderer, the fingers that are down and the latest place reported. -/
structure Watched where
  screen : Screen := {}
  contacts : ℤ → Option Contact := fun _ => none
  latest : Option Percent := none

/-- A finger comes down once, and moves and leaves only while it is down: other
events do not occur. -/
def occurs : Event → Watched → Bool
  | .down pointer _, w => (w.contacts pointer).isNone
  | .move pointer _, w => (w.contacts pointer).isSome
  | .up pointer, w => (w.contacts pointer).isSome

def sent (e : Event) (w : Watched) : Option TouchMessage :=
  if occurs e w then (handle e w.screen).2 else none

def Event.isUp : Event → Bool
  | .up _ => true
  | _ => false

/-- The finger of an event after it. -/
def Watched.contact (w : Watched) (e : Event) : Option Contact :=
  if e.isUp then none else some (((w.contacts e.pointer).getD {}).note (handle e w.screen).2)

def step (e : Event) (w : Watched) : Watched :=
  if occurs e w then
    { screen := (handle e w.screen).1
      contacts := Function.update w.contacts e.pointer (w.contact e)
      latest := if e.isUp then w.latest
        else ((handle e w.screen).2.map TouchMessage.position).or w.latest }
  else w

/-- The fingers that are down have different ids. -/
def Separate (contacts : ℤ → Option Contact) : Prop :=
  ∀ p q a b touchId, p ≠ q → contacts p = some a → contacts q = some b →
    a.touchId = some touchId → b.touchId ≠ some touchId

structure Preserved (e : Event) (w : Watched) : Prop where
  identities : Separate (step e w).contacts
  sameId : ∀ contact message touchId, w.contacts e.pointer = some contact →
    sent e w = some message → contact.touchId = some touchId → message.touchId = touchId
  ownPlace : ∀ contact message own, e.isUp → w.contacts e.pointer = some contact →
    sent e w = some message → contact.last = some own → message.position = own

/-- No other finger that has been sent is the same modulo nine. -/
def Free (pointer : ℤ) (w : Watched) : Prop :=
  ∀ other contact, other ≠ pointer → w.contacts other = some contact → contact.touchId ≠ none →
    other%9 ≠ pointer%9

/-- A finger is sent for the first time while its id is free, and is lifted while
the latest place reported is its own. -/
def Guard : Event → Watched → Prop
  | .down pointer position, w => position ≠ none → w.contacts pointer = none → Free pointer w
  | .move pointer position, w => position ≠ none → ∀ contact, w.contacts pointer = some contact →
      contact.touchId = none → Free pointer w
  | .up pointer, w => ∀ contact own place, w.contacts pointer = some contact →
      contact.last = some own → w.latest = some place → place = own

structure Coherent (w : Watched) : Prop where
  ids : ∀ p contact touchId, w.contacts p = some contact → contact.touchId = some touchId →
    touchId = pointerId p
  known : ∀ p contact own, w.contacts p = some contact → contact.last = some own →
    w.latest = some w.screen.last

section
variable {w : Watched}

theorem step_occurs {e : Event} (h : occurs e w = true) : step e w =
    { screen := (handle e w.screen).1
      contacts := Function.update w.contacts e.pointer (w.contact e)
      latest := if e.isUp then w.latest
        else ((handle e w.screen).2.map TouchMessage.position).or w.latest } := if_pos h

theorem step_absent {e : Event} (h : occurs e w = false) : step e w = w := by
  simp [step, h]

/-- Fingers stay apart when one of them changes, exactly when it is apart from the
others. -/
theorem separate_update {contacts : ℤ → Option Contact} {pointer : ℤ} {now : Option Contact}
    (h : Separate contacts) : Separate (Function.update contacts pointer now) ↔
      ∀ other a b touchId, other ≠ pointer → now = some a → contacts other = some b →
        a.touchId = some touchId → b.touchId ≠ some touchId := by
  constructor
  · intro hs other a b touchId hne hnow hb ha
    apply hs pointer other a b touchId hne.symm _ _ ha
    · rw [Function.update_self, hnow]
    · rw [Function.update_of_ne hne, hb]
  · intro hs p q a b touchId hne hp hq ha hb
    by_cases hpp : p = pointer
    · subst hpp
      rw [Function.update_self] at hp
      rw [Function.update_of_ne hne.symm] at hq
      exact hs q a b touchId hne.symm hp hq ha hb
    · rw [Function.update_of_ne hpp] at hp
      by_cases hqp : q = pointer
      · subst hqp
        rw [Function.update_self] at hq
        exact hs p b a touchId hpp hq hp hb ha
      · rw [Function.update_of_ne hqp] at hq
        exact h p q a b touchId hne hp hq ha hb

theorem pointerId_eq (p q : ℤ) : pointerId p = pointerId q ↔ p%9 = q%9 := by
  unfold pointerId
  omega

/-- A finger sent for the first time is apart from the others exactly when its id
is free. -/
theorem first_sent (hc : Coherent w) (hs : Separate w.contacts) (pointer : ℤ) (contact : Contact)
    (hid : contact.touchId = some (pointerId pointer)) :
    Separate (Function.update w.contacts pointer (some contact)) ↔ Free pointer w := by
  rw [separate_update hs]
  constructor
  · intro h other b hne hb hsent hmod
    obtain ⟨touchId, ht⟩ := Option.ne_none_iff_exists'.mp hsent
    have hown := hc.ids other b touchId hb ht
    apply h other contact b (pointerId pointer) hne rfl hb hid
    rw [ht, hown, (pointerId_eq other pointer).mpr hmod]
  · rintro h other a b touchId hne ⟨⟩ hb ha hbid
    have hsame : touchId = pointerId pointer := by
      rw [hid] at ha
      exact (Option.some.inj ha).symm
    have hown := hc.ids other b touchId hb hbid
    apply h other b hne hb (by rw [hbid]; exact nofun)
    rw [← pointerId_eq, ← hown, hsame]

/-! What a handler sends. -/

theorem handle_touchId {e : Event} {s : Screen} {message : TouchMessage}
    (h : (handle e s).2 = some message) : message.touchId = pointerId e.pointer := by
  cases e with
  | down pointer position | move pointer position =>
    cases position with
    | none => cases h
    | some position =>
      cases h
      rfl
  | up pointer =>
    cases h
    rfl

theorem handle_place {e : Event} {s : Screen} {message : TouchMessage}
    (h : (handle e s).2 = some message) : (handle e s).1.last = message.position := by
  cases e with
  | down pointer position | move pointer position =>
    cases position with
    | none => cases h
    | some position =>
      cases h
      rfl
  | up pointer =>
    cases h
    rfl

theorem handle_silent {e : Event} {s : Screen} (h : (handle e s).2 = none) :
    (handle e s).1 = s := by
  cases e with
  | down pointer position | move pointer position =>
    cases position with
    | none => rfl
    | some position => cases h
  | up pointer => cases h

theorem contact_some {e : Event} {contact : Contact} (h : w.contact e = some contact) :
    e.isUp = false ∧
      contact = ((w.contacts e.pointer).getD {}).note (handle e w.screen).2 := by
  unfold Watched.contact at h
  split at h
  · cases h
  · rename_i hup
    exact ⟨Bool.not_eq_true _ ▸ hup,(Option.some.inj h).symm⟩

theorem getD_touchId (hc : Coherent w) {pointer touchId : ℤ}
    (h : ((w.contacts pointer).getD {}).touchId = some touchId) : touchId = pointerId pointer := by
  cases hp : w.contacts pointer with
  | none =>
    rw [hp] at h
    cases h
  | some contact =>
    rw [hp] at h
    exact hc.ids pointer contact touchId hp h

theorem contact_touchId (hc : Coherent w) {e : Event} {contact : Contact} {touchId : ℤ}
    (h : w.contact e = some contact) (ht : contact.touchId = some touchId) :
    touchId = pointerId e.pointer := by
  rw [(contact_some h).2] at ht
  cases hm : (handle e w.screen).2 with
  | none =>
    rw [hm] at ht
    exact getD_touchId hc ht
  | some message =>
    simp only [hm, Contact.note, Option.some.injEq] at ht
    cases hid : ((w.contacts e.pointer).getD {}).touchId with
    | none =>
      rw [hid, Option.getD_none] at ht
      exact ht ▸ handle_touchId hm
    | some before =>
      rw [hid, Option.getD_some] at ht
      exact ht ▸ getD_touchId hc hid

/-- The latest place is on the screen as soon as a finger has one. -/
theorem latest_step (hc : Coherent w) {e : Event} {p : ℤ} {contact : Contact} {own : Percent}
    (hp : Function.update w.contacts e.pointer (w.contact e) p = some contact)
    (hl : contact.last = some own) :
    (if e.isUp then w.latest else ((handle e w.screen).2.map TouchMessage.position).or w.latest) =
      some (handle e w.screen).1.last := by
  have hother : p ≠ e.pointer → w.latest = some w.screen.last := by
    intro hne
    rw [Function.update_of_ne hne] at hp
    exact hc.known p contact own hp hl
  cases hm : (handle e w.screen).2 with
  | some message =>
    cases hup : e.isUp with
    | false => simp [handle_place hm]
    | true =>
      -- the finger that is lifted is gone, and the place stays
      have hne : p ≠ e.pointer := by
        rintro rfl
        simp [Watched.contact, hup] at hp
      cases e with
      | up pointer => exact hother hne
      | down pointer position | move pointer position => cases hup
  | none =>
    have hup : e.isUp = false := by
      cases e with
      | up pointer => cases hm
      | down pointer position | move pointer position => rfl
    rw [handle_silent hm]
    simp only [hup, Bool.false_eq_true, if_false, Option.map_none, Option.none_or]
    by_cases hne : p = e.pointer
    · subst hne
      rw [Function.update_self] at hp
      rw [(contact_some hp).2, hm] at hl
      cases hbefore : w.contacts e.pointer with
      | none =>
        rw [hbefore] at hl
        cases hl
      | some before =>
        rw [hbefore] at hl
        exact hc.known e.pointer before own hbefore hl
    · exact hother hne

theorem coherent_step (e : Event) (hc : Coherent w) : Coherent (step e w) := by
  cases ho : occurs e w with
  | false =>
    rw [step_absent ho]
    exact hc
  | true =>
    rw [step_occurs ho]
    constructor
    · intro p contact touchId hp ht
      by_cases hpe : p = e.pointer
      · subst hpe
        simp only [Function.update_self] at hp
        exact contact_touchId hc hp ht
      · simp only [Function.update_of_ne hpe] at hp
        exact hc.ids p contact touchId hp ht
    · intro p contact own hp hl
      exact latest_step hc hp hl

theorem sent_some {e : Event} {message : TouchMessage} (h : sent e w = some message) :
    occurs e w = true ∧ (handle e w.screen).2 = some message := by
  unfold sent at h
  split at h
  · exact ⟨‹_›,h⟩
  · cases h

theorem sent_sameId (hc : Coherent w) (e : Event) (contact : Contact) (message : TouchMessage)
    (touchId : ℤ) (hp : w.contacts e.pointer = some contact) (hm : sent e w = some message)
    (ht : contact.touchId = some touchId) : message.touchId = touchId := by
  rw [handle_touchId (sent_some hm).2, hc.ids e.pointer contact touchId hp ht]

theorem preserved_iff_separate (hc : Coherent w) {e : Event} (hup : e.isUp = false) :
    Preserved e w ↔ Separate (step e w).contacts := by
  constructor
  · exact Preserved.identities
  · intro h
    apply Preserved.mk h (sent_sameId hc e)
    intro contact message own hisUp
    rw [hup] at hisUp
    cases hisUp

/-- A finger with no id is apart from the others. -/
theorem separate_unsent {contacts : ℤ → Option Contact} {pointer : ℤ} {now : Option Contact}
    (h : Separate contacts) (hnow : ∀ a, now = some a → a.touchId = none) :
    Separate (Function.update contacts pointer now) := by
  rw [separate_update h]
  intro other a b touchId _ ha _ hid
  rw [hnow a ha] at hid
  cases hid

theorem down_follows (hc : Coherent w) (hs : Separate w.contacts) (pointer : ℤ)
    (position : Option Percent) :
    Preserved (.down pointer position) w ↔ Guard (.down pointer position) w := by
  rw [preserved_iff_separate hc rfl]
  cases hp : w.contacts pointer with
  | some contact =>
    rw [step_absent (by simp [occurs, hp])]
    exact iff_of_true hs (fun _ h => absurd h (by rw [hp]; exact nofun))
  | none =>
    rw [step_occurs (by simp [occurs, hp])]
    cases position with
    | none =>
      apply iff_of_true _ (fun h => absurd rfl h)
      apply separate_unsent hs
      intro a ha
      have hcontact := (contact_some ha).2
      rw [Event.pointer, hp] at hcontact
      rw [hcontact]
      rfl
    | some position =>
      simp only [Watched.contact, Event.isUp, Event.pointer, hp, Bool.false_eq_true, if_false]
      rw [first_sent hc hs pointer _ rfl, Guard, hp]
      simp

theorem move_follows (hc : Coherent w) (hs : Separate w.contacts) (pointer : ℤ)
    (position : Option Percent) :
    Preserved (.move pointer position) w ↔ Guard (.move pointer position) w := by
  rw [preserved_iff_separate hc rfl]
  cases hp : w.contacts pointer with
  | none =>
    rw [step_absent (by simp [occurs, hp])]
    apply iff_of_true hs
    intro _ contact hcontact
    rw [hp] at hcontact
    cases hcontact
  | some contact =>
    rw [step_occurs (by simp [occurs, hp])]
    cases position with
    | none =>
      apply iff_of_true _ (fun h => absurd rfl h)
      have hsame : w.contact (.move pointer none) = w.contacts pointer := by
        simp [Watched.contact, Event.isUp, Event.pointer, hp, handle, Contact.note]
      have hkept : Function.update w.contacts pointer (w.contacts pointer) = w.contacts :=
        Function.update_eq_self _ _
      simpa only [hsame, Event.pointer, hkept] using hs
    | some position =>
      simp only [Watched.contact, Event.isUp, Event.pointer, hp, Bool.false_eq_true, if_false,
        Option.getD_some]
      cases hid : contact.touchId with
      | none =>
        have hnoted : (contact.note (handle (.move pointer (some position)) w.screen).2).touchId =
            some (pointerId pointer) := by
          simp [handle, handleTouchModeMove, Contact.note, hid, TouchMessage.touchId]
        rw [first_sent hc hs pointer _ hnoted, Guard]
        simp [hp, hid]
      | some touchId =>
        -- the finger keeps its id
        apply iff_of_true
        · rw [separate_update hs]
          rintro other a b found hne ⟨⟩ hb ha
          have hsame : contact.touchId = some found := by
            simpa [handle, Contact.note, hid] using ha
          exact hs pointer other contact b found hne.symm hp hb hsame
        · intro _ other hother hnone
          rw [hp] at hother
          cases hother
          rw [hid] at hnone
          cases hnone

theorem up_follows (hc : Coherent w) (hs : Separate w.contacts) (pointer : ℤ) :
    Preserved (.up pointer) w ↔ Guard (.up pointer) w := by
  have hsep : Separate (step (.up pointer) w).contacts := by
    cases ho : occurs (.up pointer) w with
    | false =>
      rw [step_absent ho]
      exact hs
    | true =>
      rw [step_occurs ho]
      apply separate_unsent hs
      intro a ha
      cases (contact_some ha).1
  constructor
  · intro h contact own place hp hl hplace
    have hsent : sent (.up pointer) w =
        some (.button w.screen.last (pointerId pointer) false) := by
      simp [sent, occurs, hp, handle, handleTouchModeUp]
    have hown := h.ownPlace contact _ own rfl hp hsent hl
    rw [hc.known pointer contact own hp hl] at hplace
    exact (Option.some.inj hplace).symm.trans hown
  · intro h
    apply Preserved.mk hsep (sent_sameId hc _)
    intro contact message own _ hp hm hl
    obtain ⟨-, hmessage⟩ := sent_some hm
    cases hmessage
    exact h contact own w.screen.last hp hl (hc.known pointer contact own hp hl)

theorem step_follows (hc : Coherent w) (hs : Separate w.contacts) (e : Event) :
    Preserved e w ↔ Guard e w := by
  cases e with
  | down pointer position => exact down_follows hc hs pointer position
  | move pointer position => exact move_follows hc hs pointer position
  | up pointer => exact up_follows hc hs pointer

end

/-- In a run every finger keeps an id of its own and is lifted at its own place,
exactly when every event of it meets the guard. -/
theorem touches_preserved (es : List Event) :
    Meets step Preserved es {} ↔ Meets step Guard es {} := by
  have hagree : ∀ e w, Coherent w ∧ Separate w.contacts → (Preserved e w ↔ Guard e w) :=
    fun e _ h => step_follows h.1 h.2 e
  have hstep : ∀ e w, Guard e w → Coherent w ∧ Separate w.contacts →
      Coherent (step e w) ∧ Separate (step e w).contacts := by
    intro e w hg h
    exact ⟨coherent_step e h.1,((step_follows h.1 h.2 e).mpr hg).identities⟩
  have hi : Coherent {} ∧ Separate (Watched.contacts {}) := by
    constructor
    · constructor <;> intro p contact _ h <;> cases h
    · intro p q a b touchId _ h
      cases h
  exact meets_iff_of_invariant step hagree hstep es {} hi

/-- One finger is down at the left and another at the right, and the first is
lifted at the right. -/
theorem lifted_elsewhere : ¬Meets step Preserved
    [.down 1 (some ⟨0,0⟩), .down 2 (some ⟨1,0⟩), .up 1] {} := by
  rintro ⟨-, -, h, -⟩
  have hplace := h.ownPlace ⟨some 2,some ⟨0,0⟩⟩ (.button ⟨1,0⟩ 2 false) ⟨0,0⟩ (by decide)
    (by decide +kernel) (by decide +kernel) (by decide)
  revert hplace
  decide

end CloudPlay.TouchIdentities
