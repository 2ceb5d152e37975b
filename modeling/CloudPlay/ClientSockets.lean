import Mathlib.Data.List.Basic
import Mathlib.Tactic.Basic

/-!
# The sockets of a client

Every socket a service has created, by its number. A socket that is connecting
opens or fails, an open one closes. On the web a socket can be closed at any
time; elsewhere closing one that is still connecting does nothing, since the
connection is only known once it is there.
-/

set_option autoImplicit false

namespace CloudPlay.ClientSockets

inductive ReadyState
  | connecting | open | closing | closed
  deriving DecidableEq

structure Sockets where
  states : List ReadyState := []
  deriving DecidableEq

namespace Sockets

def state (w : Sockets) (k : ℕ) : Option ReadyState := w.states[k]?

/-- The number of the next socket. -/
def next (w : Sockets) : ℕ := w.states.length

def connect (w : Sockets) : Sockets := ⟨w.states ++ [.connecting]⟩

def set (w : Sockets) (k : ℕ) (r : ReadyState) : Sockets := ⟨w.states.set k r⟩

/-- What is left of a state after `close()`. -/
def closed (web : Bool) : ReadyState → ReadyState
  | .connecting => if web then .closing else .connecting
  | .open => .closing
  | r => r

def close (w : Sockets) (web : Bool) : Option ℕ → Sockets
  | none => w
  | some k =>
    match w.state k with
    | none => w
    | some r => w.set k (closed web r)

def Live (w : Sockets) (k : ℕ) : Prop := w.state k = some .connecting ∨ w.state k = some .open

/-- There is a callback to come. -/
def Due (w : Sockets) (k : ℕ) : Prop := w.Live k ∨ w.state k = some .closing

def CurrentLive (w : Sockets) (socket : Option ℕ) : Prop := ∃ k, socket = some k ∧ w.Live k

def CurrentOpen (w : Sockets) (socket : Option ℕ) : Prop :=
  ∃ k, socket = some k ∧ w.state k = some .open

instance (w : Sockets) (k : ℕ) : Decidable (w.Live k) := inferInstanceAs (Decidable (_ ∨ _))

instance (w : Sockets) (k : ℕ) : Decidable (w.Due k) := inferInstanceAs (Decidable (_ ∨ _))


theorem not_currentLive_none (w : Sockets) : ¬ w.CurrentLive none := by
  rintro ⟨k, hk, -⟩
  cases hk

theorem not_currentOpen_none (w : Sockets) : ¬ w.CurrentOpen none := by
  rintro ⟨k, hk, -⟩
  cases hk

instance (w : Sockets) : (socket : Option ℕ) → Decidable (w.CurrentLive socket)
  | none => isFalse w.not_currentLive_none
  | some k => decidable_of_iff (w.Live k)
    ⟨fun h => ⟨k,rfl,h⟩,fun ⟨_, h, hl⟩ => Option.some.inj h ▸ hl⟩

instance (w : Sockets) : (socket : Option ℕ) → Decidable (w.CurrentOpen socket)
  | none => isFalse w.not_currentOpen_none
  | some k => decidable_of_iff (w.state k = some .open)
    ⟨fun h => ⟨k,rfl,h⟩,fun ⟨_, h, ho⟩ => Option.some.inj h ▸ ho⟩

section
variable {w : Sockets} {web : Bool} {socket : Option ℕ} {k j : ℕ} {r r' : ReadyState}

theorem state_connect (w : Sockets) (k : ℕ) :
    w.connect.state k = if k = w.next then some .connecting else w.state k := by
  show (w.states ++ [ReadyState.connecting])[k]? = _
  by_cases hk : k = w.next
  · rw [if_pos hk, hk]
    exact List.getElem?_concat_length
  · rw [if_neg hk]
    rcases Nat.lt_or_gt_of_ne hk with h | h
    · exact List.getElem?_append_left h
    · have hend : (w.states ++ [ReadyState.connecting]).length ≤ k := by
        rw [List.length_append]
        exact h
      rw [List.getElem?_eq_none hend]
      exact (List.getElem?_eq_none (Nat.le_of_lt h)).symm

theorem state_set (h : w.state k = some r') (j : ℕ) :
    (w.set k r).state j = if j = k then some r else w.state j := by
  simp only [state, set]
  by_cases hj : j = k
  · subst hj
    obtain ⟨hlt, -⟩ := List.getElem?_eq_some_iff.mp h
    rw [if_pos rfl, List.getElem?_set_self hlt]
  · rw [if_neg hj, List.getElem?_set_ne (Ne.symm hj)]

theorem state_close_other (h : socket ≠ some k) : (w.close web socket).state k = w.state k := by
  unfold close
  split
  · rfl
  · rename_i j
    split
    · rfl
    · rename_i r hr
      rw [state_set hr, if_neg fun hk => h (congrArg some hk.symm)]

theorem state_close (h : w.state k = some r) :
    (w.close web (some k)).state k = some (closed web r) := by
  simp only [close, h]
  rw [state_set h, if_pos rfl]

theorem due_state (h : w.Due k) : ∃ r, w.state k = some r := by
  rcases h with (h | h) | h
  · exact ⟨_,h⟩
  · exact ⟨_,h⟩
  · exact ⟨_,h⟩

theorem none_due_iff (w : Sockets) : (∀ k, ¬ w.Due k) ↔ ∀ r ∈ w.states, r = .closed := by
  constructor
  · intro h r hr
    obtain ⟨k, hk⟩ := List.mem_iff_getElem?.mp hr
    have hnot := h k
    unfold Due Live state at hnot
    rw [hk] at hnot
    cases r <;> simp at hnot ⊢
  · intro h k hk
    obtain ⟨r, hr⟩ := due_state hk
    obtain rfl := h r (List.mem_iff_getElem?.mpr ⟨k,hr⟩)
    unfold Due Live at hk
    rw [hr] at hk
    simp at hk

theorem none_closing_iff (w : Sockets) :
    (∀ k, w.state k ≠ some .closing) ↔ .closing ∉ w.states := by
  rw [List.mem_iff_getElem?, not_exists]
  rfl

instance (w : Sockets) : Decidable (∀ k, ¬ w.Due k) := decidable_of_iff _ w.none_due_iff.symm

instance (w : Sockets) : Decidable (∀ k, w.state k ≠ some .closing) :=
  decidable_of_iff _ w.none_closing_iff.symm

theorem connect_current (w : Sockets) : w.connect.CurrentLive (some w.next) := by
  refine ⟨w.next,rfl,Or.inl ?_⟩
  rw [state_connect, if_pos rfl]

theorem connect_due (h : w.connect.Due k) : k = w.next ∨ w.Due k := by
  by_cases hk : k = w.next
  · exact Or.inl hk
  · unfold Due Live at h
    rw [state_connect, if_neg hk] at h
    exact Or.inr h

theorem set_due (h : w.state k = some r') (hj : j ≠ k) : (w.set k r).Due j ↔ w.Due j := by
  unfold Due Live
  rw [state_set h, if_neg hj]

theorem set_live (h : w.state k = some r') (hj : j ≠ k) : (w.set k r).Live j ↔ w.Live j := by
  unfold Live
  rw [state_set h, if_neg hj]

theorem set_closed_due (h : w.state k = some r') : ¬ (w.set k .closed).Due k := by
  unfold Due Live
  rw [state_set h, if_pos rfl]
  simp

theorem set_open_live (h : w.state k = some r') : (w.set k .open).Live k := by
  unfold Live
  rw [state_set h, if_pos rfl]
  exact Or.inr rfl

theorem close_due (h : (w.close web socket).Due k) : w.Due k := by
  by_cases hk : socket = some k
  · subst hk
    cases hr : w.state k with
    | none => simpa [close, hr] using h
    | some r =>
      unfold Due Live at h ⊢
      rw [state_close hr] at h
      cases r <;> simp [closed] at h
      · exact Or.inl (Or.inl hr)
      · exact Or.inl (Or.inr hr)
      · exact Or.inr hr
  · unfold Due Live at h ⊢
    rwa [state_close_other hk] at h

end

end Sockets

end CloudPlay.ClientSockets
