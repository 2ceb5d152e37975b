import Mathlib.Data.List.Induction

/-!
# Keys held in a log of presses and releases

A log records which key went down or up, oldest first. The last record of a key
decides whether it is held, and a key is not held exactly when each press of it
is followed by a release.
-/

set_option autoImplicit false

namespace PressLog

variable {κ : Type*}

def Released (key : κ) (log : List (κ × Bool)) : Prop :=
  ∀ before after, log = before ++ (key,true)::after → (key,false) ∈ after

section
variable (key : κ) (log : List (κ × Bool)) (c : κ × Bool)

theorem released_nil : Released key [] := by
  intro before after h
  cases before <;> cases h

/-- A press in a log is its last record or a press in the log before that. -/
theorem press_split {before after : List (κ × Bool)} (h : log ++ [c] = before ++ (key,true)::after) :
    after = [] ∧ c = (key,true) ∨
      ∃ rest, after = rest ++ [c] ∧ log = before ++ (key,true)::rest := by
  rcases List.eq_nil_or_concat after with rfl | ⟨rest, d, rfl⟩
  · have hlast := List.append_inj_right' h rfl
    exact Or.inl ⟨rfl,List.singleton_inj.mp hlast⟩
  · rw [List.concat_eq_append] at h ⊢
    rw [← List.cons_append, ← List.append_assoc] at h
    have hlast := List.append_inj_right' h rfl
    rw [← List.singleton_inj.mp hlast]
    exact Or.inr ⟨rest,rfl,List.append_inj_left' h rfl⟩

/-- A last record of another key decides nothing. -/
theorem released_concat_other (hc : c.1 ≠ key) :
    Released key (log ++ [c]) ↔ Released key log := by
  constructor
  · intro h before after hlog
    have hmem := h before (after ++ [c]) (by rw [hlog, List.append_assoc]; rfl)
    rcases List.mem_append.mp hmem with hmem | hmem
    · exact hmem
    · rw [List.mem_singleton] at hmem
      exact absurd (congrArg Prod.fst hmem).symm hc
  · intro h before after hlog
    rcases press_split key log c hlog with ⟨-, rfl⟩ | ⟨rest, rfl, hbefore⟩
    · exact absurd rfl hc
    · exact List.mem_append_left _ (h before rest hbefore)

theorem not_released_press : ¬Released key (log ++ [(key,true)]) := by
  intro h
  cases h log [] rfl

theorem released_release : Released key (log ++ [(key,false)]) := by
  intro before after hlog
  rcases press_split key log _ hlog with ⟨-, h⟩ | ⟨rest, rfl, -⟩
  · cases h
  · simp

end

section
variable [DecidableEq κ] (key : κ) (log more : List (κ × Bool)) (c : κ × Bool)

def touch (held : Bool) (c : κ × Bool) : Bool := if c.1 = key then c.2 else held

def held : Bool := log.foldl (touch key) false

theorem held_append : held key (log ++ more) = more.foldl (touch key) (held key log) :=
  List.foldl_append

theorem held_concat : held key (log ++ [c]) = touch key (held key log) c := by
  rw [held_append]
  rfl

theorem held_presses (keys : List κ) :
    held key (log ++ keys.map (fun k => (k,true))) = (held key log || decide (key ∈ keys)) := by
  induction keys generalizing log with
  | nil => simp
  | cons k keys ih =>
    rw [List.map_cons, List.append_cons, ih, held_concat, touch]
    by_cases hk : k = key
    · simp [hk]
    · simp [hk, Ne.symm hk]

theorem held_releases (keys : List κ) :
    held key (log ++ keys.map (fun k => (k,false))) = (held key log && decide (key ∉ keys)) := by
  induction keys generalizing log with
  | nil => simp
  | cons k keys ih =>
    rw [List.map_cons, List.append_cons, ih, held_concat, touch]
    by_cases hk : k = key
    · simp [hk]
    · simp [hk, Ne.symm hk]

theorem released_iff : Released key log ↔ held key log = false := by
  induction log using List.reverseRecOn with
  | nil => exact ⟨fun _ => rfl,fun _ => released_nil key⟩
  | append_singleton log c ih =>
    rw [held_concat]
    by_cases hc : c.1 = key
    · obtain ⟨k, down⟩ := c
      subst hc
      cases down with
      | true => simp [touch, not_released_press]
      | false => simp [touch, released_release]
    · rw [released_concat_other _ _ _ hc, ih, touch, if_neg hc]

/-- Every record of the log changes what is held. -/
def Changing : Prop := ∀ before c after, log = before ++ c::after → held c.1 before ≠ c.2

theorem changing_nil : Changing ([] : List (κ × Bool)) := by
  intro before c after h
  cases before <;> cases h

theorem changing_concat : Changing (log ++ [c]) ↔ Changing log ∧ held c.1 log ≠ c.2 := by
  constructor
  · intro h
    refine ⟨fun before d after hlog => ?_,h log c [] rfl⟩
    exact h before d (after ++ [c]) (by rw [hlog, List.append_assoc, List.cons_append])
  · rintro ⟨h, hc⟩ before d after hlog
    rcases List.eq_nil_or_concat after with rfl | ⟨rest, d', rfl⟩
    · obtain ⟨rfl, hlast⟩ := List.append_inj' hlog rfl
      cases hlast
      exact hc
    · rw [List.concat_eq_append, ← List.cons_append, ← List.append_assoc] at hlog
      exact h before d rest (List.append_inj_left' hlog rfl)

end
end PressLog
