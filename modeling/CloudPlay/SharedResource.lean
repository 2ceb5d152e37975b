import Mathlib.Data.List.Count
import Mathlib.Logic.Function.Basic
import Mathlib.Data.Int.Cast.Basic
import Mathlib.Tactic.Basic

/-!
# Resources shared by counting their users

A resource is there for as long as someone uses it. Users name the resource
they use by its key, and a count is kept for each key. The count agrees with
the users and the resource with the count after every first or further use
and after every end of one, the last included.
-/

set_option autoImplicit false

namespace SharedResource

variable {ω κ : Type*} [DecidableEq κ]

def users (key : ω → Option κ) (us : List ω) (k : κ) : ℕ := us.countP (fun u => key u = some k)

section
variable {key : ω → Option κ} {us rest : List ω} {u : ω} {k : κ}

theorem users_pos_iff : 0 < users key us k ↔ ∃ u ∈ us, key u = some k := by
  simp [users, List.countP_pos_iff]

theorem users_perm (h : us.Perm rest) (k : κ) : users key us k = users key rest k := h.countP_eq _

theorem users_cons (u : ω) (us : List ω) (k : κ) :
    users key (u::us) k = users key us k+(if key u = some k then 1 else 0) := by
  rw [users, List.countP_cons]
  simp [users]

theorem users_cons_self (hk : key u = some k) : users key (u::us) k = users key us k+1 := by
  rw [users_cons, if_pos hk]

theorem users_cons_ne (hk : key u ≠ some k) : users key (u::us) k = users key us k := by
  rw [users_cons, if_neg hk, Nat.add_zero]

/-- Two users of one key are at least two. -/
theorem users_two {u v : ω} (hu : u ∈ us) (hv : v ∈ us) (hne : u ≠ v) (hku : key u = some k)
    (hkv : key v = some k) : 2 ≤ users key us k := by
  obtain ⟨before, after, rfl⟩ := List.append_of_mem hu
  have hv' : v ∈ before ++ after := by
    rcases List.mem_append.mp hv with h | h
    · exact List.mem_append_left _ h
    · rcases List.mem_cons.mp h with h | h
      · exact absurd h.symm hne
      · exact List.mem_append_right _ h
  rw [users_perm List.perm_middle, users_cons_self hku]
  exact Nat.succ_le_succ (users_pos_iff.mpr ⟨v,hv',hkv⟩)

end

/-- Every count is the number of users, and what is used is there. -/
structure Balanced (count : κ → ℤ) (present : κ → Prop) (key : ω → Option κ) (us : List ω) :
    Prop where
  counts : ∀ k, count k = users key us k
  present : ∀ k, present k ↔ 0 < users key us k

variable {count count' : κ → ℤ} {present present' : κ → Prop} {key : ω → Option κ}
variable {us us' : List ω} {u : ω} {k : κ}

/-- One more user: the count of its key is one higher, whether the resource
was there or comes with it. -/
theorem Balanced.acquire (h : Balanced count present key us) (hus : us'.Perm (u::us))
    (hk : key u = some k) (hcount : ∀ j, count' j = if j = k then count k+1 else count j)
    (hpresent : ∀ j, present' j ↔ j = k ∨ present j) : Balanced count' present' key us' where
  counts := by
    intro j
    rw [hcount, users_perm hus]
    by_cases hj : j = k
    · subst hj
      rw [if_pos rfl, h.counts, users_cons_self hk, Int.natCast_add, Int.natCast_one]
    · have hne : key u ≠ some j := fun h => hj (Option.some.inj (h.symm.trans hk))
      rw [if_neg hj, h.counts, users_cons_ne hne]
  present := by
    intro j
    rw [hpresent, h.present, users_perm hus, users_cons]
    by_cases hj : j = k
    · simp [hj, hk]
    · have hne : key u ≠ some j := fun h => hj (Option.some.inj (h.symm.trans hk))
      simp [hj, hne]

/-- One user less: the count of its key is one lower, and the resource goes
when the count is zero. -/
theorem Balanced.release (h : Balanced count present key us) (hus : us.Perm (u::us'))
    (hk : key u = some k) (hcount : ∀ j, count' j = if j = k then count k-1 else count j)
    (hpresent : ∀ j, present' j ↔ present j ∧ ¬ (j = k ∧ count k-1 = 0)) :
    Balanced count' present' key us' where
  counts := by
    intro j
    rw [hcount]
    by_cases hj : j = k
    · subst hj
      rw [if_pos rfl, h.counts, users_perm hus, users_cons_self hk, Int.natCast_add]
      omega
    · have hne : key u ≠ some j := fun h => hj (Option.some.inj (h.symm.trans hk))
      rw [if_neg hj, h.counts, users_perm hus, users_cons_ne hne]
  present := by
    intro j
    rw [hpresent, h.present, h.counts, users_perm hus, users_perm hus, users_cons,
      users_cons_self hk]
    by_cases hj : j = k
    · subst hj
      simp only [hk, if_true, true_and]
      omega
    · have hne : key u ≠ some j := fun h => hj (Option.some.inj (h.symm.trans hk))
      simp [hj, hne]

/-- Before the last end of a use no other user is left. -/
theorem Balanced.last (h : Balanced count present key us) (hu : u ∈ us) (hk : key u = some k)
    (hlast : count k-1 = 0) {v : ω} (hv : v ∈ us) (hkv : key v = some k) : v = u := by
  by_contra hne
  have htwo := users_two hv hu hne hkv hk
  have hcount := h.counts k
  omega

end SharedResource
