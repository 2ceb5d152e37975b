import Mathlib.Data.List.Perm.Basic
import Mathlib.Data.List.Nodup
import Mathlib.Tactic.Basic

/-!
# Tables of rows with a primary key

A table is a list of rows in insertion order in which no key occurs twice.
The key is a function of the row, so an update is admitted only when it is
shown not to move the row. Lookup by key determines membership, and every
operation is described by what lookup returns afterwards.
-/

set_option autoImplicit false

namespace KeyedTable

structure Table {α κ : Type*} (key : α → κ) where
  rows : List α
  nodup : (rows.map key).Nodup

variable {α κ : Type*} {key : α → κ}

theorem map_eq_self_iff {xs : List α} {f : α → α} : xs.map f = xs ↔ ∀ x ∈ xs, f x = x := by
  conv_lhs => rw [← List.map_id xs, List.map_map]
  exact List.map_inj_left

namespace Table

instance : Membership α (Table key) := ⟨fun t r => r ∈ t.rows⟩

theorem mem_rows (t : Table key) (r : α) : r ∈ t ↔ r ∈ t.rows := Iff.rfl

instance (t : Table key) (p : α → Prop) [DecidablePred p] : Decidable (∀ r ∈ t, p r) :=
  inferInstanceAs (Decidable (∀ r ∈ t.rows, p r))

@[ext] theorem ext {t u : Table key} (h : t.rows = u.rows) : t = u := by
  cases t
  cases u
  congr

def empty : Table key := ⟨[], List.nodup_nil⟩

theorem not_mem_empty (r : α) : r ∉ (empty : Table key) := List.not_mem_nil

theorem key_injective (t : Table key) {r q : α} (hr : r ∈ t) (hq : q ∈ t)
    (h : key r = key q) : r = q :=
  List.inj_on_of_nodup_map t.nodup hr hq h

def filter (t : Table key) (p : α → Bool) : Table key :=
  ⟨t.rows.filter p, (List.filter_sublist.map key).nodup t.nodup⟩

@[simp] theorem mem_filter (t : Table key) (p : α → Bool) (r : α) :
    r ∈ t.filter p ↔ r ∈ t ∧ p r = true := List.mem_filter

theorem map_keys (rows : List α) (f : α → α) (hf : ∀ r, key (f r) = key r) :
    (rows.map f).map key = rows.map key := by
  simp [List.map_map, Function.comp_def, hf]

/-- One function applied to every row. -/
def map (t : Table key) (f : α → α) (hf : ∀ r, key (f r) = key r) : Table key :=
  ⟨t.rows.map f, by rw [map_keys t.rows f hf]; exact t.nodup⟩

theorem mem_map (t : Table key) (f : α → α) (hf : ∀ r, key (f r) = key r) (r : α) :
    r ∈ t.map f hf ↔ ∃ q ∈ t, f q = r := List.mem_map

variable [DecidableEq κ]

def get? (t : Table key) (k : κ) : Option α := t.rows.find? (fun r => key r = k)

theorem get?_eq_some (t : Table key) (k : κ) (r : α) :
    t.get? k = some r ↔ r ∈ t ∧ key r = k := by
  constructor
  · intro h
    exact ⟨List.mem_of_find?_eq_some h, by simpa using List.find?_some h⟩
  · rintro ⟨hr, rfl⟩
    cases h : t.get? (key r) with
    | none =>
      have hn := List.find?_eq_none.mp h r hr
      simp at hn
    | some q =>
      have hq : key q = key r := by simpa using List.find?_some h
      rw [t.key_injective (List.mem_of_find?_eq_some h) hr hq]

theorem get?_eq_none (t : Table key) (k : κ) :
    t.get? k = none ↔ ∀ r ∈ t, key r ≠ k := by
  simp [get?, mem_rows]

theorem mem_iff_get? (t : Table key) (r : α) : r ∈ t ↔ t.get? (key r) = some r := by
  simp [get?_eq_some]

theorem get?_mem {t : Table key} {k : κ} {r : α} (h : t.get? k = some r) : r ∈ t :=
  ((t.get?_eq_some k r).mp h).1

theorem get?_key {t : Table key} {k : κ} {r : α} (h : t.get? k = some r) : key r = k :=
  ((t.get?_eq_some k r).mp h).2

@[simp] theorem get?_empty (k : κ) : (empty : Table key).get? k = none := rfl

/-- The update of one row; nothing happens when the key is absent. -/
def modify (t : Table key) (k : κ) (f : α → α)
    (hf : ∀ r, key (f r) = key r := by intro _; rfl) : Table key :=
  t.map (fun r => if key r = k then f r else r) (by intro r; split <;> simp [hf])

theorem mem_modify (t : Table key) (k : κ) (f : α → α) (hf : ∀ r, key (f r) = key r) (r : α) :
    r ∈ t.modify k f hf ↔ ∃ q ∈ t, (if key q = k then f q else q) = r :=
  t.mem_map _ _ r

/-- A row survives the update unless it is the one updated and changes. -/
theorem mem_modify_iff (t : Table key) (k : κ) (f : α → α) (hf : ∀ r, key (f r) = key r) {r : α}
    (hr : r ∈ t) : r ∈ t.modify k f hf ↔ (key r = k → f r = r) := by
  rw [mem_modify]
  constructor
  · rintro ⟨q, hq, hqr⟩ hk
    have hkey : key q = key r := by
      rw [← hqr]
      split <;> simp [hf]
    obtain rfl := t.key_injective hq hr hkey
    rwa [if_pos hk] at hqr
  · intro h
    refine ⟨r,hr,?_⟩
    split
    · exact h (by assumption)
    · rfl

theorem get?_modify (t : Table key) (k k' : κ) (f : α → α) (hf : ∀ r, key (f r) = key r) :
    (t.modify k f hf).get? k' = if k' = k then (t.get? k).map f else t.get? k' := by
  have hkey : ∀ r, key (if key r = k then f r else r) = key r := by
    intro r
    split <;> simp [hf]
  have hfind : (t.modify k f hf).get? k' =
      (t.get? k').map (fun r => if key r = k then f r else r) := by
    simp only [get?, modify, map, List.find?_map, Function.comp_def, hkey]
  rw [hfind]
  by_cases h : k' = k
  · subst h
    rw [if_pos rfl]
    cases hr : t.get? k' with
    | none => rfl
    | some r => simp [get?_key hr]
  · rw [if_neg h]
    cases hr : t.get? k' with
    | none => rfl
    | some r => simp [get?_key hr, h]

@[simp] theorem get?_modify_self (t : Table key) (k : κ) (f : α → α)
    (hf : ∀ r, key (f r) = key r) : (t.modify k f hf).get? k = (t.get? k).map f := by
  simp [get?_modify]

theorem get?_modify_ne (t : Table key) {k k' : κ} (f : α → α)
    (hf : ∀ r, key (f r) = key r) (h : k' ≠ k) : (t.modify k f hf).get? k' = t.get? k' := by
  simp [get?_modify, h]

/-- A new row; its key must be free. -/
def insert (t : Table key) (r : α) (h : t.get? (key r) = none) : Table key :=
  ⟨t.rows ++ [r], by
    rw [get?_eq_none] at h
    rw [List.map_append, List.map_singleton]
    refine List.nodup_append.mpr ⟨t.nodup, List.nodup_singleton _, ?_⟩
    intro a ha b hb
    obtain ⟨q, hq, rfl⟩ := List.mem_map.mp ha
    rw [List.mem_singleton.mp hb]
    exact h q hq⟩

/-- Insertion that fails on a key already present. -/
def insert? (t : Table key) (r : α) : Option (Table key) :=
  if h : t.get? (key r) = none then some (t.insert r h) else none

theorem insert?_eq_some {t u : Table key} {r : α} :
    t.insert? r = some u ↔ ∃ h : t.get? (key r) = none, t.insert r h = u := by
  simp only [insert?]
  split
  · rename_i h
    exact ⟨fun hu => ⟨h, Option.some.inj hu⟩, fun ⟨_, hu⟩ => congrArg some hu⟩
  · rename_i h
    exact ⟨fun hu => by simp at hu, fun ⟨hk, _⟩ => absurd hk h⟩

@[simp] theorem mem_insert (t : Table key) (r q : α) (h : t.get? (key r) = none) :
    q ∈ t.insert r h ↔ q ∈ t ∨ q = r := by
  simp [mem_rows, insert]

theorem get?_insert (t : Table key) (r : α) (h : t.get? (key r) = none) (k : κ) :
    (t.insert r h).get? k = if k = key r then some r else t.get? k := by
  by_cases hk : k = key r
  · rw [if_pos hk, get?_eq_some]
    exact ⟨by simp, hk.symm⟩
  · rw [if_neg hk]
    simp [get?, insert, List.find?_append, Ne.symm hk]

theorem get?_filter (t : Table key) (p : α → Bool) (k : κ) :
    (t.filter p).get? k = (t.get? k).filter p := by
  cases h : t.get? k with
  | none =>
    rw [get?_eq_none] at h
    simp only [Option.filter_none, get?_eq_none]
    exact fun r hr => h r ((t.mem_filter p r).mp hr).1
  | some r =>
    obtain ⟨hr, hk⟩ := (t.get?_eq_some k r).mp h
    by_cases hp : p r = true
    · rw [Option.filter_some, if_pos hp, get?_eq_some]
      exact ⟨(t.mem_filter p r).mpr ⟨hr, hp⟩, hk⟩
    · rw [Option.filter_some, if_neg hp, get?_eq_none]
      intro q hq hqk
      obtain ⟨hq', hp'⟩ := (t.mem_filter p q).mp hq
      rw [t.key_injective hq' hr (hqk.trans hk.symm)] at hp'
      exact hp hp'

theorem get?_map (t : Table key) (f : α → α) (hf : ∀ r, key (f r) = key r) (k : κ) :
    (t.map f hf).get? k = (t.get? k).map f := by
  have hkey : (fun r => decide (key r = k)) ∘ f = fun r => decide (key r = k) := by
    funext r
    exact congrArg (fun i => decide (i = k)) (hf r)
  simp only [get?, map, List.find?_map, hkey]

/-- Lookup in a table whose rows are those of another, each rewritten in place. -/
theorem get?_of_map {t u : Table key} {f : α → α} (hf : ∀ r, key (f r) = key r)
    (h : u.rows = t.rows.map f) (k : κ) : u.get? k = (t.get? k).map f := by
  rw [show u = t.map f hf from ext h, get?_map]

theorem modify_rows (t : Table key) (k : κ) (f : α → α) (hf : ∀ r, key (f r) = key r) :
    (t.modify k f hf).rows = t.rows.map (fun r => if key r = k then f r else r) := rfl

section Images
variable (t : Table key) (f : α → α) (hf : ∀ r, key (f r) = key r)

theorem modify_map (k : κ) (g : α → α) (hg : ∀ r, key (g r) = key r)
    (h : ∀ r, g (f r) = f (g r)) : (t.map f hf).modify k g hg = (t.modify k g hg).map f hf := by
  apply ext
  simp only [modify, map, List.map_map]
  refine List.map_congr_left fun r _ => ?_
  by_cases hk : key r = k <;> simp [hf, hk, h]

theorem insert?_map (r : α) :
    (t.map f hf).insert? (f r) = (t.insert? r).map (fun u => u.map f hf) := by
  have hget : (t.map f hf).get? (key (f r)) = (t.get? (key r)).map f := by rw [hf, get?_map]
  by_cases h : t.get? (key r) = none
  · have h' : (t.map f hf).get? (key (f r)) = none := by rw [hget, h]; rfl
    simp only [insert?, h, h', dif_pos, Option.map_some, Option.some.injEq]
    exact ext (by simp [insert, map])
  · have h' : (t.map f hf).get? (key (f r)) ≠ none := by
      rw [hget]
      simpa using h
    simp [insert?, h, h']

omit [DecidableEq κ] in
theorem filter_map (p : α → Bool) (h : ∀ r, p (f r) = p r) :
    (t.map f hf).filter p = (t.filter p).map f hf := by
  apply ext
  simp [filter, map, List.filter_map, Function.comp_def, h]

end Images

theorem modify_eq_self_iff (t : Table key) (k : κ) (f : α → α) (hf : ∀ r, key (f r) = key r) :
    t.modify k f hf = t ↔ ∀ r ∈ t, key r = k → f r = r := by
  rw [Table.ext_iff, modify_rows, map_eq_self_iff]
  refine forall_congr' fun r => forall_congr' fun _ => ?_
  by_cases hk : key r = k <;> simp [hk]

/-- A row and the rows with another key are all rows. -/
theorem perm_filter_ne {t : Table key} {k : κ} {r : α} (h : t.get? k = some r) :
    t.rows.Perm (r::(t.filter (fun q => key q ≠ k)).rows) := by
  have hkey : ∀ q ∈ (t.filter (fun q => key q ≠ k)).rows, key q ≠ k := fun q hq => by
    simpa using ((t.mem_filter _ q).mp hq).2
  have hrest : r ∉ (t.filter (fun q => key q ≠ k)).rows := fun hr => hkey r hr (get?_key h)
  refine (List.perm_ext_iff_of_nodup t.nodup.of_map
    (List.nodup_cons.mpr ⟨hrest,(t.filter _).nodup.of_map⟩)).mpr fun q => ?_
  rw [List.mem_cons]
  constructor
  · intro hq
    by_cases hk : key q = k
    · exact Or.inl (t.key_injective hq (get?_mem h) (hk.trans (get?_key h).symm))
    · exact Or.inr ((t.mem_filter _ q).mpr ⟨hq,by simpa using hk⟩)
  · rintro (rfl | hq)
    · exact get?_mem h
    · exact ((t.mem_filter _ q).mp hq).1

end Table

end KeyedTable
