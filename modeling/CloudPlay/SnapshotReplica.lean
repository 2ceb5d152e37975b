import Mathlib.Data.Set.Basic
import Mathlib.Order.Lattice

/-!
# A replica fed by snapshots that may be late

A primary keeps a value under each key and sends snapshots of some keys, which
arrive in any order. A replica lets the last arrival win. What the newest
snapshot of those that have arrived says of a key agrees with the primary when
nothing newer is on its way. A value can be final: then its key never changes
again and a snapshot may leave it out; and no snapshot that is newer than all
that have arrived takes it back.
-/

set_option autoImplicit false

namespace CloudPlay.SnapshotReplica

variable {K V : Type*} (final : V → Prop)

structure Snapshot (K V : Type*) where
  time : ℕ
  about : K → Prop
  value : K → Option V

/-- `changed` is the time of the last change of a key, `heard` the time of the
newest snapshot about it that has arrived and `newest` what this one says. Of
`waived` keys the replica has not been told. -/
structure Replica (K V : Type*) where
  primary : K → Option V
  changed : K → ℕ
  clock : ℕ
  sent : Set (Snapshot K V)
  shown : K → Option V
  heard : K → ℕ
  newest : K → Option V
  waived : K → Prop

/-- The shown value is the actual one, or a final one is left out. -/
def Agree (shown actual : Option V) : Prop :=
  shown = actual ∨ shown = none ∧ ∀ v ∈ actual, final v

/-- The replica has heard that the value of the key is final. -/
def Finished (r : Replica K V) (k : K) : Prop :=
  (∃ v, r.primary k = some v ∧ final v) ∧ r.changed k ≤ r.heard k

structure InSync (r : Replica K V) : Prop where
  changedPast : ∀ k, r.changed k ≤ r.clock
  heardPast : ∀ k, r.heard k ≤ r.clock
  sentPast : ∀ m ∈ r.sent, m.time ≤ r.clock
  current : ∀ m ∈ r.sent, ∀ k, m.about k → r.changed k ≤ m.time →
    Agree final (m.value k) (r.primary k)
  finals : ∀ m ∈ r.sent, ∀ k, m.about k → ∀ v ∈ m.value k, final v → r.changed k ≤ m.time
  told : ∀ k, r.changed k ≤ r.heard k → Agree final (r.newest k) (r.primary k)
  shownFinals : ∀ k, ∀ v ∈ r.shown k, final v → Finished final r k
  pending : ∀ k, r.heard k < r.changed k →
    (∃ m ∈ r.sent, m.about k ∧ r.changed k ≤ m.time) ∨ r.waived k

/-- The primary goes to new values and sends snapshots of them. -/
structure Publishes (r r' : Replica K V) (new : Set (Snapshot K V)) : Prop where
  clock : r'.clock = r.clock+1
  sent : r'.sent = r.sent ∪ new
  shown : r'.shown = r.shown
  heard : r'.heard = r.heard
  newest : r'.newest = r.newest
  waived : ∀ k, r'.primary k = r.primary k → r.waived k → r'.waived k
  same : ∀ k, r'.primary k = r.primary k → r'.changed k = r.changed k
  differs : ∀ k, r'.primary k ≠ r.primary k → r'.changed k = r.clock+1
  keeps : ∀ k v, r.primary k = some v → final v → r'.primary k = some v
  times : ∀ m ∈ new, m.time = r.clock+1
  honest : ∀ m ∈ new, ∀ k, m.about k → Agree final (m.value k) (r'.primary k)
  announces : ∀ k, r'.primary k ≠ r.primary k → ∃ m ∈ new, m.about k

/-- A snapshot arrives, overtaken or not. -/
structure Arrives (r r' : Replica K V) (m : Snapshot K V) : Prop where
  mem : m ∈ r.sent
  clock : r'.clock = r.clock
  primary : r'.primary = r.primary
  changed : r'.changed = r.changed
  sent : r'.sent ⊆ r.sent
  others : ∀ m' ∈ r.sent, m' ≠ m → m' ∈ r'.sent
  shown : ∀ k, m.about k → r'.shown k = m.value k
  kept : ∀ k, ¬m.about k → r'.shown k = r.shown k
  heard : ∀ k, m.about k → r'.heard k = max (r.heard k) m.time
  heardKept : ∀ k, ¬m.about k → r'.heard k = r.heard k
  newest : ∀ k, m.about k → r.heard k ≤ m.time → r'.newest k = m.value k
  newestKept : ∀ k, ¬(m.about k ∧ r.heard k ≤ m.time) → r'.newest k = r.newest k
  waived : ∀ k, r.waived k → r'.waived k ∨ m.about k ∧ r.changed k ≤ m.time

section Steps
variable {final} {r r' : Replica K V}

theorem Agree.final_eq {shown : Option V} {v : V} (h : Agree final (some v) shown) :
    shown = some v := by
  rcases h with h | ⟨h, -⟩
  · exact h.symm
  · cases h

/-- Where the newest word is that the value is final, no value but a final one
agrees with the primary. -/
theorem Finished.agree_final {k : K} (hk : Finished final r k) {shown : Option V}
    (h : Agree final shown (r.primary k)) : ∀ v ∈ shown, final v := by
  intro v hv
  obtain ⟨⟨w, hw, hf⟩, -⟩ := hk
  rw [show shown = some v from hv] at h
  have hw' := h.final_eq
  rw [hw] at hw'
  cases hw'
  exact hf

theorem InSync.agree (hs : InSync final r) (hsent : r.sent = ∅) (hw : ∀ k, ¬r.waived k) (k : K) :
    Agree final (r.newest k) (r.primary k) := by
  apply hs.told
  by_contra h
  rcases hs.pending k (by omega) with ⟨m, hm, -⟩ | hk
  · rw [hsent] at hm
    exact hm
  · exact hw k hk

theorem Publishes.changed_le {new : Set (Snapshot K V)} (h : Publishes final r r' new) {k : K}
    {t : ℕ} (ht : t ≤ r.clock) (hk : r'.changed k ≤ t) :
    r'.primary k = r.primary k ∧ r'.changed k = r.changed k := by
  by_cases hp : r'.primary k = r.primary k
  · exact ⟨hp,h.same k hp⟩
  · rw [h.differs k hp] at hk
    omega

/-- A final value that is known is the value of the primary, so its key stays
as it is. -/
theorem Publishes.finished {new : Set (Snapshot K V)} (h : Publishes final r r' new) {k : K}
    (hk : Finished final r k) : Finished final r' k := by
  obtain ⟨⟨v, hv, hf⟩, hheard⟩ := hk
  have hv' := h.keeps k v hv hf
  refine ⟨⟨v,hv',hf⟩,?_⟩
  rw [h.same k (hv'.trans hv.symm), h.heard]
  exact hheard

theorem Publishes.inSync {new : Set (Snapshot K V)} (h : Publishes final r r' new)
    (hs : InSync final r) : InSync final r' where
  changedPast := by
    intro k
    have hold := hs.changedPast k
    rw [h.clock]
    by_cases hp : r'.primary k = r.primary k
    · rw [h.same k hp]
      omega
    · exact (h.differs k hp).le
  heardPast := by
    intro k
    have hold := hs.heardPast k
    rw [h.clock, h.heard]
    omega
  sentPast := by
    intro m hm
    rw [h.sent] at hm
    rw [h.clock]
    rcases hm with hm | hm
    · exact (hs.sentPast m hm).trans (Nat.le_succ _)
    · exact (h.times m hm).le
  current := by
    intro m hm k hk ht
    rw [h.sent] at hm
    rcases hm with hm | hm
    · obtain ⟨hp, hc⟩ := h.changed_le (hs.sentPast m hm) ht
      rw [hp]
      exact hs.current m hm k hk (hc ▸ ht)
    · exact h.honest m hm k hk
  finals := by
    intro m hm k hk v hv hf
    rw [h.sent] at hm
    rcases hm with hm | hm
    · have ht := hs.finals m hm k hk v hv hf
      have hagree := hs.current m hm k hk ht
      rw [show m.value k = some v from hv] at hagree
      have hv' := h.keeps k v hagree.final_eq hf
      rwa [h.same k (hv'.trans hagree.final_eq.symm)]
    · rw [h.times m hm]
      by_cases hp : r'.primary k = r.primary k
      · rw [h.same k hp]
        exact (hs.changedPast k).trans (Nat.le_succ _)
      · exact (h.differs k hp).le
  told := by
    intro k hk
    rw [h.heard] at hk
    obtain ⟨hp, hc⟩ := h.changed_le (hs.heardPast k) hk
    rw [h.newest, hp]
    exact hs.told k (hc ▸ hk)
  shownFinals := by
    intro k v hv hf
    rw [h.shown] at hv
    exact h.finished (hs.shownFinals k v hv hf)
  pending := by
    intro k hk
    rw [h.heard] at hk
    rw [h.sent]
    by_cases hp : r'.primary k = r.primary k
    · rw [h.same k hp] at hk ⊢
      rcases hs.pending k hk with ⟨m, hm, hrest⟩ | hw
      · exact Or.inl ⟨m,Or.inl hm,hrest⟩
      · exact Or.inr (h.waived k hp hw)
    · obtain ⟨m, hm, hk'⟩ := h.announces k hp
      exact Or.inl ⟨m,Or.inr hm,hk',by rw [h.differs k hp, h.times m hm]⟩

theorem Arrives.finished {m : Snapshot K V} (h : Arrives r r' m) {k : K}
    (hk : Finished final r k) : Finished final r' k := by
  obtain ⟨hv, hheard⟩ := hk
  refine ⟨h.primary ▸ hv,?_⟩
  rw [h.changed]
  by_cases ha : m.about k
  · rw [h.heard k ha]
    exact hheard.trans (le_max_left _ _)
  · rw [h.heardKept k ha]
    exact hheard

/-- A snapshot that is overtaken on the key, or does not speak of it, is no news of it. -/
theorem Arrives.cases {m : Snapshot K V} (h : Arrives r r' m) (k : K) :
    (r'.newest k = r.newest k ∧ r'.heard k = r.heard k ∧ (m.about k → m.time < r.heard k)) ∨
    (m.about k ∧ r'.newest k = m.value k ∧ r'.heard k = m.time ∧ r.heard k ≤ m.time) := by
  by_cases ha : m.about k
  · by_cases ht : r.heard k ≤ m.time
    · exact Or.inr ⟨ha,h.newest k ha ht,(h.heard k ha).trans (max_eq_right ht),ht⟩
    · have hlt : m.time < r.heard k := by omega
      refine Or.inl ⟨h.newestKept k fun h => ht h.2,?_,fun _ => hlt⟩
      exact (h.heard k ha).trans (max_eq_left hlt.le)
  · exact Or.inl ⟨h.newestKept k fun h => ha h.1,h.heardKept k ha,fun h => absurd h ha⟩

/-- A value known to be final stays one until an overtaken snapshot says otherwise. -/
theorem Arrives.finished_shown {m : Snapshot K V} (h : Arrives r r' m) (hs : InSync final r)
    {k : K} (hk : Finished final r k) (hshown : ∀ v ∈ r.shown k, final v)
    (hm : m.about k → r.heard k ≤ m.time ∨ ∀ v ∈ m.value k, final v) :
    ∀ v ∈ r'.shown k, final v := by
  by_cases ha : m.about k
  · rw [h.shown k ha]
    rcases hm ha with ht | hfin
    · exact hk.agree_final (hs.current m h.mem k ha (hk.2.trans ht))
    · exact hfin
  · rw [h.kept k ha]
    exact hshown

theorem Arrives.inSync {m : Snapshot K V} (h : Arrives r r' m) (hs : InSync final r) :
    InSync final r' where
  changedPast := by
    rw [h.changed, h.clock]
    exact hs.changedPast
  heardPast := by
    intro k
    rw [h.clock]
    rcases h.cases k with ⟨-, hh, -⟩ | ⟨-, -, hh, -⟩ <;> rw [hh]
    · exact hs.heardPast k
    · exact hs.sentPast m h.mem
  sentPast := by
    intro m' hm'
    rw [h.clock]
    exact hs.sentPast m' (h.sent hm')
  current := by
    intro m' hm'
    rw [h.changed, h.primary]
    exact hs.current m' (h.sent hm')
  finals := by
    intro m' hm'
    rw [h.changed]
    exact hs.finals m' (h.sent hm')
  told := by
    intro k hk
    rw [h.changed] at hk
    rw [h.primary]
    rcases h.cases k with ⟨hv, hh, -⟩ | ⟨ha, hv, hh, -⟩ <;> rw [hh] at hk <;> rw [hv]
    · exact hs.told k hk
    · exact hs.current m h.mem k ha hk
  shownFinals := by
    intro k v hv hf
    by_cases ha : m.about k
    · rw [h.shown k ha] at hv
      have ht := hs.finals m h.mem k ha v hv hf
      have hagree := hs.current m h.mem k ha ht
      rw [show m.value k = some v from hv] at hagree
      refine ⟨⟨v,?_,hf⟩,?_⟩
      · rw [h.primary]
        exact hagree.final_eq
      · rw [h.changed, h.heard k ha]
        exact ht.trans (le_max_right _ _)
    · rw [h.kept k ha] at hv
      exact h.finished (hs.shownFinals k v hv hf)
  pending := by
    intro k hk
    rw [h.changed] at hk ⊢
    have hlate : m.about k → m.time < r.changed k := by
      intro ha
      rcases h.cases k with ⟨-, hh, hlt⟩ | ⟨-, -, hh, -⟩ <;> rw [hh] at hk
      · exact (hlt ha).trans hk
      · exact hk
    have hbehind : r.heard k < r.changed k := by
      rcases h.cases k with ⟨-, hh, -⟩ | ⟨-, -, hh, hle⟩ <;> rw [hh] at hk
      · exact hk
      · exact hle.trans_lt hk
    rcases hs.pending k hbehind with ⟨m', hm', ha', ht'⟩ | hw
    · refine Or.inl ⟨m',h.others m' hm' ?_,ha',ht'⟩
      rintro rfl
      have hlt := hlate ha'
      omega
    · rcases h.waived k hw with hw | ⟨ha, ht⟩
      · exact Or.inr hw
      · have hlt := hlate ha
        omega

end Steps

end CloudPlay.SnapshotReplica
