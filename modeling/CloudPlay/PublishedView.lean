import CloudPlay.TransitionRun
import Mathlib.Data.Set.Basic

/-!
# Views that are published as a whole

A source keeps a value under each key. Some of its steps send a reader the
whole of what it keeps; others change a few keys without a word, and these
keys are stale until the next publication. Publications arrive in the order
in which they were sent, and the reader shows the last one that has arrived.
So once everything has arrived the reader shows the source, but for the
stale keys.
-/

set_option autoImplicit false

namespace PublishedView
open TransitionRun

variable {σ ε M K V : Type*}

/-- A source as one reader sees it. `published` is what a step sends to him,
`silent` are the keys it may change without sending anything. -/
structure Source (σ ε M K V : Type*) where
  step : ε → σ → σ
  view : σ → K → Option V
  read : M → K → Option V
  published : ε → σ → List M
  silent : ε → σ → Set K

/-- What is sent last is the view the step leaves behind, and a step that sends
nothing changes silent keys only. -/
structure Source.Honest (S : Source σ ε M K V) : Prop where
  last : ∀ e s m, (S.published e s).getLast? = some m → S.read m = S.view (S.step e s)
  silent : ∀ e s, S.published e s = [] →
    ∀ k, k ∉ S.silent e s → S.view (S.step e s) k = S.view s k

structure Reader (σ M K : Type*) where
  source : σ
  inbox : List M
  shown : Option M
  stale : Set K

/-- A reader who has been told nothing. -/
def start (s : σ) : Reader σ M K := ⟨s,[],none,Set.univ⟩

inductive Action (ε : Type*) where
  | act (e : ε)
  | deliver

def Reader.act (S : Source σ ε M K V) (e : ε) (r : Reader σ M K) : Reader σ M K :=
  { r with
    source := S.step e r.source
    inbox := r.inbox ++ S.published e r.source
    stale := if (S.published e r.source).isEmpty then r.stale ∪ S.silent e r.source else ∅ }

def Reader.deliver (r : Reader σ M K) : Reader σ M K :=
  match r.inbox with
  | [] => r
  | m::rest => { r with inbox := rest, shown := some m }

def step (S : Source σ ε M K V) : Action ε → Reader σ M K → Reader σ M K
  | .act e, r => r.act S e
  | .deliver, r => r.deliver

/-- What was sent last, whether or not it has arrived. -/
def Reader.latest (r : Reader σ M K) : Option M := r.inbox.getLast?.or r.shown

/-- What was sent last is right about every key that is not stale. -/
def Current (S : Source σ ε M K V) (r : Reader σ M K) : Prop :=
  ∀ k, k ∉ r.stale → ∃ m, r.latest = some m ∧ S.read m k = S.view r.source k

section Runs
variable {S : Source σ ε M K V}

theorem current_start (s : σ) : Current S (start s) := by
  intro k hk
  exact absurd (Set.mem_univ k) hk

theorem Current.act (hS : S.Honest) (e : ε) {r : Reader σ M K} (h : Current S r) :
    Current S (r.act S e) := by
  intro k hk
  cases hp : (S.published e r.source).getLast? with
  | none =>
    have hnil : S.published e r.source = [] := List.getLast?_eq_none_iff.mp hp
    simp only [Reader.act, hnil, List.isEmpty_nil, if_true, Set.mem_union, not_or] at hk
    obtain ⟨m, hm, hread⟩ := h k hk.1
    refine ⟨m,?_,?_⟩
    · simpa [Reader.latest, Reader.act, hnil] using hm
    · exact hread.trans (hS.silent e r.source hnil k hk.2).symm
  | some m =>
    refine ⟨m,?_,congrFun (hS.last e r.source m hp) k⟩
    simp [Reader.latest, Reader.act, List.getLast?_append, hp]

theorem latest_deliver (r : Reader σ M K) : r.deliver.latest = r.latest := by
  unfold Reader.deliver
  split
  · rfl
  · rename_i m rest h
    cases rest with
    | nil => simp [Reader.latest, h]
    | cons m' rest =>
      have hlast : (m'::rest).getLast? ≠ none := by simp
      obtain ⟨last, hl⟩ := Option.ne_none_iff_exists'.mp hlast
      simp only [Reader.latest, h, List.getLast?_cons_cons, hl, Option.some_or]

theorem deliver_kept (r : Reader σ M K) :
    r.deliver.source = r.source ∧ r.deliver.stale = r.stale := by
  unfold Reader.deliver
  split <;> exact ⟨rfl,rfl⟩

theorem Current.deliver {r : Reader σ M K} (h : Current S r) : Current S r.deliver := by
  intro k hk
  rw [(deliver_kept r).2] at hk
  rw [latest_deliver, (deliver_kept r).1]
  exact h k hk

theorem current_run (hS : S.Honest) (as : List (Action ε)) (s : σ) :
    Current S (run (step S) as (start s)) := by
  have hstep : ∀ a r, Current S r → Current S (step S a r) := by
    intro a r h
    cases a with
    | act e => exact h.act hS e
    | deliver => exact h.deliver
  exact reachable_invariant (step S) hstep (current_start s) ⟨as,rfl⟩

/-- A reader with nothing on its way shows the source, but for the stale keys. -/
theorem shows_source (hS : S.Honest) (as : List (Action ε)) (s : σ)
    (hidle : (run (step S) as (start s)).inbox = []) :
    ∀ k, k ∉ (run (step S) as (start s)).stale →
      ∃ m, (run (step S) as (start s)).shown = some m ∧
        S.read m k = S.view (run (step S) as (start s)).source k := by
  intro k hk
  obtain ⟨m, hm, hread⟩ := current_run hS as s k hk
  refine ⟨m,?_,hread⟩
  simpa [Reader.latest, hidle] using hm

/-- The reader is told, or the step leaves the key alone. -/
def Said (S : Source σ ε M K V) (k : K) : Action ε → Reader σ M K → Prop
  | .act e, r => S.published e r.source = [] → k ∉ S.silent e r.source
  | .deliver, _ => True

theorem fresh_step {k : K} {a : Action ε} {r : Reader σ M K} (ha : Said S k a r)
    (hk : k ∉ r.stale) : k ∉ (step S a r).stale := by
  cases a with
  | deliver => rwa [step, deliver_kept r |>.2]
  | act e =>
    cases hp : S.published e r.source with
    | nil => simpa [step, Reader.act, hp, hk] using ha hp
    | cons m rest => simp [step, Reader.act, hp]

theorem fresh_told {k : K} {e : ε} {r : Reader σ M K} (h : S.published e r.source ≠ []) :
    k ∉ (step S (.act e) r).stale := by
  simp [step, Reader.act, h]

/-- After a publication a key stays right until a step changes it silently. -/
theorem shows_since (hS : S.Honest) {before after : List (Action ε)} {e : ε} {s : σ} {k : K}
    (htold : S.published e (run (step S) before (start s)).source ≠ [])
    (hsaid : Meets (step S) (Said S k) after
      (run (step S) (before ++ [Action.act e]) (start s)))
    (hidle : (run (step S) (before ++ Action.act e::after) (start s)).inbox = []) :
    ∃ m, (run (step S) (before ++ Action.act e::after) (start s)).shown = some m ∧
      S.read m k = S.view (run (step S) (before ++ Action.act e::after) (start s)).source k := by
  apply shows_source hS _ s hidle
  have hfresh : k ∉ (run (step S) (before ++ [Action.act e]) (start s)).stale := by
    rw [run_append]
    exact fresh_told htold
  have hkept : ∀ a (r : Reader σ M K), Said S k a r → k ∉ r.stale → k ∉ (step S a r).stale :=
    fun a r => fresh_step
  rw [List.append_cons, run_append]
  exact run_invariant (step S) hkept after _ hsaid hfresh

end Runs

end PublishedView
