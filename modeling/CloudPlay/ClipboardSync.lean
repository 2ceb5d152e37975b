import CloudPlay.KeepAlive
import CloudPlay.RunTally
import Mathlib.Algebra.Order.Group.Nat

/-!
# Two clipboards kept alike

The controlled side reads its clipboard every second and the controller when its app
resumes. What differs from the content last exchanged is sent, and what arrives replaces
the clipboard. Reading takes a while, in which anything may be copied or arrive.
-/

set_option autoImplicit false

namespace CloudPlay.ClipboardSync
open TransitionRun RunTally
open KeepAlive (Side)

/-- The clipboard of a side, and what its unfinished reads have found, the oldest first. -/
structure Peer where
  clipboard : String
  lastClipboardContent : String := ""
  reads : List String := []
  isOpen : Bool := false
  deriving DecidableEq

/-- The texts on the way from each side, the oldest first. -/
@[ext] structure Link where
  peer : Side → Peer
  wire : Side → List String := fun _ => []

inductive Event
  | copy (x : Side) (text : String)
  | opened (x : Side)
  | getData (x : Side)
  | syncClipboard (x : Side)
  | deliver (x : Side)

namespace Link

def set (x : Side) (p : Peer) (s : Link) : Link := {s with peer := Function.update s.peer x p}

def setWire (x : Side) (texts : List String) (s : Link) : Link :=
  {s with wire := Function.update s.wire x texts}

/-- `_syncClipboard` once the oldest read has come back. -/
def syncClipboard (x : Side) (s : Link) : Link :=
  match (s.peer x).reads with
  | [] => s
  | currentContent::rest =>
    if currentContent ≠ (s.peer x).lastClipboardContent then
      let kept := s.set x
        {s.peer x with lastClipboardContent := currentContent, reads := rest}
      if (s.peer x).isOpen then kept.setWire x (s.wire x ++ [currentContent]) else kept
    else s.set x {s.peer x with reads := rest}

def deliver (x : Side) (s : Link) : Link :=
  match s.wire x.other with
  | [] => s
  | text::rest =>
    (s.set x {s.peer x with clipboard := text, lastClipboardContent := text}).setWire x.other rest

end Link

def step : Event → Link → Link
  | .copy x text, s => s.set x {s.peer x with clipboard := text}
  | .opened x, s => s.set x {s.peer x with isOpen := true}
  | .getData x, s => s.set x {s.peer x with reads := (s.peer x).reads ++ [(s.peer x).clipboard]}
  | .syncClipboard x, s => s.syncClipboard x
  | .deliver x, s => s.deliver x

def start (clipboards : Side → String) : Link := {peer := fun x => {clipboard := clipboards x}}

namespace Link

/-- The content that a side will have exchanged last when all that is on the way to it
has arrived. -/
def expected (x : Side) (s : Link) : String :=
  (s.wire x.other).getLastD (s.peer x).lastClipboardContent

def Agreed (s : Link) : Prop := ∀ x, s.expected x = s.expected x.other

/-- All that is on the way to a side arrives. -/
def arrive (x : Side) (s : Link) : Link :=
  run step (List.replicate (s.wire x.other).length (.deliver x)) s

def settled (s : Link) : Link := (s.arrive .controller).arrive .controlled

end Link

/-- What a side sends does not cross anything but itself, and nothing is missed for want
of a channel unless something newer is on the way. -/
def Link.Clear (x : Side) (s : Link) : Prop :=
  match (s.peer x).reads with
  | [] => True
  | currentContent::_ =>
    currentContent ≠ (s.peer x).lastClipboardContent →
      if (s.peer x).isOpen then (s.wire x.other).getLastD currentContent = currentContent
      else s.wire x.other ≠ []

def Uncrossed : Event → Link → Prop
  | .syncClipboard x, s => s.Clear x
  | _, _ => True

section Agreement
variable {x y : Side} {s : Link} {p : Peer} {texts : List String}

@[simp] theorem other_other (x : Side) : x.other.other = x := by cases x <;> rfl

theorem other_ne (x : Side) : x.other ≠ x := by cases x <;> decide

theorem eq_or_other (x y : Side) : y = x ∨ y = x.other := by
  cases x <;> cases y <;> simp [Side.other]

@[simp] theorem set_self : (s.set x p).peer x = p := by simp [Link.set]

@[simp] theorem set_other : (s.set x p).peer x.other = s.peer x.other := by
  simp [Link.set, other_ne]

@[simp] theorem set_back : (s.set x.other p).peer x = s.peer x := by
  simp [Link.set, (other_ne x).symm]

@[simp] theorem set_wire : (s.set x p).wire = s.wire := rfl

@[simp] theorem setWire_peer : (s.setWire x texts).peer = s.peer := rfl

@[simp] theorem setWire_self : (s.setWire x texts).wire x = texts := by simp [Link.setWire]

@[simp] theorem setWire_other : (s.setWire x texts).wire x.other = s.wire x.other := by
  simp [Link.setWire, other_ne]

@[simp] theorem setWire_back : (s.setWire x.other texts).wire x = s.wire x := by
  simp [Link.setWire, (other_ne x).symm]

/-- Two sides agree when one of them does. -/
theorem agreed_iff (x : Side) : s.Agreed ↔ s.expected x = s.expected x.other := by
  refine ⟨fun h => h x,fun h y => ?_⟩
  rcases eq_or_other x y with rfl | rfl
  · exact h
  · rw [other_other, h]

theorem set_expected (h : p.lastClipboardContent = (s.peer x).lastClipboardContent) (y : Side) :
    (s.set x p).expected y = s.expected y := by
  rcases eq_or_other x y with rfl | rfl
  · simp [Link.expected, h]
  · simp [Link.expected]

theorem deliver_expected (x y : Side) : (s.deliver x).expected y = s.expected y := by
  unfold Link.deliver
  split
  · rfl
  · rename_i text rest hw
    rcases eq_or_other x y with rfl | rfl
    · simp only [Link.expected, setWire_self, setWire_peer, set_self]
      rw [hw, List.getLastD_cons]
    · simp [Link.expected]

/-- A side that sends changes what the other side expects. -/
theorem sent_agreed_iff {currentContent : String} {rest : List String}
    (hr : (s.peer x).reads = currentContent::rest)
    (hne : currentContent ≠ (s.peer x).lastClipboardContent) (hopen : (s.peer x).isOpen = true) :
    (s.syncClipboard x).Agreed ↔
      (s.wire x.other).getLastD currentContent = currentContent := by
  rw [agreed_iff x, Link.syncClipboard, hr]
  simp [hne, hopen, Link.expected]

/-- Nothing tells the other side of what changed before the channel was open. -/
theorem unsent_agreed_iff {currentContent : String} {rest : List String} (hs : s.Agreed)
    (hr : (s.peer x).reads = currentContent::rest)
    (hne : currentContent ≠ (s.peer x).lastClipboardContent) (hopen : ¬(s.peer x).isOpen = true) :
    (s.syncClipboard x).Agreed ↔ s.wire x.other ≠ [] := by
  have hx : (s.wire x.other).getLastD (s.peer x).lastClipboardContent = s.expected x.other := hs x
  have hother : (s.syncClipboard x).expected x.other = s.expected x.other := by
    rw [Link.syncClipboard, hr]
    simp [hne, hopen, Link.expected]
  have hself : (s.syncClipboard x).expected x = (s.wire x.other).getLastD currentContent := by
    rw [Link.syncClipboard, hr]
    simp [hne, hopen, Link.expected]
  rw [agreed_iff x, hother, hself, ← hx]
  rcases List.eq_nil_or_concat (s.wire x.other) with hw | ⟨texts, text, hw⟩
  · simp [hw, hne]
  · simp [hw]

theorem same_agreed {e : Event} (h : ∀ y, (step e s).expected y = s.expected y)
    (hs : s.Agreed) : (step e s).Agreed := by
  intro y
  rw [h, h]
  exact hs y

theorem agreed_step_iff (e : Event) (s : Link) (hs : s.Agreed) :
    (step e s).Agreed ↔ Uncrossed e s := by
  cases e with
  | copy x text => exact iff_of_true (same_agreed (set_expected rfl) hs) trivial
  | opened x => exact iff_of_true (same_agreed (set_expected rfl) hs) trivial
  | getData x => exact iff_of_true (same_agreed (set_expected rfl) hs) trivial
  | deliver x => exact iff_of_true (same_agreed (deliver_expected x) hs) trivial
  | syncClipboard x =>
    rw [step, Uncrossed, Link.Clear]
    cases hr : (s.peer x).reads with
    | nil =>
      rw [Link.syncClipboard, hr]
      exact iff_of_true hs trivial
    | cons currentContent rest =>
      by_cases hne : currentContent = (s.peer x).lastClipboardContent
      · apply iff_of_true _ fun h => absurd hne h
        apply same_agreed (e := .syncClipboard x) _ hs
        intro y
        rw [step, Link.syncClipboard, hr]
        simp only [hne, ne_eq, not_true_eq_false, if_false]
        exact set_expected (by rfl) y
      · by_cases hopen : (s.peer x).isOpen = true
        · rw [sent_agreed_iff hr hne hopen]
          simp [hne, hopen]
        · rw [unsent_agreed_iff hs hr hne hopen]
          simp [hne, hopen]

/-- What has arrived at a side is the newest of what was on the way. -/
structure Arrived (x : Side) (s s' : Link) : Prop where
  self : s'.peer x = { s.peer x with
    clipboard := (s.wire x.other).getLastD (s.peer x).clipboard
    lastClipboardContent := s.expected x }
  other : s'.peer x.other = s.peer x.other
  wire : s'.wire x.other = []
  back : s'.wire x = s.wire x

theorem arrived (x : Side) (s : Link) : Arrived x s (s.arrive x) := by
  unfold Link.arrive
  generalize hw : s.wire x.other = texts
  induction texts generalizing s with
  | nil => exact ⟨by simp [run, Link.expected, hw],rfl,hw,rfl⟩
  | cons text texts ih =>
    have hdeliver : s.deliver x = (s.set x
        {s.peer x with clipboard := text, lastClipboardContent := text}).setWire x.other texts := by
      rw [Link.deliver, hw]
    have hrest := ih (s.deliver x) (by rw [hdeliver, setWire_self])
    rw [List.length_cons, List.replicate_succ, run, step]
    constructor
    · rw [hrest.self, deliver_expected, hdeliver, hw]
      simp only [setWire_self, setWire_peer, set_self, List.getLastD_cons]
    · rw [hrest.other, hdeliver, setWire_peer, set_other]
    · exact hrest.wire
    · rw [hrest.back, hdeliver, setWire_back, set_wire]

theorem arrived_agreed (x : Side) (s : Link) : (s.arrive x).Agreed ↔ s.Agreed := by
  have h := arrived x s
  rw [agreed_iff x, agreed_iff x]
  simp only [Link.expected, h.self, h.other, h.wire, h.back, other_other, List.getLastD_nil]

theorem settled_wire (s : Link) (x : Side) : s.settled.wire x = [] := by
  have hfirst := arrived .controller s
  have hsecond := arrived .controlled (s.arrive .controller)
  cases x with
  | controller => exact hsecond.wire
  | controlled => exact hsecond.back.trans hfirst.wire

/-- Two sides agree when what they last exchanged would be the same once all of it has
arrived. -/
theorem settled_iff (s : Link) :
    (s.settled.peer .controller).lastClipboardContent =
      (s.settled.peer .controlled).lastClipboardContent ↔ s.Agreed := by
  rw [← arrived_agreed .controller s, ← arrived_agreed .controlled, ← Link.settled,
    agreed_iff .controller, Link.expected, Link.expected, settled_wire, settled_wire]
  rfl

end Agreement

/-- Once all that is on the way has arrived, both sides have last exchanged the same text,
whenever in a run that may be, exactly when no two texts ever cross. -/
theorem agrees_iff (clipboards : Side → String) (es : List Event) :
    (∀ before after, es = before ++ after →
      ((run step before (start clipboards)).settled.peer .controller).lastClipboardContent =
        ((run step before (start clipboards)).settled.peer .controlled).lastClipboardContent) ↔
      Meets step Uncrossed es (start clipboards) := by
  simp only [settled_iff]
  exact always_iff_meets step agreed_step_iff es _ fun x => rfl

/-- A side reads its clipboard, and what it may send arrives. -/
def syncs (x : Side) : List Event := [.getData x,.syncClipboard x,.deliver x.other]

/-- Nothing is under way on an open channel. -/
structure Quiet (s : Link) : Prop where
  wire : ∀ y, s.wire y = []
  reads : ∀ y, (s.peer y).reads = []
  isOpen : ∀ y, (s.peer y).isOpen = true

section Convergence
variable {x y : Side} {s : Link} {p : Peer}

theorem forall_iff (x : Side) {q : Side → Prop} : (∀ y, q y) ↔ q x ∧ q x.other := by
  refine ⟨fun h => ⟨h x,h x.other⟩,fun h y => ?_⟩
  rcases eq_or_other x y with rfl | rfl
  · exact h.1
  · exact h.2

/-- The peers and the wires after a side has synced undisturbed. -/
structure Synced (x : Side) (s s' : Link) : Prop where
  quiet : Quiet s'
  agreed : s.Agreed → s'.Agreed
  settled : (s'.peer x).clipboard = (s'.peer x).lastClipboardContent
  other : (s.peer x.other).clipboard = (s.peer x.other).lastClipboardContent →
    (s'.peer x.other).clipboard = (s'.peer x.other).lastClipboardContent

theorem read_reads (hs : Quiet s) : ((step (.getData x) s).peer x).reads =
    [(s.peer x).clipboard] := by
  simp [step, hs.reads]

/-- A clipboard that has not changed is not sent. -/
theorem unchanged_synced (hs : Quiet s)
    (h : (s.peer x).clipboard = (s.peer x).lastClipboardContent) :
    Synced x s (run step (syncs x) s) := by
  have hsame : (step (.getData x) s).syncClipboard x = s := by
    rw [Link.syncClipboard, read_reads hs]
    apply Link.ext
    · funext y
      rcases eq_or_other x y with rfl | rfl
      · simp only [step, set_self]
        rw [if_neg (not_not.mpr h), set_self, ← hs.reads y]
      · simp [step, h]
    · simp [step, h]
  have hrun : run step (syncs x) s = s := by
    rw [syncs, run, run, run, run]
    simp only [step] at hsame ⊢
    rw [hsame, Link.deliver, other_other, hs.wire x]
  rw [hrun]
  exact ⟨hs,id,h,id⟩

/-- A clipboard that has changed reaches the other side. -/
theorem changed_synced (hs : Quiet s)
    (h : (s.peer x).clipboard ≠ (s.peer x).lastClipboardContent) :
    Synced x s (run step (syncs x) s) := by
  have hsent : (step (.getData x) s).syncClipboard x =
      (s.set x {s.peer x with lastClipboardContent := (s.peer x).clipboard}).setWire x
        [(s.peer x).clipboard] := by
    rw [Link.syncClipboard, read_reads hs]
    apply Link.ext
    · funext y
      rcases eq_or_other x y with rfl | rfl
      · simp [step, h, hs.isOpen, hs.reads]
      · simp [step, h, hs.isOpen]
    · simp [step, h, hs.isOpen, hs.wire, Link.setWire]
  have hrun : run step (syncs x) s =
      (((s.set x {s.peer x with lastClipboardContent := (s.peer x).clipboard}).set x.other
        { s.peer x.other with
          clipboard := (s.peer x).clipboard
          lastClipboardContent := (s.peer x).clipboard }).setWire x []) := by
    rw [syncs, run, run, run, run]
    simp only [step] at hsent ⊢
    rw [hsent, Link.deliver, other_other, setWire_self]
    simp [Link.set, Link.setWire, other_ne]
  have hself : (run step (syncs x) s).peer x =
      {s.peer x with lastClipboardContent := (s.peer x).clipboard} := by
    rw [hrun, setWire_peer, set_back, set_self]
  have hother : (run step (syncs x) s).peer x.other = { s.peer x.other with
      clipboard := (s.peer x).clipboard
      lastClipboardContent := (s.peer x).clipboard } := by
    rw [hrun, setWire_peer, set_self]
  have hwire : ∀ y, (run step (syncs x) s).wire y = [] := by
    rw [hrun, forall_iff x, setWire_self, setWire_other]
    exact ⟨rfl,hs.wire x.other⟩
  constructor
  · constructor
    · exact hwire
    · rw [forall_iff x, hself, hother]
      exact ⟨hs.reads x,hs.reads x.other⟩
    · rw [forall_iff x, hself, hother]
      exact ⟨hs.isOpen x,hs.isOpen x.other⟩
  · intro _
    rw [agreed_iff x, Link.expected, Link.expected, hwire, hwire, hself, hother]
  · rw [hself]
  · intro _
    rw [hother]

theorem synced (x : Side) (hs : Quiet s) : Synced x s (run step (syncs x) s) := by
  by_cases h : (s.peer x).clipboard = (s.peer x).lastClipboardContent
  · exact unchanged_synced hs h
  · exact changed_synced hs h

theorem settled_peer (s : Link) (x : Side) : (s.settled.peer x).reads = (s.peer x).reads ∧
    (s.settled.peer x).isOpen = (s.peer x).isOpen := by
  have hfirst := arrived .controller s
  have hsecond := arrived .controlled (s.arrive .controller)
  cases x with
  | controller =>
    have hpeer : s.settled.peer .controller = (s.arrive .controller).peer .controller :=
      hsecond.other
    rw [hpeer, hfirst.self]
    exact ⟨rfl,rfl⟩
  | controlled =>
    have hpeer : (s.arrive .controller).peer .controlled = s.peer .controlled := hfirst.other
    rw [Link.settled, hsecond.self, ← hpeer]
    exact ⟨rfl,rfl⟩

theorem both_synced (x : Side) (hs : Quiet s) (ha : s.Agreed) :
    ((run step (syncs x ++ syncs x.other) s).peer x).clipboard =
      ((run step (syncs x ++ syncs x.other) s).peer x.other).clipboard := by
  have hfirst := synced x hs
  have hsecond := synced x.other hfirst.quiet
  have hlast := (agreed_iff x).mp (hsecond.agreed (hfirst.agreed ha))
  rw [Link.expected, Link.expected, hsecond.quiet.wire, hsecond.quiet.wire, List.getLastD_nil,
    List.getLastD_nil] at hlast
  rw [run_append, hsecond.settled, ← hlast]
  have hself := hsecond.other
  rw [other_other] at hself
  exact hself hfirst.settled

end Convergence

/-- After a run without crossings the clipboards are the same once everything on the way
has arrived and both sides have synced, one after the other. -/
theorem syncs_converge (clipboards : Side → String) (es : List Event) (x : Side)
    (hm : Meets step Uncrossed es (start clipboards))
    (hreads : ∀ y, ((run step es (start clipboards)).peer y).reads = [])
    (hopen : ∀ y, ((run step es (start clipboards)).peer y).isOpen = true) :
    ((run step (syncs x ++ syncs x.other) (run step es (start clipboards)).settled).peer
        x).clipboard =
      ((run step (syncs x ++ syncs x.other) (run step es (start clipboards)).settled).peer
        x.other).clipboard := by
  have hagreed : (run step es (start clipboards)).Agreed :=
    run_invariant step (fun e s hg hs => (agreed_step_iff e s hs).mpr hg) es _ hm fun _ => rfl
  apply both_synced x
  · constructor
    · exact settled_wire _
    · exact fun y => (settled_peer _ y).1.trans (hreads y)
    · exact fun y => (settled_peer _ y).2.trans (hopen y)
  · exact (arrived_agreed _ _).mpr ((arrived_agreed _ _).mpr hagreed)

/-- Both channels open, and the controlled side syncs what it had from before. -/
def opening : List Event :=
  [.opened .controller,.opened .controlled,.getData .controlled,.syncClipboard .controlled]

def held : Side → String
  | .controller => "left"
  | .controlled => "right"

theorem opening_converges :
    ((run step (syncs .controller ++ syncs .controlled)
        (run step opening (start held)).settled).peer .controller).clipboard =
      ((run step (syncs .controller ++ syncs .controlled)
        (run step opening (start held)).settled).peer .controlled).clipboard := by
  apply syncs_converge held opening .controller
  · simp [Meets, opening, Uncrossed, Link.Clear, step, start, Link.set]
  · intro y
    cases y <;>
      simp [run, opening, step, start, held, Link.set, Link.setWire, Link.syncClipboard]
  · intro y
    cases y <;>
      simp [run, opening, step, start, held, Link.set, Link.setWire, Link.syncClipboard]

section Echo
variable {x : Side} {s : Link}

/-- How often neighbours differ. -/
def changes : List String → ℕ
  | a::b::rest => (if a = b then 0 else 1) + changes (b::rest)
  | _ => 0

theorem changes_cons_le (a b : String) (rest : List String) :
    changes (a::rest) ≤ changes (b::rest) + 1 := by
  cases rest with
  | nil => simp [changes]
  | cons c rest =>
    simp only [changes]
    split <;> split <;> omega

theorem changes_concat (a b : String) (texts : List String) :
    changes (texts ++ [a,b]) = changes (texts ++ [a]) + if a = b then 0 else 1 := by
  induction texts with
  | nil => simp [changes]
  | cons c texts ih =>
    cases texts with
    | nil => simp [changes]
    | cons d texts =>
      simp only [List.cons_append, changes] at ih ⊢
      rw [ih, Nat.add_assoc]

theorem changes_concat_le (a b : String) (texts : List String) :
    changes (texts ++ [a]) ≤ changes (texts ++ [b]) + 1 := by
  rcases List.eq_nil_or_concat texts with rfl | ⟨texts, c, rfl⟩
  · simp [changes]
  · simp only [List.concat_append]
    rw [changes_concat, changes_concat]
    split <;> split <;> omega

/-- What a side may yet find changed. -/
def Peer.unsynced (p : Peer) : ℕ := changes (p.lastClipboardContent::(p.reads ++ [p.clipboard]))

def Link.unsynced (s : Link) : ℕ := (s.peer .controller).unsynced + (s.peer .controlled).unsynced

def copied : Event → Link → ℕ
  | .copy _ _, _ => 1
  | _, _ => 0

/-- A text that arrives while the clipboard is being read. -/
def overtaken : Event → Link → ℕ
  | .deliver x, s => if (s.peer x).reads ≠ [] ∧ s.wire x.other ≠ [] then 1 else 0
  | _, _ => 0

def sent : Event → Link → ℕ
  | .syncClipboard x, s => ((s.syncClipboard x).wire x).length - (s.wire x).length
  | _, _ => 0

theorem unsynced_eq (x : Side) (s : Link) :
    s.unsynced = (s.peer x).unsynced + (s.peer x.other).unsynced := by
  cases x with
  | controller => rfl
  | controlled => exact Nat.add_comm _ _

theorem set_unsynced (x : Side) (p : Peer) (s : Link) :
    (s.set x p).unsynced = p.unsynced + (s.peer x.other).unsynced := by
  rw [unsynced_eq x, set_self, set_other]

theorem copy_unsynced (p : Peer) (text : String) :
    {p with clipboard := text : Peer}.unsynced ≤ p.unsynced + 1 :=
  changes_concat_le text p.clipboard (p.lastClipboardContent::p.reads)

theorem read_unsynced (p : Peer) :
    {p with reads := p.reads ++ [p.clipboard] : Peer}.unsynced = p.unsynced := by
  have h := changes_concat p.clipboard p.clipboard (p.lastClipboardContent::p.reads)
  rw [if_pos rfl] at h
  simpa [Peer.unsynced] using h

/-- Only what arrives during a read can look like a change. -/
theorem arrive_unsynced (p : Peer) (text : String) :
    {p with clipboard := text, lastClipboardContent := text : Peer}.unsynced ≤
      if p.reads = [] then 0 else p.unsynced + 2 := by
  split
  · rename_i h
    simp [Peer.unsynced, h, changes]
  · have hhead := changes_cons_le text p.lastClipboardContent (p.reads ++ [text])
    have hlast := changes_concat_le text p.clipboard (p.lastClipboardContent::p.reads)
    unfold Peer.unsynced
    simp only [List.cons_append] at hlast ⊢
    omega

/-- Every text that is sent uses up a change. -/
theorem sync_unsynced (x : Side) (s : Link) :
    sent (.syncClipboard x) s + (s.syncClipboard x).unsynced ≤ s.unsynced := by
  rw [sent, Link.syncClipboard]
  cases hr : (s.peer x).reads with
  | nil => simp
  | cons currentContent rest =>
    have hp : (s.peer x).unsynced =
        (if (s.peer x).lastClipboardContent = currentContent then 0 else 1) +
          changes (currentContent::(rest ++ [(s.peer x).clipboard])) := by
      rw [Peer.unsynced, hr]
      rfl
    have hs := unsynced_eq x s
    by_cases hne : currentContent = (s.peer x).lastClipboardContent
    · rw [if_pos hne.symm, hne, Nat.zero_add] at hp
      simp only [ne_eq, hne, not_true_eq_false, if_false, set_wire, set_unsynced]
      rw [hs, hp, Peer.unsynced, Nat.sub_self, Nat.zero_add]
    · rw [if_neg (Ne.symm hne)] at hp
      have hkept : {s.peer x with lastClipboardContent := currentContent, reads := rest
          : Peer}.unsynced = changes (currentContent::(rest ++ [(s.peer x).clipboard])) := rfl
      simp only [ne_eq, hne, not_false_eq_true, if_true]
      split
      · rw [unsynced_eq x, setWire_self, setWire_peer, set_self, set_other, hkept]
        simp only [List.length_append, List.length_singleton]
        omega
      · rw [set_wire, set_unsynced, hkept]
        omega

theorem unsynced_step (e : Event) (s : Link) :
    sent e s + (step e s).unsynced ≤ s.unsynced + (copied e s + overtaken e s + overtaken e s) := by
  cases e with
  | copy x text =>
    have h := copy_unsynced (s.peer x) text
    simp only [sent, step, copied, overtaken, set_unsynced, unsynced_eq x s]
    omega
  | opened x =>
    simp only [sent, step, copied, overtaken, set_unsynced, unsynced_eq x s]
    simp [Peer.unsynced]
  | getData x =>
    simp only [sent, step, copied, overtaken, set_unsynced, unsynced_eq x s, read_unsynced]
    omega
  | syncClipboard x => exact (sync_unsynced x s).trans (Nat.le_add_right _ _)
  | deliver x =>
    simp only [sent, step, copied, overtaken, Link.deliver]
    split
    · rename_i hw
      omega
    · rename_i text rest hw
      have h := arrive_unsynced (s.peer x) text
      rw [unsynced_eq x, unsynced_eq x, setWire_peer, set_self, set_other, hw]
      by_cases hr : (s.peer x).reads = []
      · rw [if_pos hr] at h
        omega
      · rw [if_neg hr] at h
        simp only [ne_eq, hr, not_false_eq_true, reduceCtorEq, and_self, if_true]
        omega

end Echo

/-- However the reads and the deliveries fall, a text is sent for a copy, for what a side had
from before, or at most twice for a text that arrives during a read. -/
theorem sent_le (clipboards : Side → String) (es : List Event) :
    tally step sent es (start clipboards) ≤
      2 + tally step copied es (start clipboards) +
        2*tally step overtaken es (start clipboards) := by
  have hall := tally_le unsynced_step es (start clipboards)
  rw [tally_add, tally_add] at hall
  have hfirst : (start clipboards).unsynced ≤ 2 := by
    simp only [Link.unsynced, Peer.unsynced, start, List.nil_append, changes]
    split <;> split <;> decide
  omega

end CloudPlay.ClipboardSync
