import CloudPlay.ControlPlaneController

/-!
# When the client's leases are the server's

The last message that arrives wins, so a message that was overtaken by a newer
one on some lease takes this lease back until the next one. When the server
tells every change, the table agrees with the server once everything has
arrived, unless the last message about some lease was such a one; and a lease
shown as ENDED stays ENDED until such a one says otherwise.
-/

set_option autoImplicit false

namespace CloudPlay.LeaseConvergence
open ControlPlaneModels ControlPlaneSerializers ControlPlaneDatabase ControlPlaneConsumer
open ControlPlaneViews ControlPlaneServer ExclusiveAssignment LeaseAnnouncements
open ControlPlaneController SnapshotReplica TransitionRun

section Tables
variable {leases : List LeaseData} {id : Uuid}

theorem putAll_append (table : LeaseTable) (l : LeaseData) :
    putAll table (leases ++ [l]) = put (putAll table leases) l := by
  rw [putAll, List.foldl_append]
  rfl

/-- The last entry for an id counts, whatever the table had. -/
theorem putAll_mem (h : id ∈ leases.map LeaseData.leaseId) :
    ∃ l ∈ leases, l.leaseId = id ∧ ∀ table, putAll table leases id = some l := by
  induction leases using List.reverseRecOn with
  | nil => cases h
  | append_singleton leases l ih =>
    by_cases hid : l.leaseId = id
    · refine ⟨l,by simp,hid,fun table => ?_⟩
      rw [putAll_append, put, hid, Function.update_self]
    · have hin : id ∈ leases.map LeaseData.leaseId := by
        rw [List.map_append, List.mem_append] at h
        rcases h with h | h
        · exact h
        · exact absurd (List.mem_singleton.mp h).symm hid
      obtain ⟨q, hq, hqid, hget⟩ := ih hin
      refine ⟨q,List.mem_append_left _ hq,hqid,fun table => ?_⟩
      rw [putAll_append, put, Function.update_of_ne (Ne.symm hid)]
      exact hget table

theorem putAll_not_mem (h : id ∉ leases.map LeaseData.leaseId) (table : LeaseTable) :
    putAll table leases id = table id := by
  induction leases using List.reverseRecOn with
  | nil => rfl
  | append_singleton leases l ih =>
    rw [List.map_append, List.mem_append, not_or] at h
    have hid : id ≠ l.leaseId := fun hid => h.2 (hid ▸ List.mem_singleton_self _)
    rw [putAll_append, put, Function.update_of_ne hid]
    exact ih h.1

theorem apply_about {m : LeaseMessage} (h : m.about id) (table : LeaseTable) :
    m.apply table id = m.value id := by
  unfold LeaseMessage.apply LeaseMessage.value
  split
  · rfl
  · rename_i hfull
    obtain ⟨l, -, -, hget⟩ := putAll_mem (h.resolve_left hfull)
    rw [hget, hget]

theorem apply_other {m : LeaseMessage} (h : ¬m.about id) (table : LeaseTable) :
    m.apply table id = table id := by
  rw [LeaseMessage.about, not_or] at h
  rw [LeaseMessage.apply, if_neg h.1]
  exact putAll_not_mem h.2 table

end Tables

def Ended (l : LeaseData) : Prop := l.status = .ended

instance (l : LeaseData) : Decidable (Ended l) := inferInstanceAs (Decidable (_ = _))

def LeaseMessage.snapshot (m : LeaseMessage) : Snapshot Uuid LeaseData := ⟨m.time,m.about,m.value⟩

section User
variable (u : UserId)

/-- The server as the primary and the client's table as the replica. -/
def view (w : Client) : Replica Uuid LeaseData where
  primary := seen u w.server.db
  changed := w.changed
  clock := w.clock
  sent := { x | ∃ c, ∃ m ∈ w.inbox c, x = LeaseMessage.snapshot m }
  shown := w.leasesById
  heard := w.heard
  newest := w.newest
  waived := fun id => w.listed = false ∧ w.changed id = 1

/-- What the steps are asked for. The server announces what it does to leases
of the user and does not repeat an old answer. -/
def Told : Action → Client → Prop
  | .serve e, w => Announces u e w.server ∧ Fresh u e w.server
  | .deliver _, _ => True

/-- No message that was overtaken on the lease says that it has not ended. -/
def Unrevived (id : Uuid) : Action → Client → Prop
  | .serve _, _ => True
  | .deliver c, w => ∀ m ∈ (w.inbox c).head?, m.about id →
      w.heard id ≤ m.time ∨ ∀ l ∈ m.value id, Ended l

structure Valid (w : Client) : Prop where
  inSync : InSync Ended (view u w)
  consistent : Consistent w.server.db
  times : ∀ c, ∀ m ∈ w.inbox c, 1 ≤ m.time
  clock : 1 ≤ w.clock

section Serving
variable {u} {w : Client} {e : Event}

theorem produced_time {r : StepResult} {t : ℕ} {c : Channel} {m : LeaseMessage}
    (hm : m ∈ produced u e r t c) : m.time = t := by
  cases c <;> simp only [produced] at hm
  · obtain ⟨l, -, rfl⟩ := List.mem_map.mp hm
    rfl
  all_goals
    split at hm
    · split at hm
      · rw [List.mem_singleton.mp hm]
      · cases hm
    · cases hm

/-- A message whose entries are the rows says the truth on each of them. -/
theorem honest_rows {m : LeaseMessage} {db : Database} (hfull : m.full = false)
    (hrows : ∀ p ∈ m.leases, seen u db p.leaseId = some p) {id : Uuid} (h : m.about id) :
    Agree Ended (m.value id) (seen u db id) := by
  obtain ⟨l, hl, hid, hget⟩ := putAll_mem (h.resolve_left (by simp [hfull]))
  left
  rw [LeaseMessage.value, hget, ← hid]
  exact (hrows l hl).symm

theorem honest_list {leases : List LeaseData} {t : ℕ} {db : Database}
    (hrows : ∀ p ∈ leases, seen u db p.leaseId = some p)
    (hopen : ∀ id p, seen u db id = some p → p.status ≠ .ended → p ∈ leases) (id : Uuid) :
    Agree Ended (LeaseMessage.value ⟨t,true,leases⟩ id) (seen u db id) := by
  by_cases hin : id ∈ leases.map LeaseData.leaseId
  · obtain ⟨l, hl, hid, hget⟩ := putAll_mem hin
    left
    rw [LeaseMessage.value, hget, ← hid]
    exact (hrows l hl).symm
  · right
    refine ⟨putAll_not_mem hin _,fun p hp => ?_⟩
    by_contra hlive
    have hmem := hopen id p hp hlive
    have hid : p.leaseId = id := by
      obtain ⟨l, hl, rfl⟩ := Option.map_eq_some_iff.mp hp
      have hrow := (Option.filter_eq_some_iff.mp hl).1
      have hkey : l.leaseId = id := KeyedTable.Table.get?_key hrow
      exact hkey
    exact hin (hid ▸ List.mem_map_of_mem hmem)

theorem body_eq {r : StepResult} {b : Body} (h : body r = some b) : r.response = some (ok b) := by
  obtain ⟨response, hr, rfl⟩ := Option.map_eq_some_iff.mp h
  obtain ⟨hr, hstatus⟩ := Option.filter_eq_some_iff.mp hr
  have hstatus : response.status = 200 := by simpa using hstatus
  rw [hr, ok, ← hstatus]

theorem produced_honest {s : Server} (hg : Announces u e s) (hf : Fresh u e s) {t : ℕ}
    {c : Channel} {m : LeaseMessage} (hm : m ∈ produced u e (handle e s) t c) {id : Uuid}
    (h : m.about id) : Agree Ended (m.value id) (seen u (step e s).db id) := by
  cases c <;> simp only [produced] at hm
  · obtain ⟨l, hl, rfl⟩ := List.mem_map.mp hm
    refine honest_rows rfl (fun p hp => ?_) h
    rw [List.mem_singleton.mp hp]
    exact (handle_announced u e s hg).current l hl
  · split at hm
    · rename_i user req now draw leases tokens hbody
      split at hm
      · rename_i hu
        subst hu
        rw [List.mem_singleton.mp hm] at h ⊢
        have hr := Option.some.inj (body_eq hbody)
        exact honest_rows rfl (rent_answer (hf rfl) hr) h
      · cases hm
    · cases hm
  · split at hm
    · rename_i user req now leases hbody
      split at hm
      · rename_i hu
        subst hu
        rw [List.mem_singleton.mp hm] at h ⊢
        have hr := Option.some.inj (body_eq hbody)
        exact honest_rows rfl (release_answer (hf rfl) hr) h
      · cases hm
    · cases hm
  · split at hm
    · rename_i user leases hbody
      split at hm
      · rename_i hu
        subst hu
        rw [List.mem_singleton.mp hm]
        have hr := Option.some.inj (body_eq hbody)
        obtain ⟨hrows, hopen⟩ := list_answer hr
        exact honest_list hrows hopen id
      · cases hm
    · cases hm

theorem serve_publishes (hg : Announces u e w.server) (hf : Fresh u e w.server)
    (hv : Valid u w) : Publishes Ended (view u w) (view u (w.serve u e))
      { x | ∃ c, ∃ m ∈ produced u e (handle e w.server) (w.clock+1) c,
        x = LeaseMessage.snapshot m } where
  clock := rfl
  sent := by
    ext x
    constructor
    · rintro ⟨c, m, hm, rfl⟩
      rcases List.mem_append.mp hm with hm | hm
      · exact Or.inl ⟨c,m,hm,rfl⟩
      · exact Or.inr ⟨c,m,hm,rfl⟩
    · rintro (⟨c, m, hm, rfl⟩ | ⟨c, m, hm, rfl⟩)
      · exact ⟨c,m,List.mem_append_left _ hm,rfl⟩
      · exact ⟨c,m,List.mem_append_right _ hm,rfl⟩
  shown := rfl
  heard := rfl
  newest := rfl
  waived := by
    intro id hsame hw
    exact ⟨hw.1,(if_pos hsame).trans hw.2⟩
  same := fun id h => if_pos h
  differs := fun id h => if_neg h
  keeps := fun id p hp hend => seen_ended hg hv.consistent hp hend
  times := by
    rintro x ⟨c, m, hm, rfl⟩
    exact produced_time hm
  honest := by
    rintro x ⟨c, m, hm, rfl⟩ id h
    exact produced_honest hg hf hm h
  announces := by
    intro id hne
    obtain ⟨l, hl, hid⟩ := (handle_announced u e w.server hg).changes id hne
    refine ⟨LeaseMessage.snapshot ⟨w.clock+1,false,[l]⟩,⟨.pushes,_,List.mem_map_of_mem hl,rfl⟩,?_⟩
    exact Or.inr (by simp [hid])

theorem receive_arrives (hv : Valid u w) {c : Channel} {m : LeaseMessage}
    {rest : List LeaseMessage} (hc : w.inbox c = m::rest) :
    Arrives (view u w) (view u (w.receive c m rest)) (LeaseMessage.snapshot m) where
  mem := ⟨c,m,hc ▸ List.mem_cons_self,rfl⟩
  clock := rfl
  primary := rfl
  changed := rfl
  sent := by
    rintro x ⟨d, q, hq, rfl⟩
    simp only [Client.receive, Function.update_apply] at hq
    split at hq
    · rename_i hd
      exact ⟨c,q,hc ▸ List.mem_cons_of_mem _ hq,rfl⟩
    · exact ⟨d,q,hq,rfl⟩
  others := by
    rintro x ⟨d, q, hq, rfl⟩ hne
    refine ⟨d,q,?_,rfl⟩
    simp only [Client.receive, Function.update_apply]
    split
    · rename_i hd
      subst hd
      rw [hc] at hq
      rcases List.mem_cons.mp hq with rfl | hq
      · exact absurd rfl hne
      · exact hq
    · exact hq
  shown := fun id h => apply_about h w.leasesById
  kept := fun id h => apply_other h w.leasesById
  heard := fun id h => if_pos h
  heardKept := fun id h => if_neg h
  newest := fun id h ht => if_pos ⟨h,ht⟩
  newestKept := fun id h => if_neg h
  waived := by
    rintro id ⟨hl, hone⟩
    by_cases hfull : m.full = true
    · refine Or.inr ⟨Or.inl hfull,?_⟩
      have htime : 1 ≤ m.time := hv.times c m (hc ▸ List.mem_cons_self)
      exact hone.le.trans htime
    · exact Or.inl ⟨by simp [Client.receive, hl, hfull],hone⟩

end Serving

theorem step_valid (action : Action) (w : Client) (hg : Told u action w) (hv : Valid u w) :
    Valid u (clientStep u action w) := by
  cases action with
  | serve e =>
    have hpub := serve_publishes hg.1 hg.2 hv
    refine ⟨hpub.inSync hv.inSync,consistent_step e w.server hv.consistent,?_,?_⟩
    · intro c m hm
      rcases List.mem_append.mp hm with hm | hm
      · exact hv.times c m hm
      · rw [produced_time hm]
        exact Nat.le_add_left 1 _
    · exact Nat.le_add_left 1 _
  | deliver c =>
    simp only [clientStep]
    split
    · exact hv
    · rename_i m rest hc
      refine ⟨(receive_arrives hv hc).inSync hv.inSync,hv.consistent,?_,hv.clock⟩
      intro d q hq
      simp only [Client.receive, Function.update_apply] at hq
      split at hq
      · exact hv.times c q (hc ▸ List.mem_cons_of_mem _ hq)
      · exact hv.times d q hq

/-- The client has heard that the lease has ended, and shows no other status. -/
def Over (id : Uuid) (w : Client) : Prop :=
  Finished Ended (view u w) id ∧ ∀ l ∈ w.leasesById id, Ended l

theorem step_over (action : Action) (w : Client) (hg : Told u action w) (hv : Valid u w)
    {id : Uuid} (hlate : Unrevived id action w) (ho : Over u id w) :
    Over u id (clientStep u action w) := by
  cases action with
  | serve e => exact ⟨(serve_publishes hg.1 hg.2 hv).finished ho.1,ho.2⟩
  | deliver c =>
    simp only [clientStep]
    split
    · exact ho
    · rename_i m rest hc
      have harr := receive_arrives hv hc
      refine ⟨harr.finished ho.1,harr.finished_shown hv.inSync ho.1 ho.2 ?_⟩
      exact hlate m (by rw [hc]; rfl)

theorem start_valid {s : Server} (hs : ServerReachable s) : Valid u (start u s) where
  inSync := by
    have hchanged : ∀ id, (start u s).changed id ≤ 1 := by
      intro id
      simp only [start]
      split <;> omega
    constructor
    · exact hchanged
    · exact fun id => Nat.zero_le 1
    · rintro m ⟨c, q, hq, -⟩
      cases hq
    · rintro m ⟨c, q, hq, -⟩
      cases hq
    · rintro m ⟨c, q, hq, -⟩
      cases hq
    · intro id hid
      refine Or.inr ⟨rfl,fun p hp => ?_⟩
      by_contra hlive
      have hone : (start u s).changed id = 1 := by
        have hany : (seen u s.db id).any isOpen = true := by
          rw [show seen u s.db id = some p from hp]
          simpa [isOpen, Ended] using hlive
        exact if_pos hany
      have hzero : (start u s).changed id ≤ 0 := hid
      omega
    · intro id p hp
      cases hp
    · intro id hid
      have hone := hchanged id
      have hpos : 0 < (start u s).changed id := hid
      exact Or.inr ⟨rfl,by omega⟩
  consistent := consistent_reachable hs
  times := by
    intro c m hm
    cases hm
  clock := le_refl 1

/-- The table has no lease the server does not have in this very form, and
every lease of the user that has not ended. -/
structure Converged (w : Client) : Prop where
  agrees : ∀ id l, w.leasesById id = some l → seen u w.server.db id = some l
  contains : ∀ id l, seen u w.server.db id = some l → l.status ≠ .ended → w.leasesById id = some l

/-- Everything has arrived, with a list among it unless the user had no open
lease at the start. -/
def Delivered (s : Server) (w : Client) : Prop :=
  (∀ c, w.inbox c = []) ∧
    (w.listed = true ∨ ∀ id l, seen u s.db id = some l → l.status = .ended)

/-- What the last message about each lease said is what the newest one said. -/
def CaughtUp (w : Client) : Prop := ∀ id, w.leasesById id = w.newest id

theorem start_changed {s : Server} {id : Uuid} (h : (start u s).changed id = 1) :
    (seen u s.db id).any isOpen := by
  simp only [start] at h
  split at h
  · assumption
  · cases h

theorem step_changed {s : Server} (action : Action) (w : Client) (hv : Valid u w)
    (h : ∀ id, w.changed id = 1 → (seen u s.db id).any isOpen) (id : Uuid)
    (hid : (clientStep u action w).changed id = 1) : (seen u s.db id).any isOpen := by
  refine h id ?_
  cases action with
  | serve e =>
    simp only [clientStep, Client.serve] at hid
    have hclock := hv.clock
    split at hid
    · exact hid
    · omega
  | deliver c =>
    simp only [clientStep] at hid
    split at hid <;> exact hid

theorem run_valid {s : Server} (hs : ServerReachable s) {actions : List Action}
    (h : Meets (clientStep u) (Told u) actions (start u s)) :
    Valid u (run (clientStep u) actions (start u s)) :=
  run_invariant (clientStep u) (step_valid u) actions _ h (start_valid u hs)

theorem run_changed {s : Server} (hs : ServerReachable s) {actions : List Action}
    (h : Meets (clientStep u) (Told u) actions (start u s)) :
    ∀ id, (run (clientStep u) actions (start u s)).changed id = 1 →
      (seen u s.db id).any isOpen :=
  (run_invariant (clientStep u)
    (fun action w hg (hw : Valid u w ∧ ∀ id, w.changed id = 1 → (seen u s.db id).any isOpen) =>
      ⟨step_valid u action w hg hw.1,step_changed u action w hw.1 hw.2⟩) actions _ h
    ⟨start_valid u hs,fun _ => start_changed u⟩).2

theorem delivered_converged {s : Server} {w : Client} (hv : Valid u w)
    (hchanged : ∀ id, w.changed id = 1 → (seen u s.db id).any isOpen) (h : Delivered u s w)
    (hlast : CaughtUp w) : Converged u w := by
  obtain ⟨hempty, hlisted⟩ := h
  have hagree : ∀ id, Agree Ended (w.leasesById id) (seen u w.server.db id) := by
    intro id
    rw [hlast id]
    refine hv.inSync.agree (Set.eq_empty_iff_forall_notMem.mpr ?_) ?_ id
    · rintro x ⟨c, m, hm, -⟩
      rw [hempty c] at hm
      cases hm
    · rintro id ⟨hl, hid⟩
      rcases hlisted with hlisted | hnone
      · exact absurd (hl.symm.trans hlisted) Bool.false_ne_true
      · have hany := hchanged id hid
        cases hp : seen u s.db id with
        | none => simp [hp] at hany
        | some p => simp [hp, isOpen, hnone id p hp] at hany
  refine ⟨fun id l hl => ?_,fun id l hl hlive => ?_⟩
  · have hid := hagree id
    rw [hl] at hid
    exact hid.final_eq
  · rcases hagree id with hid | ⟨-, hend⟩
    · exact hid.trans hl
    · exact absurd (hend l hl) hlive

/-- In every run as asked the table agrees with the server whenever everything
has arrived and the last message about each lease was not overtaken; and what was
shown as ENDED is not shown as open again until a message that was overtaken says so. -/
theorem leases_converge (s : Server) (hs : ServerReachable s) (actions : List Action)
    (h : Meets (clientStep u) (Told u) actions (start u s)) :
    (Delivered u s (run (clientStep u) actions (start u s)) →
      CaughtUp (run (clientStep u) actions (start u s)) →
        Converged u (run (clientStep u) actions (start u s))) ∧
    ∀ before after, actions = before ++ after → ∀ id l,
      (run (clientStep u) before (start u s)).leasesById id = some l → l.status = .ended →
      Meets (clientStep u) (Unrevived id) after (run (clientStep u) before (start u s)) →
      ∀ l', (run (clientStep u) actions (start u s)).leasesById id = some l' →
        l'.status = .ended := by
  constructor
  · exact delivered_converged u (run_valid u hs h) (run_changed u hs h)
  · rintro before after rfl id l hl hend hlate l' hl'
    obtain ⟨hbefore, htold⟩ := (meets_append _ (Told u) before after _).mp h
    have hv := run_valid u hs hbefore
    have hstart : Over u id (run (clientStep u) before (start u s)) := by
      refine ⟨hv.inSync.shownFinals id l hl hend,fun q hq => ?_⟩
      rw [Option.some.inj (hq.symm.trans hl)]
      exact hend
    rw [run_append] at hl'
    exact (run_invariant (clientStep u)
      (fun action w (hg : Told u action w ∧ Unrevived id action w)
          (hw : Valid u w ∧ Over u id w) =>
        ⟨step_valid u action w hg.1 hw.1,step_over u action w hg.1 hw.1 hg.2 hw.2⟩) after _
      (meets_and _ htold hlate) ⟨hv,hstart⟩).2.2 l' hl'

end User

def ann : User := { id := 7, username := "ann" }

def admin : User := { id := 9, username := "admin", isStaff := true }

/-- A node has connected. -/
def readyServer : Server :=
  run ControlPlaneServer.step [.connect (.device "node-1") "c1" 1,
    .receive "c1" (.nodeHello "cn" "a" "1.0" none) 2] (initial 0)

def rental : Action :=
  .serve (.rent ann ⟨"cn","a",.hour,1,none⟩ 3 (fun _ => (1,"token")))

def releaseOf (ids : List LeaseRef) : Action := .serve (.release ann ⟨ids,none⟩ 5)

/-- A list is overtaken by the news that its lease has ended. -/
def overtaken : List Action :=
  [rental,.deliver .pushes,.deliver .rents,.serve (.leaseList ann),releaseOf [.uuid 1],
    .deliver .pushes,.deliver .releases,.deliver .lists]

/-- A second list repairs what the first did. -/
def repaired : List Action := overtaken ++ [.serve (.leaseList ann),.deliver .lists]

theorem repaired_told : Meets (clientStep 7) (Told 7) repaired (start 7 readyServer) := by
  refine ⟨⟨trivial,fun _ => rfl⟩,trivial,trivial,⟨trivial,trivial⟩,⟨fun _ id hid => ?_,fun _ => rfl⟩,
    trivial,trivial,trivial,⟨trivial,trivial⟩,trivial,trivial⟩
  rw [LeaseRef.uuid.inj (List.mem_singleton.mp hid)]
  rfl

theorem repaired_converges :
    Converged 7 (run (clientStep 7) repaired (start 7 readyServer)) := by
  refine (leases_converge 7 readyServer ⟨0,_,rfl⟩ repaired repaired_told).1
    ⟨fun c => by cases c <;> rfl,Or.inl rfl⟩ fun id => ?_
  have hheard := (run_valid 7 ⟨0,_,rfl⟩
    (meets_of_append _ (Told 7) (repaired.take 9) [.deliver .lists] _ repaired_told)).inSync.heardPast
  have hnew : (run (clientStep 7) repaired (start 7 readyServer)).newest id =
      (run (clientStep 7) repaired (start 7 readyServer)).leasesById id :=
    if_pos ⟨Or.inl rfl,hheard id⟩
  exact hnew.symm

/-- A release ends a lease and stops at an id that is no lease. -/
def unannounced : List Action :=
  [rental,.deliver .pushes,.deliver .rents,releaseOf [.uuid 1,.uuid 2]]

/-- The node of an ended lease is deleted and the lease with it. -/
def deleted : List Action :=
  [rental,.deliver .pushes,.deliver .rents,releaseOf [.uuid 1],.deliver .pushes,
    .deliver .releases,.serve (.adminDeleteNode admin "node-1")]

/-- The status of lease 1 in the table and at the server. -/
def statuses (actions : List Action) : Option LeaseStatus × Option LeaseStatus :=
  let w := run (clientStep 7) actions (start 7 readyServer)
  ((w.leasesById 1).map LeaseData.status,(seen 7 w.server.db 1).map LeaseData.status)

theorem Converged.same_status {w : Client} {l : LeaseStatus} (h : Converged 7 w)
    (hl : (w.leasesById 1).map LeaseData.status = some l) :
    (seen 7 w.server.db 1).map LeaseData.status = some l := by
  obtain ⟨p, hp, rfl⟩ := Option.map_eq_some_iff.mp hl
  rw [h.agrees 1 p hp]
  rfl

/-- The ended lease is open again in the table that has heard everything. The
other two runs leave a lease open that has ended, and one that is gone. -/
theorem lease_reopens :
    (statuses (overtaken.take 7) = (some .ended,some .ended) ∧
      statuses overtaken = (some .assigned,some .ended)) ∧
    ∀ actions ∈ [overtaken,unannounced,deleted],
      Delivered 7 readyServer (run (clientStep 7) actions (start 7 readyServer)) ∧
        ¬ Converged 7 (run (clientStep 7) actions (start 7 readyServer)) := by
  have hnone : ∀ id l, seen 7 readyServer.db id = some l → l.status = .ended := by
    intro id l hl
    cases hl
  refine ⟨⟨rfl,rfl⟩,?_⟩
  intro actions hmem
  have hempty : ∀ c, (run (clientStep 7) actions (start 7 readyServer)).inbox c = [] := by
    simp only [List.mem_cons, List.not_mem_nil, or_false] at hmem
    rcases hmem with rfl | rfl | rfl <;> (intro c; cases c <;> rfl)
  refine ⟨⟨hempty,Or.inr hnone⟩,fun h => ?_⟩
  simp only [List.mem_cons, List.not_mem_nil, or_false] at hmem
  rcases hmem with rfl | rfl | rfl
  · cases (h.same_status (l := .assigned) rfl).symm.trans (b := some LeaseStatus.ended) rfl
  · cases (h.same_status (l := .assigned) rfl).symm.trans (b := some LeaseStatus.ended) rfl
  · cases (h.same_status (l := .ended) rfl).symm.trans (b := none) rfl

end CloudPlay.LeaseConvergence
