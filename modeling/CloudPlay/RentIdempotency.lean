import CloudPlay.KeyedOnce
import CloudPlay.LeaseLockOrder

/-!
# Renting with an idempotency key

`RentLeaseView` looks the key up, allocates in a transaction and stores the
key with the response after it. Two requests that both miss the key, or a
retry after one that was cut off before it stored the key, rent twice. In all
other runs the requests with one key rent one batch of nodes.
-/

set_option autoImplicit false

namespace CloudPlay.RentIdempotency
open KeyedTable ControlPlaneModels ControlPlaneSerializers ControlPlaneDatabase ControlPlaneViews
open ControlPlanePrograms TransactionProgram KeyedOnce TransitionRun
open ControlPlaneServer (initial)
open ExclusiveAssignment (ann)

def Carries (user : User) (key : String) : Request → Prop
  | .rent u req _ => u = user ∧ req.clientRequestId = some key
  | _ => False

/-- The leases of one allocation. -/
def newLeases (user : UserId) (unit : BillingUnit) (price : Money) (now : Instant)
    (draw : ℕ → Uuid × String) : ℕ → List Node → List Lease
  | _, [] => []
  | i, n::rest => newLease user unit price now (draw i) n::
      newLeases user unit price now draw (i+1) rest

def BatchOf : Request → List Lease → Prop
  | .rent user req draw, ls => ∃ price now nodes, nodes.length = req.count ∧
      ls = newLeases user.id req.billingUnit price now draw 0 nodes
  | _, _ => False

/-- The leases that are new come from one of the requests. -/
def OneBatch (rs : List Request) (before db : Database) : Prop :=
  (∀ l ∈ db.leases, l ∈ before.leases) ∨
  ∃ r ∈ rs, ∃ ls, BatchOf r ls ∧ ∀ l ∈ db.leases, l ∈ before.leases ∨ l ∈ ls

/-- All requests that succeed get the same response. -/
def SameResponse (threads : List (Thread Store Row (Option Response))) : Prop :=
  ∀ t ∈ threads, ∀ t' ∈ threads, ∀ r r', t.result = some (some r) → t'.result = some (some r') →
    r.success → r'.success → r.body = r'.body

def storedRent (user : User) (key : String) (s : Store) : Option Body :=
  existing s.db user .rent (some key)

def answerOf (x : Option Response) : Option Body :=
  x.bind (fun r => if r.success then some r.body else none)

def rentKeyed (user : User) (key : String) (rs : List Request) :
    Keyed Store (Option Response) Body Lease where
  stored := storedRent user key
  created s := {l | l ∈ s.db.leases}
  answer := answerOf
  batch b := ∃ r ∈ rs, ∃ ls, BatchOf r ls ∧ b = {l | l ∈ ls}

section Programs
variable {user : User} {key : String} {rs : List Request} {inside : Bool} {redo : Store → Store}
variable {c : Store}

theorem lawful_error {code message : String} {details : ErrorContext} {status : ℕ}
    (h : (errorResponse code message details status).success = false) :
    Lawful (rentKeyed user key rs) (answered (errorResponse code message details status))
      inside redo c := by
  intro b hb
  simp [rentKeyed, answerOf, h] at hb

theorem lawful_ok {body : Body} (h : storedRent user key c = some body) :
    Lawful (rentKeyed user key rs) (answered (ok body)) inside redo c := by
  intro b hb
  have hbody : body = b := Option.some.inj hb
  exact hbody ▸ h

/-- Writes that add leases and leave the keys alone. -/
def Adds (user : User) (key : String) (ls : List Lease) (redo : Store → Store) : Prop :=
  ∀ c, storedRent user key (redo c) = storedRent user key c ∧
    ∀ l ∈ (redo c).db.leases, l ∈ c.db.leases ∨ l ∈ ls

theorem adds_id : Adds user key [] id := fun _ => ⟨rfl,fun _ hl => Or.inl hl⟩

theorem Adds.created {ls : List Lease} (h : Adds user key ls redo) (l : Lease) :
    Adds user key (ls ++ [l]) ((fun s => s.with ((s.db.createLease l).getD s.db)) ∘ redo) := by
  intro c
  obtain ⟨hstored, hleases⟩ := h c
  cases hl : (redo c).db.createLease l with
  | none =>
    have hsame : ((redo c).with (((redo c).db.createLease l).getD (redo c).db)) = redo c := by
      rw [hl]
      rfl
    rw [Function.comp_apply, hsame]
    refine ⟨hstored,fun q hq => ?_⟩
    rcases hleases q hq with hold | hnew
    · exact Or.inl hold
    · exact Or.inr (List.mem_append_left _ hnew)
  | some db =>
    obtain ⟨leases, hins, hdb⟩ := Option.map_eq_some_iff.mp hl
    obtain ⟨hnone, rfl⟩ := Table.insert?_eq_some.mp hins
    simp only [Function.comp_apply, hl, Option.getD_some]
    subst hdb
    refine ⟨hstored,fun q hq => ?_⟩
    rcases (Table.mem_insert _ l q hnone).mp hq with hold | rfl
    · rcases hleases q hold with hold | hnew
      · exact Or.inl hold
      · exact Or.inr (List.mem_append_left _ hnew)
    · exact Or.inr (by simp)

theorem Adds.node {ls : List Lease} (h : Adds user key ls redo) (d : String) (f : Node → Node)
    (hf : ∀ n, (f n).deviceId = n.deviceId) :
    Adds user key ls ((fun s => s.with (s.db.updateNode d f hf)) ∘ redo) := h

theorem lawful_allocate {unit : BillingUnit} {price : Money} {now : Instant}
    {draw : ℕ → Uuid × String} {i : ℕ} {nodes : List Node} {k : List Lease → Program}
    {ls : List Lease} (hadds : Adds user key ls redo)
    (hk : ∀ redo' c', Adds user key (ls ++ newLeases user.id unit price now draw i nodes) redo' →
      Lawful (rentKeyed user key rs) (k (newLeases user.id unit price now draw i nodes))
        true redo' c') :
    Lawful (rentKeyed user key rs) (allocate user.id unit price now draw i nodes k)
      true redo c := by
  induction nodes generalizing i k ls redo c with
  | nil => exact hk redo c (by simpa [newLeases] using hadds)
  | cons n nodes ih =>
    refine ⟨fun _ c₁ _ => ⟨fun _ => ?_,fun _ => trivial⟩,fun hout => by cases hout⟩
    refine ⟨fun _ c₂ _ => ⟨fun _ => ?_,fun _ => trivial⟩,fun hout => by cases hout⟩
    have hone := (hadds.created (newLease user.id unit price now (draw i) n)).node n.deviceId
      (fun n => { n with status := .assigned }) (withStatus_deviceId .assigned)
    refine ih hone fun redo' c' hall => ?_
    exact hk redo' c' (by simpa [newLeases] using hall)

/-- The unique key lets the first answer in and no second one. -/
theorem createKey_cases (s : Store) (body : Body) :
    (∃ db, s.db.createIdempotencyKey ⟨user.id,.rent,key,body⟩ = some db ∧
      db.leases = s.db.leases ∧ storedRent user key s = none ∧
      storedRent user key (s.with db) = some body) ∨
    (s.db.createIdempotencyKey ⟨user.id,.rent,key,body⟩ = none ∧
      (storedRent user key s).isSome) := by
  have hget : storedRent user key s =
      (s.db.idempotencyKeys.get? (user.id,.rent,key)).map IdempotencyKey.responseJson := rfl
  by_cases hnone : s.db.idempotencyKeys.get? (user.id,.rent,key) = none
  · let keys := s.db.idempotencyKeys.insert ⟨user.id,.rent,key,body⟩ hnone
    have hrow : keys.get? (user.id,.rent,key) = some ⟨user.id,.rent,key,body⟩ :=
      (Table.get?_insert _ _ hnone _).trans (if_pos rfl)
    refine Or.inl ⟨{ s.db with idempotencyKeys := keys },?_,rfl,?_,?_⟩
    · exact Option.map_eq_some_iff.mpr ⟨keys,Table.insert?_eq_some.mpr ⟨hnone,rfl⟩,rfl⟩
    · rw [hget, hnone]
      rfl
    · exact congrArg (Option.map IdempotencyKey.responseJson) hrow
  · refine Or.inr ⟨?_,?_⟩
    · exact Option.map_eq_none_iff.mpr (dif_neg hnone)
    · rw [hget, Option.isSome_map]
      exact Option.isSome_iff_ne_none.mpr hnone

theorem lawful_rememberKey {body : Body} :
    Lawful (rentKeyed user key rs) (rememberKey user .rent (some key) body) false redo c := by
  refine ⟨fun hin => (by cases hin),fun _ => ⟨rfl,rfl,fun c' _ => ⟨fun htest => ?_,
    fun htest => ?_⟩⟩⟩
  · rcases @createKey_cases user key c' body with ⟨db, hdb, hleases, hnone, hsome⟩ | ⟨hdb, -⟩
    · have hnext : c'.with ((c'.db.createIdempotencyKey ⟨user.id,.rent,key,body⟩).getD c'.db) =
          c'.with db := by rw [hdb, Option.getD_some]
      dsimp only
      rw [hnext]
      refine ⟨fun b hb => ?_,?_,?_,lawful_ok hsome⟩
      · exact absurd (hnone.symm.trans hb) (by simp)
      · exact Option.isSome_iff_exists.mpr ⟨body,hsome⟩
      · intro l hl
        show l ∈ c'.db.leases
        rw [← hleases]
        exact hl
    · simp [hdb] at htest
  · rcases @createKey_cases user key c' body with ⟨db, hdb, -⟩ | ⟨-, hsome⟩
    · simp [hdb] at htest
    · exact ⟨hsome,trivial⟩

theorem lawful_rentProgram {req : RentRequest} {draw : ℕ → Uuid × String}
    (hmem : Request.rent user req draw ∈ rs) (hkey : req.clientRequestId = some key) :
    Lawful (rentKeyed user key rs) (rentProgram user req draw) false id c := by
  obtain ⟨region, gpuTier, unit, count, client⟩ := req
  simp only at hkey
  subst hkey
  unfold rentProgram
  split
  · exact lawful_error rfl
  · intro c₁ _
    dsimp only
    split
    · rename_i body hbody
      exact ⟨fun _ => rfl,lawful_ok hbody⟩
    · refine ⟨fun _ => rfl,fun c₂ _ => ⟨fun _ => rfl,fun c₃ _ _ c₄ _ => ?_⟩⟩
      dsimp only
      split
      · exact fun c₅ _ => ⟨rfl,lawful_error rfl,fun _ => subset_rfl,fun hw => by cases hw⟩
      · rename_i hcount
        refine fun c₅ _ => ⟨fun hout => (by cases hout),lawful_allocate adds_id ?_⟩
        intro redo c₆ hadds c₇ _
        simp only [List.nil_append] at hadds
        have hlength : (freeNodes (id c₄).db region gpuTier count).length = count := by
          have hle := List.length_take_le count ((c₄.db.nodes.rows.filter
            (rentable region gpuTier)).insertionSort (fun a b => a.lastSeen ≤ b.lastSeen))
          exact le_antisymm hle (not_lt.mp hcount)
        refine ⟨(hadds c₇).1,lawful_rememberKey,fun hw => (by cases hw),fun _ => ?_⟩
        exact ⟨_,⟨_,hmem,_,⟨_,_,_,hlength,rfl⟩,rfl⟩,fun l hl => (hadds c₇).2 l hl⟩

theorem isWrite_rentProgram {req : RentRequest} {draw : ℕ → Uuid × String} :
    isWrite (rentProgram user req draw) = false := by
  unfold rentProgram lookup
  split
  · rfl
  · split <;> rfl

end Programs

/-- In every run of requests with one key in which an allocation is committed
only while the key is not stored and no other allocation waits to be stored
under it, and in which no request is cut off between the two: at every moment
at most one batch of leases has been created, and all responses are the same. -/
theorem rented_once_run (user : User) (key : String) (rs : List Request) (s : Store)
    (ms before after : List Move) (hrs : ∀ r ∈ rs, Carries user key r) (hms : ms = before ++ after)
    (h : Meets step (InTurn (storedRent user key)) ms (serving {} rs s)) :
    OneBatch rs s.db (run step before (serving {} rs s)).committed.db ∧
    SameResponse (run step before (serving {} rs s)).threads := by
  subst hms
  have hbefore := (meets_append _ _ _ _ _).mp h
  have hlawful : ∀ p ∈ rs.map (Request.program {}),
      Lawful (rentKeyed user key rs) p false id s ∧ isWrite p = false := by
    intro p hp
    obtain ⟨r, hr, rfl⟩ := List.mem_map.mp hp
    have hc := hrs r hr
    cases r with
    | rent u req draw =>
      obtain ⟨rfl, hkey⟩ := hc
      exact ⟨lawful_rentProgram hr hkey,isWrite_rentProgram⟩
    | _ => exact absurd hc id
  have honce := once_run before _ hbefore.1
    (once_begin (fun p hp => (hlawful p hp).1) (fun p hp => (hlawful p hp).2))
  refine ⟨?_,?_⟩
  · rcases honce.oneBatch with hnone | ⟨b, ⟨r, hr, ls, hls, rfl⟩, hone⟩
    · exact Or.inl hnone
    · exact Or.inr ⟨r,hr,ls,hls,hone⟩
  · intro t ht t' ht' r r' hres hres' hok hok'
    have hstored := honce.answers ht hres r.body (by simp [rentKeyed, answerOf, hok])
    have hstored' := honce.answers ht' hres' r'.body (by simp [rentKeyed, answerOf, hok'])
    exact Option.some.inj (hstored.symm.trans hstored')

/-- Two nodes are free. -/
def freeRun : List ControlPlaneServer.Event :=
  [.connect (.device "node-1") "c1" 1,.receive "c1" (.nodeHello "cn" "a" "1.0" none) 2,
    .connect (.device "node-2") "c2" 3,.receive "c2" (.nodeHello "cn" "a" "1.0" none) 4]

def freeStore : Store := ⟨(run ControlPlaneServer.step freeRun (initial 0)).db,5⟩

def rentWithKey (id : Uuid) (token : String) : Request :=
  .rent ann ⟨"cn","a",.hour,1,some "k"⟩ (fun _ => (id,token))

/-- A double click. -/
def clickedTwice : List Request := [rentWithKey 1 "t1",rentWithKey 2 "t2"]

theorem carries_clickedTwice : ∀ r ∈ clickedTwice, Carries ann "k" r := by
  intro r hr
  simp only [clickedTwice, List.mem_cons, List.not_mem_nil, or_false] at hr
  rcases hr with rfl | rfl <;> exact ⟨rfl,rfl⟩

/-- The second click comes when the key has been stored. -/
def oneAfterTheOther : List Move := List.replicate 11 (.run 0) ++ [.run 1]

theorem second_click_same_response :
    (run step oneAfterTheOther (serving {} clickedTwice freeStore)).threads.map
      (fun t => t.result.isSome) = [true,true] ∧
    OneBatch clickedTwice freeStore.db
      (run step oneAfterTheOther (serving {} clickedTwice freeStore)).committed.db ∧
    SameResponse (run step oneAfterTheOther (serving {} clickedTwice freeStore)).threads := by
  refine ⟨by decide,?_⟩
  exact rented_once_run ann "k" clickedTwice freeStore oneAfterTheOther oneAfterTheOther []
    carries_clickedTwice (List.append_nil _).symm (by decide)

/-- Both clicks look the key up before it is stored. -/
def bothAtOnce : List Move :=
  [.run 0,.run 1] ++ List.replicate 10 (.run 0) ++ List.replicate 10 (.run 1)

theorem batchOf_drawn {id : Uuid} {token : String} {ls : List Lease}
    (h : BatchOf (rentWithKey id token) ls) : ∀ l ∈ ls, l.leaseId = id := by
  obtain ⟨price, now, nodes, -, rfl⟩ := h
  generalize 0 = i
  induction nodes generalizing i with
  | nil => simp [newLeases]
  | cons n nodes ih =>
    intro l hl
    rcases List.mem_cons.mp hl with rfl | hrest
    · rfl
    · exact ih (i+1) l hrest

theorem double_click_rents_twice : ¬OneBatch clickedTwice freeStore.db
    (run step bothAtOnce (serving {} clickedTwice freeStore)).committed.db := by
  have hids : (run step bothAtOnce
      (serving {} clickedTwice freeStore)).committed.db.leases.rows.map Lease.leaseId = [1,2] := by
    decide
  have hnone : freeStore.db.leases.rows = [] := by decide
  have hold (l : Lease) : l ∉ freeStore.db.leases := by
    show l ∉ freeStore.db.leases.rows
    simp [hnone]
  have hboth (id : Uuid) (hid : id ∈ [1,2]) : ∃ l ∈ (run step bothAtOnce
      (serving {} clickedTwice freeStore)).committed.db.leases, l.leaseId = id :=
    List.mem_map.mp (hids ▸ hid)
  obtain ⟨l₁, hl₁, hid₁⟩ := hboth 1 (by decide)
  obtain ⟨l₂, hl₂, hid₂⟩ := hboth 2 (by decide)
  rintro (hnew | ⟨r, hr, ls, hls, hone⟩)
  · exact hold l₁ (hnew l₁ hl₁)
  · have hmem₁ := (hone l₁ hl₁).resolve_left (hold l₁)
    have hmem₂ := (hone l₂ hl₂).resolve_left (hold l₂)
    simp only [clickedTwice, List.mem_cons, List.not_mem_nil, or_false] at hr
    rcases hr with rfl | rfl
    · exact absurd (hid₂.symm.trans (batchOf_drawn hls l₂ hmem₂)) (by decide)
    · exact absurd (hid₁.symm.trans (batchOf_drawn hls l₁ hmem₁)) (by decide)

/-- The first request is cut off when its leases are committed, and the retry
rents again. -/
example : (run step
    (List.replicate 10 (Move.run 0) ++ [Move.abort 0] ++ List.replicate 11 (Move.run 1))
    (serving {} clickedTwice freeStore)).committed.db.leases.rows.map Lease.leaseId = [1,2] := by
  decide

end CloudPlay.RentIdempotency
