import CloudPlay.ControlPlaneJson
import CloudPlay.ControlPlaneClientModels

/-!
# What the client reads from a serialized row

Every status and billing unit decodes to the choice of the same name, and
every rendered instant has the format that the client parses. So a node is
decoded when its capabilities are null or an object, and a lease always is;
its end reason is known to the client when it is one of the model's choices.
-/

set_option autoImplicit false

namespace CloudPlay.WireDecoding
open ControlPlaneModels ControlPlaneSerializers ControlPlaneJson
open ControlPlaneClientModels (nodeStatusFromWire nodeStatusToWire leaseStatusFromWire
  leaseStatusToWire billingUnitFromWire billingUnitToWire endReasonFromWire endReasonToWire
  DateTime DateTime.parse dateTime digit oneOf optional dayPart timePart zonePart parseFormat
  asMap nullable orUnknown)

section Choices

theorem nodeStatus_agrees (s : NodeStatus) :
    nodeStatusToWire (nodeStatusFromWire (nodeStatusValue s)) = nodeStatusValue s := by
  cases s <;> decide

theorem leaseStatus_agrees (s : LeaseStatus) :
    leaseStatusToWire (leaseStatusFromWire (leaseStatusValue s)) = leaseStatusValue s := by
  cases s <;> decide

theorem billingUnit_agrees (u : BillingUnit) :
    billingUnitToWire (billingUnitFromWire (billingUnitValue u)) = billingUnitValue u := by
  cases u <;> decide

theorem endReason_agrees (r : EndReason) :
    endReasonToWire (endReasonFromWire r.value) = r.value ∧
      endReasonFromWire r.value ≠ .unknown := by
  cases r <;> decide

end Choices

section Instants
open RegularExpression Language

theorem mem_oneOf (c : Char) (cs : List Char) : [c] ∈ (oneOf cs).matches' ↔ c ∈ cs := by
  induction cs with
  | nil => simp [oneOf]
  | cons d cs ih =>
    have hhead : [c] ∈ (char d).matches' ↔ c = d := by
      show [c] ∈ ({[d]} : Set (List Char)) ↔ c = d
      simp
    show [c] ∈ (char d).matches' + (oneOf cs).matches' ↔ _
    rw [Language.mem_add, ih, List.mem_cons, hhead]

theorem digitChar_mem (n : ℕ) : [Nat.digitChar (n%10)] ∈ digit.matches' := by
  have h : n%10 < 10 := Nat.mod_lt n (by omega)
  apply (mem_oneOf _ _).mpr
  interval_cases n%10 <;> decide

theorem matches_optional {p : RegularExpression Char} {s : List Char} :
    s ∈ (optional p).matches' ↔ s = [] ∨ s ∈ p.matches' := by
  show s ∈ (1 : Language Char) + p.matches' ↔ _
  rw [Language.mem_add, Language.mem_one]

theorem matches_mul {p q : RegularExpression Char} {s t : List Char} (hs : s ∈ p.matches')
    (ht : t ∈ q.matches') : s ++ t ∈ (p*q).matches' :=
  Language.append_mem_mul hs ht

theorem matches_skip {p q : RegularExpression Char} {s : List Char} (hs : s ∈ q.matches') :
    s ∈ (optional p*q).matches' :=
  matches_mul (matches_optional.mpr (Or.inl rfl)) hs

theorem matches_cons {p q : RegularExpression Char} {c : Char} {s : List Char}
    (hc : [c] ∈ p.matches') (hs : s ∈ q.matches') : c::s ∈ (p*q).matches' :=
  matches_mul hc hs

theorem matches_separated (c : Char) {q : RegularExpression Char} {s : List Char}
    (hs : s ∈ q.matches') : c::s ∈ (optional (char c)*q).matches' :=
  matches_cons (matches_optional.mpr (Or.inr rfl)) hs

theorem twoDigits_mem (n : ℕ) : digits 2 n ∈ (digit*digit).matches' :=
  matches_mul (digitChar_mem (n/10)) (digitChar_mem n)

theorem dateText_mem (t : LocalTime) : dateText t ∈ dayPart.matches' := by
  have hyear : digits 4 t.year ∈ (digit*(digit*(digit*(digit*
      (optional digit*optional digit))))).matches' :=
    matches_cons (digitChar_mem _) (matches_cons (digitChar_mem _) (matches_cons (digitChar_mem _)
      (matches_cons (digitChar_mem _) (matches_skip (matches_optional.mpr (Or.inl rfl))))))
  have hmonth := matches_separated '-' (twoDigits_mem t.month)
  have hday := matches_separated '-' (twoDigits_mem t.day)
  exact matches_mul (matches_mul (matches_skip hyear) hmonth) hday

theorem digits_star (width n : ℕ) : digits width n ∈ (star digit).matches' := by
  induction width generalizing n with
  | zero => exact Language.nil_mem_kstar _
  | succ width ih =>
    show digits width (n/10) ++ [Nat.digitChar (n%10)] ∈ KStar.kstar digit.matches'
    rw [← Language.one_add_kstar_mul_self_eq_kstar, Language.mem_add]
    exact Or.inr (Language.append_mem_mul (ih (n/10)) (digitChar_mem n))

theorem fractionText_mem (t : LocalTime) :
    fractionText t ∈ (optional (oneOf ['.',','] * (digit * star digit))).matches' := by
  apply matches_optional.mpr
  unfold fractionText
  split
  · exact Or.inl rfl
  · right
    have hfirst : digits 6 t.microsecond =
        digits 1 (t.microsecond/100000) ++ digits 5 t.microsecond := by
      simp [digits, Nat.div_div_eq_div_mul]
    have hdigits : digits 6 t.microsecond ∈ (digit*star digit).matches' := by
      rw [hfirst]
      exact matches_mul (digitChar_mem _) (digits_star 5 _)
    exact matches_cons ((mem_oneOf _ _).mpr (by decide)) hdigits

theorem clockText_mem (t : LocalTime) :
    'T'::clockText t ++ fractionText t ∈ timePart.matches' := by
  have hseconds : ':'::digits 2 t.second ++ fractionText t ∈
      (optional (char ':')*(digit*digit)*
        optional (oneOf ['.',',']*(digit*star digit))).matches' :=
    matches_mul (matches_separated ':' (twoDigits_mem _)) (fractionText_mem t)
  have hminutes := matches_mul (matches_separated ':' (twoDigits_mem t.minute))
    (matches_optional.mpr (Or.inr hseconds))
  have hhours := matches_cons ((mem_oneOf 'T' [' ','T']).mpr (by decide)) (twoDigits_mem t.hour)
  have h := matches_mul hhours (matches_optional.mpr (Or.inr hminutes))
  have htext : 'T'::clockText t ++ fractionText t = 'T'::digits 2 t.hour ++
      (':'::digits 2 t.minute ++ (':'::digits 2 t.second ++ fractionText t)) := by
    simp [clockText]
  rw [htext]
  exact h

theorem offsetText_mem (t : LocalTime) : offsetText t ∈ zonePart.matches' := by
  unfold zonePart offsetText
  rw [matches'_add, Language.mem_add]
  split
  · exact Or.inl (matches_skip ((mem_oneOf _ _).mpr (by decide)))
  · right
    have hsign : [if t.west then '-' else '+'] ∈ (oneOf ['-','+']).matches' :=
      (mem_oneOf _ _).mpr (by cases t.west <;> decide)
    have hspaced : [if t.west then '-' else '+'] ∈
        (optional (char ' ')*oneOf ['-','+']).matches' := matches_skip hsign
    have hhours := matches_mul hspaced (twoDigits_mem t.offsetHours)
    have hminutes := matches_separated ':' (twoDigits_mem t.offsetMinutes)
    exact matches_mul hhours (matches_optional.mpr (Or.inr hminutes))

/-- The client parses every instant the server renders. -/
theorem parse_isoText (t : LocalTime) :
    ∃ d : DateTime, DateTime.parse (isoText t) = some d ∧ d.text = isoText t := by
  have hzone := matches_mul (clockText_mem t)
    (matches_optional.mpr (Or.inr (offsetText_mem t)))
  have h := matches_mul (dateText_mem t) (matches_optional.mpr (Or.inr hzone))
  have hmatch : parseFormat.rmatch (isoText t).toList = true := by
    have htext : (isoText t).toList =
        dateText t ++ ('T'::clockText t ++ fractionText t ++ offsetText t) := by
      simp [isoText]
    rw [rmatch_iff_matches', htext]
    exact h
  exact ⟨⟨isoText t,hmatch⟩,dif_pos hmatch,rfl⟩

end Instants

variable (r : Rendering)

/-- The client's lease says what the row says. -/
structure LeaseMatches (l : Lease) (d : ControlPlaneClientModels.Lease) : Prop where
  leaseId : d.leaseId = r.uuidText l.leaseId
  deviceId : d.deviceId = l.deviceId
  status : leaseStatusToWire d.status = leaseStatusValue l.status
  billingUnit : billingUnitToWire d.billingUnit = billingUnitValue l.billingUnit
  endReason : d.endReason.map endReasonToWire = l.endReason
  known : d.endReason ≠ some .unknown
  billedUnits : d.billedUnits = l.billedUnits.map Int.ofNat
  startedAt : d.startedAt.map DateTime.text = l.startedAt.map (fun t => isoText (r.localTime t))
  endedAt : d.endedAt.map DateTime.text = l.endedAt.map (fun t => isoText (r.localTime t))

/-- The client's node says what the row says. -/
structure NodeMatches (n : Node) (d : ControlPlaneClientModels.PoolNode) : Prop where
  deviceId : d.deviceId = n.deviceId
  connectionId : d.connectionId = n.connectionId
  status : nodeStatusToWire d.status = nodeStatusValue n.status
  lastSeen : d.lastSeen.text = isoText (r.localTime n.lastSeen)

def LeaseAgrees (l : Lease) : Prop :=
  ∃ d, ControlPlaneClientModels.Lease.fromJson (leaseJson r (serializeLease l)) = some d ∧
    LeaseMatches r l d

def NodeAgrees (n : Node) : Prop :=
  ∃ d, ControlPlaneClientModels.PoolNode.fromJson (nodeJson r (serializeNode n)) = some d ∧
    NodeMatches r n d

/-- The string is one of the choices of the column. -/
def KnownReason (reason : Option String) : Prop :=
  ∀ s ∈ reason, ∃ e : EndReason, s = e.value

/-- JSON null or an object. -/
def Mapping : Option Json → Prop
  | none => True
  | some .null => True
  | some (.obj _) => True
  | some _ => False

theorem nullable_str (s : Option String) :
    nullable asString (some (orNull Json.str s)) = some s := by
  cases s <;> rfl

theorem dateTime_instantJson (t : Instant) :
    ∃ d, dateTime (instantJson r t) = some d ∧ d.text = isoText (r.localTime t) := by
  unfold instantJson dateTime asString
  rw [Option.bind_some]
  exact parse_isoText (r.localTime t)

theorem nullable_instant (t : Option Instant) :
    ∃ d, nullable dateTime (some (orNull (instantJson r) t)) = some d ∧
      d.map DateTime.text = t.map (fun t => isoText (r.localTime t)) := by
  cases t with
  | none => exact ⟨none,rfl,rfl⟩
  | some t =>
    obtain ⟨d, hd, htext⟩ := dateTime_instantJson r t
    refine ⟨some d,?_,congrArg some htext⟩
    have hcast : nullable dateTime (some (orNull (instantJson r) (some t))) =
        (dateTime (instantJson r t)).map some := rfl
    rw [hcast, hd, Option.map_some]

theorem nullable_mapping (v : Option Json) :
    (nullable asMap (some (orNull id v))).isSome = true ↔ Mapping v := by
  cases v with
  | none => simp [orNull, nullable, Mapping]
  | some v => cases v <;> simp [orNull, nullable, asMap, Mapping]

theorem nullable_money (m : Option Money) :
    nullable ControlPlaneClientModels.asNum (some (orNull (moneyJson r) m)) =
      some (m.map (fun m => .double (r.floatText m))) := by
  cases m <;> rfl

theorem nullable_units (u : Option ℕ) :
    nullable asInt (some (orNull (fun u : ℕ => Json.int u) u)) =
      some (u.map Int.ofNat) := by
  cases u <;> rfl

/-- A serialized lease is decoded, whatever the row. -/
theorem lease_fromJson (l : Lease) : ∃ started ended,
    ControlPlaneClientModels.Lease.fromJson (leaseJson r (serializeLease l)) = some
      ⟨r.uuidText l.leaseId,l.deviceId,leaseStatusFromWire (leaseStatusValue l.status),
        billingUnitFromWire (billingUnitValue l.billingUnit),
        l.unitPrice.map (fun m => .double (r.floatText m)),l.billedUnits.map Int.ofNat,
        l.amount.map (fun m => .double (r.floatText m)),started,ended,
        l.endReason.map endReasonFromWire,some l.leaseToken⟩ ∧
    started.map DateTime.text = l.startedAt.map (fun t => isoText (r.localTime t)) ∧
    ended.map DateTime.text = l.endedAt.map (fun t => isoText (r.localTime t)) := by
  obtain ⟨started, hstarted, hs⟩ := nullable_instant r l.startedAt
  obtain ⟨ended, hended, he⟩ := nullable_instant r l.endedAt
  refine ⟨started,ended,?_,hs,he⟩
  simp only [ControlPlaneClientModels.Lease.fromJson, leaseJson, serializeLease, getField,
    List.find?, Option.map_some, Option.bind_some, asString, orUnknown, String.reduceEq,
    decide_false, decide_true, nullable_money, nullable_units, nullable_str, hstarted, hended,
    Option.bind_eq_bind, Option.pure_def]
  rfl

theorem lease_agrees_iff (l : Lease) : LeaseAgrees r l ↔ KnownReason l.endReason := by
  obtain ⟨started, ended, hjson, hs, he⟩ := lease_fromJson r l
  constructor
  · rintro ⟨d, hd, hm⟩ s hreason
    have hsame := hm.endReason
    have hknown := hm.known
    obtain ⟨e, hwire, hs⟩ := Option.map_eq_some_iff.mp (hsame.trans hreason)
    cases e with
    | unknown => exact absurd hwire hknown
    | userRelease => exact ⟨.userRelease,hs.symm⟩
    | nodeOffline => exact ⟨.nodeOffline,hs.symm⟩
    | adminForceRelease => exact ⟨.adminForceRelease,hs.symm⟩
    | timeout => exact ⟨.timeout,hs.symm⟩
    | error => exact ⟨.error,hs.symm⟩
  · intro hreason
    refine ⟨_,hjson,?_⟩
    have hstatus := leaseStatus_agrees l.status
    have hunit := billingUnit_agrees l.billingUnit
    generalize leaseStatusFromWire (leaseStatusValue l.status) = status at hstatus
    generalize billingUnitFromWire (billingUnitValue l.billingUnit) = unit at hunit
    refine ⟨rfl,rfl,hstatus,hunit,?_,?_,rfl,hs,he⟩
    · cases hl : l.endReason with
      | none => rfl
      | some s =>
        obtain ⟨e, rfl⟩ := hreason s hl
        exact congrArg some (endReason_agrees e).1
    · cases hl : l.endReason with
      | none => exact fun h => by cases h
      | some s =>
        obtain ⟨e, rfl⟩ := hreason s hl
        exact fun h => (endReason_agrees e).2 (Option.some.inj h)

theorem node_agrees_iff (n : Node) : NodeAgrees r n ↔ Mapping n.capabilities := by
  obtain ⟨seen, hseen, htext⟩ := dateTime_instantJson r n.lastSeen
  rw [← nullable_mapping]
  have hjson : ControlPlaneClientModels.PoolNode.fromJson (nodeJson r (serializeNode n)) =
      (nullable asMap (some (orNull id n.capabilities))).map (fun capabilities =>
        ⟨n.deviceId,n.region,n.gpuTier,nodeStatusFromWire (nodeStatusValue n.status),seen,
          n.connectionId,n.agentVersion,capabilities⟩) := by
    simp only [ControlPlaneClientModels.PoolNode.fromJson, nodeJson, serializeNode, getField,
      List.find?, Option.map_some, Option.bind_some, asString, orUnknown, String.reduceEq,
      decide_false, decide_true, nullable_str, hseen, Option.bind_eq_bind, Option.pure_def]
    cases nullable asMap (some (orNull id n.capabilities)) <;> rfl
  constructor
  · rintro ⟨d, hd, -⟩
    rw [hjson, Option.map_eq_some_iff] at hd
    obtain ⟨capabilities, hc, -⟩ := hd
    rw [hc]
    rfl
  · intro h
    obtain ⟨capabilities, hc⟩ := Option.isSome_iff_exists.mp h
    rw [hc, Option.map_some] at hjson
    refine ⟨_,hjson,?_⟩
    have hstatus := nodeStatus_agrees n.status
    generalize nodeStatusFromWire (nodeStatusValue n.status) = status at hstatus
    exact ⟨rfl,rfl,hstatus,htext⟩

/-- Leases whose end reasons the client reads alike ended for the same reason. -/
theorem reasons_apart {l l' : Lease} {d d' : ControlPlaneClientModels.Lease}
    (h : LeaseMatches r l d) (h' : LeaseMatches r l' d') (hsame : d.endReason = d'.endReason) :
    l.endReason = l'.endReason := by
  rw [← h.endReason, ← h'.endReason, hsame]

end CloudPlay.WireDecoding
