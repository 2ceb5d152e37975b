import Mathlib.Data.Int.Init
import Mathlib.Data.List.Basic
import Mathlib.Tactic.Ring

/-!
# Numbers in byte buffers

Unsigned numbers as bytes in either order, and views of a buffer that read and
write fixed-width fields at an offset. An access outside the buffer has no
result. A buffer written as fields one behind the other reads back each of
them, reduced to the width of its field.
-/

set_option autoImplicit false

namespace ByteViews

inductive Endian where
  | big
  | little
  deriving DecidableEq, Repr

def leBytes : ℕ → ℕ → List UInt8
  | 0, _ => []
  | n+1, v => UInt8.ofNat v::leBytes n (v/256)

def leValue : List UInt8 → ℕ
  | [] => 0
  | b::bs => b.toNat+256*leValue bs

def bytesOf : Endian → ℕ → ℕ → List UInt8
  | .big, n, v => (leBytes n v).reverse
  | .little, n, v => leBytes n v

def valueOf : Endian → List UInt8 → ℕ
  | .big, bs => leValue bs.reverse
  | .little, bs => leValue bs

section
variable (e : Endian) (n v : ℕ) (bs : List UInt8)

theorem leBytes_length : (leBytes n v).length = n := by
  induction n generalizing v with
  | zero => rfl
  | succ n ih => simp [leBytes, ih]

@[simp] theorem bytesOf_length : (bytesOf e n v).length = n := by
  cases e <;> simp [bytesOf, leBytes_length]

theorem leValue_leBytes : leValue (leBytes n v) = v%256^n := by
  induction n generalizing v with
  | zero => simp [leBytes, leValue, Nat.mod_one]
  | succ n ih =>
    have hb : (UInt8.ofNat v).toNat = v%256 := by simp
    rw [leBytes, leValue, ih, hb, Nat.pow_succ, Nat.mul_comm (256^n) 256, Nat.mod_mul]

theorem leValue_lt : leValue bs < 256^bs.length := by
  induction bs with
  | nil => decide
  | cons b bs ih =>
    have hb := b.toNat_lt
    rw [leValue, List.length_cons, Nat.pow_succ]
    omega

theorem valueOf_lt : valueOf e bs < 256^bs.length := by
  cases e with
  | big =>
    rw [← List.length_reverse]
    exact leValue_lt bs.reverse
  | little => exact leValue_lt bs

theorem leBytes_leValue : leBytes bs.length (leValue bs) = bs := by
  induction bs with
  | nil => rfl
  | cons b bs ih =>
    have hb : b.toNat < 256 := b.toNat_lt
    have hd : (b.toNat+256*leValue bs)/256 = leValue bs := by omega
    have hm : UInt8.ofNat (b.toNat+256*leValue bs) = b := by
      apply UInt8.toNat_inj.mp
      rw [UInt8.toNat_ofNat']
      omega
    rw [List.length_cons, leValue, leBytes, hd, hm, ih]

@[simp] theorem valueOf_bytesOf : valueOf e (bytesOf e n v) = v%256^n := by
  cases e <;> simp [bytesOf, valueOf, leValue_leBytes]

/-- A field written in one order and read in the other keeps its value exactly
when its bytes are a palindrome. -/
theorem little_of_big_iff (hv : v < 256^n) :
    valueOf .little (bytesOf .big n v) = v ↔ (leBytes n v).reverse = leBytes n v := by
  constructor
  · intro h
    have hb := leBytes_leValue (leBytes n v).reverse
    rw [List.length_reverse, leBytes_length] at hb
    rw [valueOf, bytesOf] at h
    rw [h] at hb
    exact hb.symm
  · intro h
    rw [valueOf, bytesOf, h, leValue_leBytes, Nat.mod_eq_of_lt hv]

end

def read (d : List UInt8) (i n : ℕ) : Option (List UInt8) :=
  if i+n ≤ d.length then some ((d.drop i).take n) else none

def write (d : List UInt8) (i : ℕ) (bs : List UInt8) : Option (List UInt8) :=
  if i+bs.length ≤ d.length then some (d.take i ++ bs ++ d.drop (i+bs.length)) else none

section
variable {bs : List UInt8} {i n : ℕ}

theorem read_append_left {a b : List UInt8} (h : a.length = n) : read (a++b) 0 n = some a := by
  subst h
  simp [read]

theorem read_append_right {a b : List UInt8} (h : a.length ≤ i) :
    read (a++b) i n = read b (i-a.length) n := by
  have hd : (a++b).drop i = b.drop (i-a.length) := by
    rw [List.drop_append, List.drop_of_length_le h, List.nil_append]
  simp only [read, List.length_append, hd]
  congr 1
  apply propext
  omega

theorem read_self (h : bs.length = n) : read bs 0 n = some bs := by
  subst h
  simp [read]

end

/-! Integers of `n` bytes: a write keeps the low bytes, a read is unsigned or in
two's complement. -/

def lowBytes (n : ℕ) (v : ℤ) : ℕ := (v%(256^n : ℕ)).toNat

def signed (n : ℕ) (v : ℤ) : ℤ := v.bmod (256^n)

def setUint8 (d : List UInt8) (i : ℕ) (v : ℤ) : Option (List UInt8) :=
  write d i (bytesOf .big 1 (lowBytes 1 v))

def setInt32 (d : List UInt8) (i : ℕ) (v : ℤ) (e : Endian) : Option (List UInt8) :=
  write d i (bytesOf e 4 (lowBytes 4 v))

def getUint8 (d : List UInt8) (i : ℕ) : Option ℤ :=
  (read d i 1).map fun bs => (valueOf .big bs : ℤ)

def getInt32 (d : List UInt8) (i : ℕ) (e : Endian) : Option ℤ :=
  (read d i 4).map fun bs => signed 4 (valueOf e bs)

/-- A float of single precision is its 32 bits. -/
def setFloat32 (d : List UInt8) (i : ℕ) (x : UInt32) (e : Endian) : Option (List UInt8) :=
  write d i (bytesOf e 4 x.toNat)

def getFloat32 (d : List UInt8) (i : ℕ) (e : Endian) : Option UInt32 :=
  (read d i 4).map fun bs => UInt32.ofNat (valueOf e bs)

section
variable (n : ℕ) (v : ℤ)

theorem width_pos : (0 : ℤ) < (256^n : ℕ) :=
  Int.natCast_pos.mpr (Nat.pow_pos (by decide))

theorem lowBytes_cast : (lowBytes n v : ℤ) = v%(256^n : ℕ) :=
  Int.toNat_of_nonneg (Int.emod_nonneg v (width_pos n).ne')

theorem lowBytes_mod : lowBytes n v%256^n = lowBytes n v := by
  apply Nat.mod_eq_of_lt
  have h := Int.emod_lt_of_pos v (width_pos n)
  rw [← lowBytes_cast] at h
  exact_mod_cast h

theorem signed_lowBytes : signed n (lowBytes n v) = signed n v := by
  rw [signed, signed, lowBytes_cast, Int.emod_bmod]

theorem signed_field (e : Endian) :
    signed n (valueOf e (bytesOf e n (lowBytes n v)) : ℤ) = signed n v := by
  rw [valueOf_bytesOf, lowBytes_mod, signed_lowBytes]

theorem signed_eq (h : -2^31 ≤ v) (h' : v < 2^31) : signed 4 v = v := by
  simp only [signed, Int.bmod]
  omega

theorem signed_range : -2^31 ≤ signed 4 v ∧ signed 4 v < 2^31 := by
  simp only [signed, Int.bmod]
  omega

theorem signed_eq_iff : signed 4 v = v ↔ -2^31 ≤ v ∧ v < 2^31 := by
  constructor
  · intro h
    rw [← h]
    exact signed_range v
  · intro h
    exact signed_eq v h.1 h.2

end

@[simp] theorem float_toNat_mod (x : UInt32) : x.toNat%256^4 = x.toNat :=
  Nat.mod_eq_of_lt x.toNat_lt

/-! A buffer as its fields one behind the other. -/

def byteField (v : ℤ) : List UInt8 := bytesOf .big 1 (lowBytes 1 v)

def intField (e : Endian) (v : ℤ) : List UInt8 := bytesOf e 4 (lowBytes 4 v)

def floatField (e : Endian) (x : UInt32) : List UInt8 := bytesOf e 4 x.toNat

section
variable (e : Endian) (v : ℤ) (x : UInt32) (rest : List UInt8)

@[simp] theorem byteField_length : (byteField v).length = 1 := bytesOf_length _ _ _

@[simp] theorem intField_length : (intField e v).length = 4 := bytesOf_length _ _ _

@[simp] theorem floatField_length : (floatField e x).length = 4 := bytesOf_length _ _ _

@[simp] theorem getUint8_byteField : getUint8 (byteField v++rest) 0 = some (v%256) := by
  rw [getUint8, read_append_left (byteField_length v), byteField, Option.map_some,
    valueOf_bytesOf, lowBytes_mod, lowBytes_cast]
  rfl

@[simp] theorem getInt32_intField : getInt32 (intField e v++rest) 0 e = some (signed 4 v) := by
  rw [getInt32, read_append_left (intField_length e v), intField, Option.map_some, signed_field]

@[simp] theorem getFloat32_floatField : getFloat32 (floatField e x++rest) 0 e = some x := by
  rw [getFloat32, read_append_left (floatField_length e x), floatField, Option.map_some,
    valueOf_bytesOf, float_toNat_mod, UInt32.ofNat_toNat]

/-- Any four bytes are a float. -/
theorem floatField_leValue {bs : List UInt8} (h : bs.length = 4) :
    floatField .little (UInt32.ofNat (leValue bs)) = bs := by
  have hlt := leValue_lt bs
  rw [h] at hlt
  rw [floatField, bytesOf, UInt32.toNat_ofNat_of_lt' hlt, ← h]
  exact leBytes_leValue bs

/-! The last field. -/

@[simp] theorem getUint8_last : getUint8 (byteField v) 0 = some (v%256) := by
  simpa using getUint8_byteField v []

@[simp] theorem getInt32_last : getInt32 (intField e v) 0 e = some (signed 4 v) := by
  simpa using getInt32_intField e v []

@[simp] theorem getFloat32_last : getFloat32 (floatField e x) 0 e = some x := by
  simpa using getFloat32_floatField e x []

end

section
variable {a b : List UInt8} {i : ℕ} (e : Endian)

/-! A read behind a field is a read of the rest. -/

theorem getUint8_skip (h : a.length ≤ i) : getUint8 (a++b) i = getUint8 b (i-a.length) := by
  rw [getUint8, getUint8, read_append_right h]

theorem getInt32_skip (h : a.length ≤ i) : getInt32 (a++b) i e = getInt32 b (i-a.length) e := by
  rw [getInt32, getInt32, read_append_right h]

theorem getFloat32_skip (h : a.length ≤ i) :
    getFloat32 (a++b) i e = getFloat32 b (i-a.length) e := by
  rw [getFloat32, getFloat32, read_append_right h]

end

/-! A buffer of zeros is filled from its front. -/

section
variable {a b bs : List UInt8} {i n : ℕ} (e : Endian) (v : ℤ) (x : UInt32)

theorem write_skip (h : a.length ≤ i) :
    write (a++b) i bs = (write b (i-a.length) bs).map fun b' => a++b' := by
  have hfits : i+bs.length ≤ (a++b).length ↔ i-a.length+bs.length ≤ b.length := by
    rw [List.length_append]
    omega
  have htake : (a++b).take i = a++b.take (i-a.length) := by
    rw [List.take_append, List.take_of_length_le h]
  have hdrop : (a++b).drop (i+bs.length) = b.drop (i-a.length+bs.length) := by
    rw [List.drop_append, List.drop_of_length_le (by omega), List.nil_append]
    congr 1
    omega
  unfold write
  by_cases hb : i-a.length+bs.length ≤ b.length
  · rw [if_pos (hfits.mpr hb), if_pos hb, htake, hdrop, Option.map_some]
    simp only [List.append_assoc]
  · rw [if_neg (mt hfits.mp hb), if_neg hb]
    rfl

theorem write_zeros (h : bs.length ≤ n) :
    write (List.replicate n 0) 0 bs = some (bs++List.replicate (n-bs.length) 0) := by
  simp [write, h]

theorem setUint8_skip (h : a.length ≤ i) :
    setUint8 (a++b) i v = (setUint8 b (i-a.length) v).map fun b' => a++b' := write_skip h

theorem setInt32_skip (h : a.length ≤ i) :
    setInt32 (a++b) i v e = (setInt32 b (i-a.length) v e).map fun b' => a++b' := write_skip h

theorem setFloat32_skip (h : a.length ≤ i) :
    setFloat32 (a++b) i x e = (setFloat32 b (i-a.length) x e).map fun b' => a++b' := write_skip h

theorem setUint8_zeros (h : 1 ≤ n) :
    setUint8 (List.replicate n 0) 0 v = some (byteField v++List.replicate (n-1) 0) := by
  rw [setUint8, write_zeros (by simpa using h), bytesOf_length]
  rfl

theorem setUint8_last : setUint8 [0] 0 v = some (byteField v) := by
  simpa using setUint8_zeros v (le_refl 1)

theorem setInt32_zeros (h : 4 ≤ n) :
    setInt32 (List.replicate n 0) 0 v e = some (intField e v++List.replicate (n-4) 0) := by
  rw [setInt32, write_zeros (by simpa using h), bytesOf_length]
  rfl

theorem setFloat32_zeros (h : 4 ≤ n) :
    setFloat32 (List.replicate n 0) 0 x e = some (floatField e x++List.replicate (n-4) 0) := by
  rw [setFloat32, write_zeros (by simpa using h), bytesOf_length]
  rfl

end

end ByteViews
