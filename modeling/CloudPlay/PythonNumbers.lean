import CloudPlay.RoundedQuotient

/-!
# Numbers as Python reads and writes them

What `int()` makes of a text, and the doubles that `json` makes of numbers with
a fraction or an exponent: `int()` cuts them off, and `str()` writes as few
digits as are read as the same double. Of the decimal digits of Unicode only
those of ASCII are read, and however many there are.
-/

set_option autoImplicit false

namespace PythonNumbers
open RoundedQuotient

/-- A finite double is `significand*2^exponent`, below zero if it is negative. -/
inductive Double where
  | finite (negative : Bool) (significand : ℕ) (exponent : ℤ)
  | infinite (negative : Bool)
  | nan
  deriving DecidableEq

/-- `base^e`, or 1 for a negative exponent. -/
def up (base : ℕ) (e : ℤ) : ℕ := base^e.toNat

/-- The greatest `k` such that `base^k` is at most `a/b`. -/
def floorLog (base a b : ℕ) : ℤ :=
  let k : ℤ := (Nat.toDigits base a).length-(Nat.toDigits base b).length
  if up base k*b ≤ up base (-k)*a then k else k-1

/-- `a/b` rounded to 53 bits, or to fewer next to zero, ties to even. -/
def nearest (negative : Bool) (a b : ℕ) : Double :=
  let e := max (floorLog 2 a b-52) (-1074)
  let significand := (roundHalfEven (a*up 2 (-e)) (b*up 2 e)).toNat
  if 2^1024 ≤ significand*up 2 e then .infinite negative
  else if significand = 2^53 then .finite negative (2^52) (e+1)
  else .finite negative significand e

/-- `digits*10^exponent`. The largest double is below `10^309`, and half of the
smallest is above `10^-324`. -/
def decimal (negative : Bool) (digits : ℕ) (exponent : ℤ) : Double :=
  let size := (Nat.toDigits 10 digits).length+exponent
  if digits = 0 ∨ size < -330 then .finite negative 0 0
  else if 310 < size then .infinite negative
  else nearest negative (digits*up 10 exponent) (up 10 (-exponent))

section Reading

def isSpace (c : Char) : Bool :=
  9 ≤ c.toNat ∧ c.toNat ≤ 13 ∨ 28 ≤ c.toNat ∧ c.toNat ≤ 32 ∨
    0x2000 ≤ c.toNat ∧ c.toNat ≤ 0x200a ∨
    c.toNat ∈ [0x85,0xa0,0x1680,0x2028,0x2029,0x202f,0x205f,0x3000]

def strip (cs : List Char) : List Char :=
  ((cs.dropWhile isSpace).reverse.dropWhile isSpace).reverse

/-- Digits, between which single underscores may stand; `after` a digit. -/
def readNat (after : Bool) (n : ℕ) : List Char → Option ℕ
  | [] => if after then some n else none
  | c::cs =>
    if c = '_' then if after then readNat false n cs else none
    else if c.isDigit then readNat true (10*n+(c.toNat - '0'.toNat)) cs
    else none

def readSigned : List Char → Option ℤ
  | '-'::cs => (readNat false 0 cs).map (fun n : ℕ => -(n : ℤ))
  | '+'::cs => (readNat false 0 cs).map Int.ofNat
  | cs => (readNat false 0 cs).map Int.ofNat

/-- `int` of a text. -/
def readInt (s : String) : Option ℤ := readSigned (strip s.toList)

def readExponent : List Char → ℤ
  | [] => 0
  | _ :: '-' :: cs => -(Nat.ofDigitChars 10 cs 0 : ℤ)
  | _ :: '+' :: cs => Nat.ofDigitChars 10 cs 0
  | _::cs => Nat.ofDigitChars 10 cs 0

/-- A number of a JSON text, or one of the three words that `json` takes besides. -/
def readReal (text : String) : Double :=
  let (negative,cs) := match text.toList with
    | '-'::cs => (true,cs)
    | cs => (false,cs)
  if cs = ['N','a','N'] then .nan
  else if cs = ['I','n','f','i','n','i','t','y'] then .infinite negative
  else
    let whole := cs.takeWhile Char.isDigit
    let (fraction,rest) := match cs.dropWhile Char.isDigit with
      | '.'::rest => (rest.takeWhile Char.isDigit,rest.dropWhile Char.isDigit)
      | rest => ([],rest)
    decimal negative (Nat.ofDigitChars 10 (whole ++ fraction) 0)
      (readExponent rest-fraction.length)

/-- `int` of a double, which raises unless it is finite. -/
def truncate : Double → Option ℤ
  | .finite negative significand exponent =>
    let n : ℕ := significand*up 2 exponent/up 2 (-exponent)
    some (if negative then -n else n)
  | _ => none

end Reading

section Writing

/-- The decimal of `count` digits next to `a/b` that is read as the double: its
digits and their exponent. -/
def withDigits (d : Double) (negative : Bool) (a b count : ℕ) : Option (ℕ × ℤ) :=
  let x := floorLog 10 a b-(count-1)
  let num := a*up 10 (-x)
  let den := b*up 10 x
  let n := num/den
  let candidates := if roundHalfEven num den = n then [n,n+1] else [n+1,n]
  (candidates.find? (fun n => decimal negative n x = d)).map (fun n => (n,x))

/-- Seventeen digits tell all doubles apart. -/
def shortest (negative : Bool) (significand : ℕ) (exponent : ℤ) : ℕ × ℤ :=
  if significand = 0 then (0,0)
  else
    ((List.range 17).findSome? (fun i =>
      withDigits (.finite negative significand exponent) negative (significand*up 2 exponent)
        (up 2 (-exponent)) (i+1))).getD (0,0)

/-- `0.digits*10^point`, with an exponent when it is far from one. -/
def format (digits : List Char) (point : ℤ) : List Char :=
  if -4 < point ∧ point ≤ 16 then
    if point ≤ 0 then '0' :: '.' :: List.replicate (-point).toNat '0' ++ digits
    else if digits.length ≤ point then
      digits ++ List.replicate (point.toNat-digits.length) '0' ++ ['.','0']
    else digits.take point.toNat ++ '.'::digits.drop point.toNat
  else
    let fraction := if digits.length = 1 then [] else '.'::digits.tail
    let size := Nat.toDigits 10 (point-1).natAbs
    digits.take 1 ++ fraction ++ 'e'::(if point ≤ 0 then '-' else '+')::
      (if size.length = 1 then '0'::size else size)

/-- `str` of a double. -/
def writeReal : Double → String
  | .finite negative significand exponent =>
    let (n,x) := shortest negative significand exponent
    let digits := Nat.toDigits 10 n
    let kept := if n = 0 then digits else (digits.reverse.dropWhile (· = '0')).reverse
    String.ofList ((if negative then ['-'] else []) ++ format kept (digits.length+x))
  | .infinite negative => if negative then "-inf" else "inf"
  | .nan => "nan"

end Writing

section RoundTrip
variable {cs : List Char}

theorem readNat_digits (h : ∀ c ∈ cs, c.isDigit = true) (after : Bool) (n : ℕ)
    (hne : cs ≠ [] ∨ after = true) : readNat after n cs = some (Nat.ofDigitChars 10 cs n) := by
  induction cs generalizing after n with
  | nil => exact if_pos (hne.resolve_left (fun h => h rfl))
  | cons c cs ih =>
    have hc := h c List.mem_cons_self
    have hunder : c ≠ '_' := by
      rintro rfl
      cases hc
    rw [readNat, if_neg hunder, if_pos hc, Nat.ofDigitChars_cons]
    exact ih (fun d hd => h d (List.mem_cons_of_mem _ hd)) true _ (Or.inr rfl)

theorem strip_plain (h : ∀ c ∈ cs, isSpace c = false) : strip cs = cs := by
  have hkept {cs : List Char} (h : ∀ c ∈ cs, isSpace c = false) : cs.dropWhile isSpace = cs := by
    cases cs with
    | nil => rfl
    | cons c cs => simp [h c List.mem_cons_self]
  have hrev : ∀ c ∈ cs.reverse, isSpace c = false := fun c hc => h c (List.mem_reverse.mp hc)
  rw [strip, hkept h, hkept hrev, List.reverse_reverse]

theorem isSpace_digit {c : Char} (h : c.isDigit = true) : isSpace c = false := by
  have hrange : 48 ≤ c.toNat ∧ c.toNat ≤ 57 := by
    simpa [Char.isDigit, UInt32.le_iff_toNat_le] using h
  simp only [isSpace, decide_eq_false_iff_not, List.mem_cons, List.not_mem_nil, or_false]
  omega

theorem toDigits_digits (n : ℕ) : ∀ c ∈ Nat.toDigits 10 n, c.isDigit = true := fun _ hc =>
  Nat.isDigit_of_mem_toDigits (by decide) (by decide) hc

theorem readNat_toDigits (n : ℕ) : readNat false 0 (Nat.toDigits 10 n) = some n := by
  rw [readNat_digits (toDigits_digits n) false 0 (Or.inl Nat.toDigits_ne_nil),
    Nat.ofDigitChars_ten_toDigits]

theorem readSigned_digits (h : ∀ c ∈ cs, c.isDigit = true) :
    readSigned cs = (readNat false 0 cs).map Int.ofNat := by
  unfold readSigned
  split
  · exact absurd (h '-' List.mem_cons_self) (by decide)
  · exact absurd (h '+' List.mem_cons_self) (by decide)
  · rfl

/-- An integer is read from what is written of it. -/
theorem readInt_toString (n : ℤ) : readInt (toString n) = some n := by
  rw [Int.toString_eq_repr, Int.repr_eq_if]
  unfold readInt
  split
  · rw [Nat.toList_repr, strip_plain fun c hc => isSpace_digit (toDigits_digits _ c hc),
      readSigned_digits (toDigits_digits _), readNat_toDigits, Option.map_some]
    apply congrArg some
    show (n.toNat : ℤ) = n
    omega
  · have hlist : ("-" ++ (-n).toNat.repr).toList = '-'::Nat.toDigits 10 (-n).toNat := by
      rw [String.toList_append, Nat.toList_repr]
      rfl
    have hplain : ∀ c ∈ '-'::Nat.toDigits 10 (-n).toNat, isSpace c = false := by
      intro c hc
      rcases List.mem_cons.mp hc with rfl | hc
      · rfl
      · exact isSpace_digit (toDigits_digits _ c hc)
    rw [hlist, strip_plain hplain, readSigned, readNat_toDigits, Option.map_some]
    apply congrArg some
    omega

end RoundTrip

end PythonNumbers
