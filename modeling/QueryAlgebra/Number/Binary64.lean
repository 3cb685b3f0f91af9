/-!
# Binary floating point

A double is known by its sixty-four bits, so that no two of them are confused: the two zeros differ,
and so do NaNs with different payloads. `Binary64.sameNumber` is the coarser comparison of numbers,
for which the zeros agree and a NaN differs from itself.
-/

namespace QueryAlgebra

/-- A double, as its sign bit, eleven exponent bits and fifty-two fraction bits. -/
structure Binary64 where
  bits : UInt64
deriving DecidableEq

namespace Binary64

/-- Whether the sign bit is set. -/
def isNegative (x : Binary64) : Bool :=
  Nat.pow 2 63 ≤ x.bits.toNat

/-- The biased exponent. -/
def exponentField (x : Binary64) : Nat :=
  x.bits.toNat / Nat.pow 2 52 % Nat.pow 2 11

/-- The fraction bits. -/
def fraction (x : Binary64) : Nat :=
  x.bits.toNat % Nat.pow 2 52

def isNaN (x : Binary64) : Bool :=
  x.exponentField == 2047 && x.fraction != 0

def isInfinite (x : Binary64) : Bool :=
  x.exponentField == 2047 && x.fraction == 0

def isZero (x : Binary64) : Bool :=
  x.exponentField == 0 && x.fraction == 0

/-- The significand of a finite double as an integer, the hidden bit included: the size of the
number is `significand * 2 ^ exponent`. -/
def significand (x : Binary64) : Nat :=
  if x.exponentField = 0 then x.fraction else Nat.pow 2 52 + x.fraction

/-- The power of two that the significand counts. -/
def exponent (x : Binary64) : Int :=
  max x.exponentField 1 - 1075

/-- Whether two doubles are the same number: no NaN is, the zeros are, and otherwise the bits
decide. -/
def sameNumber (x y : Binary64) : Bool :=
  !x.isNaN && !y.isNaN && (x.bits == y.bits || (x.isZero && y.isZero))

/-- The double with the given sign and fields. -/
def ofFields (negative : Bool) (exponentField fraction : Nat) : Binary64 :=
  ⟨UInt64.ofNat ((if negative then Nat.pow 2 63 else 0) + exponentField * Nat.pow 2 52 + fraction)⟩

/-- Infinity with the given sign. -/
def infinity (negative : Bool) : Binary64 :=
  ofFields negative 2047 0

/-- The NaN with the given sign whose fraction is its highest bit alone. -/
def quietNaN (negative : Bool) : Binary64 :=
  ofFields negative 2047 (Nat.pow 2 51)

/-! ### The double nearest to a fraction -/

/-- The quotient of two naturals as an integer, a half going to the even neighbour. -/
def roundHalfEven (num den : Nat) : Nat :=
  let q := num / den
  let r := num % den
  if 2 * r < den then q else if den < 2 * r then q + 1 else q + q % 2

/-- The double nearest to `num / den`, a half going to the even significand. The exponent is the one
at which the quotient has fifty-three bits, but never below that of the subnormal numbers; a
quotient that rounds up to fifty-four bits carries into the exponent field by itself. -/
def ofFraction (negative : Bool) (num den : Nat) : Binary64 :=
  if num = 0 ∨ den = 0 then ofFields negative 0 0
  else
    -- the quotient lies strictly between 2 ^ (scale - 1) and 2 ^ (scale + 1)
    let scale : Int := (Nat.log2 num : Int) - Nat.log2 den
    let atLeast (e : Int) : Bool := den * Nat.pow 2 e.toNat ≤ num * Nat.pow 2 (-e).toNat
    let top : Int := if atLeast scale then scale else scale - 1
    let unit : Int := max (top - 52) (-1074)
    let m := roundHalfEven (num * Nat.pow 2 (-unit).toNat) (den * Nat.pow 2 unit.toNat)
    let packed :=
      if m < Nat.pow 2 52 then m
      else ((unit + 1074).toNat + 1) * Nat.pow 2 52 + (m - Nat.pow 2 52)
    if 2047 * Nat.pow 2 52 ≤ packed then infinity negative
    else ofFields negative 0 packed

/-- The product of the sizes of two finite doubles, rounded to a double. -/
def product (x y : Binary64) : Binary64 :=
  let power := x.exponent + y.exponent
  ofFraction false (x.significand * y.significand * Nat.pow 2 power.toNat)
    (Nat.pow 2 (-power).toNat)

end Binary64

end QueryAlgebra
