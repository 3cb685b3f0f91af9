import QueryAlgebra.Number.Binary64

/-!
# The shortest decimal of a double

The decimal with the fewest digits that reads back as a given double, and of those the one nearest
to it. Every decimal between the midpoints to the neighbouring doubles reads back; the midpoints
themselves do so when the significand is even. On the grid of the multiples of a power of ten only
the two grid points around the double can be nearest to it, so grids are tried from the coarsest one
on, in exact arithmetic, and the first one with a point in the interval decides.

When the double lies half way between two grid points the caller's `Tie` chooses.
-/

namespace QueryAlgebra

/-- The number `coefficient * 10 ^ exponent`. -/
structure ScaledDecimal where
  coefficient : Nat
  exponent : Int
deriving DecidableEq

/-- Which of two equally near neighbours is taken. -/
inductive Tie
  /-- The larger one. -/
  | up
  /-- The one with an even last digit. -/
  | even

namespace Binary64

/-- The interval of the reals that read back as a double, in quarters of its unit in the last place.
Below a power of two the neighbour is nearer, so that side is half as wide. -/
structure Neighbourhood where
  low : Nat
  centre : Nat
  high : Nat
  /-- Whether the ends belong to the interval. -/
  closed : Bool
  /-- The power of two that is a quarter of a unit in the last place. -/
  quarter : Int

/-- The neighbourhood of a finite double other than zero. -/
def neighbourhood (x : Binary64) : Neighbourhood :=
  let m := x.significand
  { low := if x.fraction = 0 ∧ 1 < x.exponentField then 4 * m - 1 else 4 * m - 2
    centre := 4 * m
    high := 4 * m + 2
    closed := m % 2 == 0
    quarter := x.exponent - 2 }

/-- The grid point of the multiples of `10 ^ k` that reads back and is nearest to the centre. -/
def Neighbourhood.onGrid? (n : Neighbourhood) (tie : Tie) (k : Int) : Option ScaledDecimal :=
  -- `d * 10 ^ k` and `u * 2 ^ quarter` compare like `d * den` and `u * num`
  let num := Nat.pow 2 n.quarter.toNat * Nat.pow 10 (-k).toNat
  let den := Nat.pow 2 (-n.quarter).toNat * Nat.pow 10 k.toNat
  let below := n.centre * num / den
  let rest := n.centre * num % den
  let reads (d : Nat) : Bool :=
    if n.closed then n.low * num ≤ d * den && d * den ≤ n.high * num
    else n.low * num < d * den && d * den < n.high * num
  let upper : Bool :=
    if 2 * rest = den then (match tie with | .up => true | .even => below % 2 == 1)
    else den < 2 * rest
  match reads below, reads (below + 1) with
  | true, true => some ⟨if upper then below + 1 else below, k⟩
  | true, false => some ⟨below, k⟩
  | false, true => some ⟨below + 1, k⟩
  | false, false => none

/-- A power of ten above every finite double with this significand and exponent: `log₁₀ 2` is less
than `0.30103`. -/
def decimalCeiling (x : Binary64) : Int :=
  let binary := x.exponent + Nat.log2 x.significand + 1
  binary * 30103 / 100000 + 1

/-- The shortest decimal that reads back as a finite double other than zero, sign apart. Seventeen
digits always suffice, and the search starts at most two grids above the first digit. -/
def shortest (tie : Tie) (x : Binary64) : ScaledDecimal :=
  let n := x.neighbourhood
  ((List.range 20).findSome? fun (i : Nat) => n.onGrid? tie (x.decimalCeiling - i)).getD ⟨0, 0⟩

end Binary64

namespace ScaledDecimal

/-- The digits of the coefficient. -/
def digits (d : ScaledDecimal) : String :=
  Nat.repr d.coefficient

/-- How many digits stand before the point; zero or less when the number is below one. -/
def pointPosition (d : ScaledDecimal) : Int :=
  d.digits.length + d.exponent

/-- Zeros in a row. -/
def zeros (n : Nat) : String :=
  String.ofList (List.replicate n '0')

/-- The number without an exponent, and without a point when it is whole. -/
def positional (d : ScaledDecimal) : String :=
  if 0 ≤ d.exponent then d.digits ++ zeros d.exponent.toNat
  else
    let cs := d.digits.toList
    let places := (-d.exponent).toNat
    if places < cs.length then
      String.ofList (cs.take (cs.length - places)) ++ "." ++
        String.ofList (cs.drop (cs.length - places))
    else "0." ++ zeros (places - cs.length) ++ d.digits

/-- The number as a first digit, the further digits behind a point, and a signed power of ten. -/
def scientific (d : ScaledDecimal) : String :=
  let exponent := d.pointPosition - 1
  let power := (if exponent < 0 then "e-" else "e+") ++ Nat.repr exponent.natAbs
  match d.digits.toList with
  | [] => power
  | [c] => String.ofList [c] ++ power
  | c :: more => String.ofList (c :: '.' :: more) ++ power

end ScaledDecimal

end QueryAlgebra
