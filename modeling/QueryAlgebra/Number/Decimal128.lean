import QueryAlgebra.Text.Numeral

/-!
# Decimal floating point

The sixteen-byte decimal: a sign, an exponent and a coefficient of at most thirty-four digits, or an
infinity or a NaN.

* `Decimal128.decode` — the number that the bits stand for.
* `Decimal128.text` — its scientific string, which keeps trailing zeros because they tell numbers
  with different exponents apart.
* `Decimal128.ofText?` — the bits of such a string, when it can be held exactly.
-/

namespace QueryAlgebra

/-- A decimal number of 128 bits. -/
structure Decimal128 where
  word : BitVec 128
deriving DecidableEq

/-- What the bits of a decimal stand for. A NaN may be one that signals. -/
inductive DecimalNumber
  | nan (negative signaling : Bool)
  | infinity (negative : Bool)
  | finite (negative : Bool) (coefficient : Nat) (exponent : Int)
deriving DecidableEq

namespace Decimal128

/-- The largest coefficient: thirty-four nines. -/
def maxCoefficient : Nat := Nat.pow 10 34 - 1

/-- The least exponent, which the exponent field counts from. -/
def minExponent : Int := -6176

/-- The largest exponent. -/
def maxExponent : Int := 6111

/-- The number that the bits stand for. After the sign come five bits that tell the special values
and the two layouts of exponent and coefficient apart; a coefficient above the largest one counts as
zero, which makes every number of the second layout a zero. -/
def decode (d : Decimal128) : DecimalNumber :=
  let w := d.word.toNat
  let negative : Bool := Nat.pow 2 127 ≤ w
  let combination := w / Nat.pow 2 122 % 32
  if combination = 31 then .nan negative (w / Nat.pow 2 121 % 2 == 1)
  else if combination = 30 then .infinity negative
  else if 24 ≤ combination then
    .finite negative 0 (w / Nat.pow 2 111 % Nat.pow 2 14 + minExponent)
  else
    let coefficient := w % Nat.pow 2 113
    .finite negative (if coefficient ≤ maxCoefficient then coefficient else 0)
      (w / Nat.pow 2 113 % Nat.pow 2 14 + minExponent)

/-- The decimal with the given sign and further bits. -/
def ofBits (negative : Bool) (rest : Nat) : Decimal128 :=
  ⟨BitVec.ofNat 128 ((if negative then Nat.pow 2 127 else 0) + rest)⟩

/-- The bits of a number: the canonical ones. -/
def encode : DecimalNumber → Decimal128
  | .nan negative signaling =>
    ofBits negative (31 * Nat.pow 2 122 + if signaling then Nat.pow 2 121 else 0)
  | .infinity negative => ofBits negative (30 * Nat.pow 2 122)
  | .finite negative coefficient exponent =>
    ofBits negative ((exponent - minExponent).toNat * Nat.pow 2 113 + coefficient)

/-- The digits with a point before the last `places` of them, and at least one digit before it. -/
def withPoint (digits : List Char) (places : Nat) : String :=
  let padded := List.replicate (places + 1 - digits.length) '0' ++ digits
  String.ofList (padded.take (padded.length - places)) ++ "." ++
    String.ofList (padded.drop (padded.length - places))

/-- A coefficient and an exponent: plain while the exponent is not positive and at most five zeros
follow the point, scientific otherwise. -/
def finiteText (coefficient : Nat) (exponent : Int) : String :=
  let digits := (Nat.repr coefficient).toList
  let adjusted := exponent + digits.length - 1
  if exponent ≤ 0 ∧ -6 ≤ adjusted then
    if exponent = 0 then String.ofList digits else withPoint digits (-exponent).toNat
  else
    let power := (if adjusted < 0 then "E-" else "E+") ++ Nat.repr adjusted.natAbs
    match digits with
    | c :: d :: more => String.ofList (c :: '.' :: d :: more) ++ power
    | short => String.ofList short ++ power

/-- The scientific string of a decimal number; that of a NaN shows neither its sign nor whether it
signals. -/
def numberText : DecimalNumber → String
  | .nan _ _ => "NaN"
  | .infinity negative => if negative then "-Infinity" else "Infinity"
  | .finite negative coefficient exponent =>
    (if negative then "-" else "") ++ finiteText coefficient exponent

/-- The scientific string of a decimal. -/
def text (d : Decimal128) : String :=
  numberText d.decode

end Decimal128

end QueryAlgebra
