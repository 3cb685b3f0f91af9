import QueryAlgebra.Number.Binary64
import QueryAlgebra.Number.Decimal128
import QueryAlgebra.Text.Numeral

/-!
# Reading decimal numbers

Both number types are written in decimal with an optional sign, point and power of ten, and by name
where they are not finite. A double takes the nearest number (`Binary64.ofText?`); a decimal takes
the number exactly or not at all (`Decimal128.ofText?`).
-/

namespace QueryAlgebra

open Text

/-- The sign before a number, true for a minus, and what follows it. -/
def splitSign : List Char → Bool × List Char
  | '-' :: cs => (true, cs)
  | '+' :: cs => (false, cs)
  | cs => (false, cs)

/-- A lower-case text cut at its exponent mark: the part before it and, where there is a mark, the
part behind it. -/
def splitExponent (cs : List Char) : List Char × Option (List Char) :=
  (cs.takeWhile (· != 'e'),
    match cs.dropWhile (· != 'e') with
    | [] => none
    | _ :: power => some power)

/-- A mantissa cut at its point: all its digits in order, and how many of them stand behind the
point. -/
def splitPoint (cs : List Char) : List Char × Nat :=
  let behind := (cs.dropWhile (· != '.')).drop 1
  (cs.takeWhile (· != '.') ++ behind, behind.length)

/-- A number in decimal: its digits as one integer, how many of them stand behind the point, and the
power of ten. -/
def decimalParts? (cs : List Char) : Option (Nat × Nat × Int) := do
  let (mantissa, power) := splitExponent cs
  let (digits, places) := splitPoint mantissa
  let coefficient ← natOfDigits? 10 digits
  let power ← match power with
    | none => some 0
    | some p => intOfChars? p
  return (coefficient, places, power)

/-- The double nearest to `coefficient * 10 ^ exponent`. Far outside the range of doubles the power
of ten is not worked out. -/
def Binary64.ofScaled (negative : Bool) (coefficient : Nat) (exponent : Int) : Binary64 :=
  let size := (Nat.repr coefficient).length + exponent
  if coefficient = 0 ∨ size < -400 then ofFields negative 0 0
  else if 400 < size then infinity negative
  else ofFraction negative (coefficient * Nat.pow 10 exponent.toNat) (Nat.pow 10 (-exponent).toNat)

/-- The double nearest to a number in decimal, or the infinity or NaN that is named, in letters of
either case. -/
def Binary64.ofText? (s : String) : Option Binary64 :=
  let (negative, cs) := splitSign (s.toList.map Char.toLower)
  if cs = "inf".toList ∨ cs = "infinity".toList then some (infinity negative)
  else if cs = "nan".toList then some (quietNaN negative)
  else (decimalParts? cs).map fun (coefficient, places, power) =>
    ofScaled negative coefficient (power - places)

/-- The characters of a coefficient without the zeros before them; where there is nothing else, one
zero. -/
def coefficientChars (cs : List Char) : List Char :=
  match cs.dropWhile (· == '0') with
  | [] => ['0']
  | kept => kept

/-- The characters without a number of zeros at their end, if so many zeros are there. -/
def withoutZeros? (count : Nat) (cs : List Char) : Option (List Char) :=
  let kept := cs.length - count
  if count ≤ cs.length ∧ (cs.drop kept).all (· == '0') then some (cs.take kept) else none

/-- The exponents that are read: signed words of thirty-two bits. -/
def isReadableExponent (n : Int) : Bool :=
  Int32.minValue.toInt ≤ n && n ≤ Int32.maxValue.toInt

/-- A coefficient and an exponent brought within the limits of decimals without changing the number:
zeros are moved between them, and a zero takes the nearest exponent. -/
def Decimal128.fit? (coefficient : List Char) (exponent : Int) : Option (List Char × Int) := do
  let excess := coefficient.length - 34
  let coefficient ← withoutZeros? excess coefficient
  let exponent := exponent + excess
  if coefficient = ['0'] then return (coefficient, max minExponent (min maxExponent exponent))
  else if exponent < minExponent then
    return (← withoutZeros? (minExponent - exponent).toNat coefficient, minExponent)
  else
    let missing := (exponent - maxExponent).toNat
    if isReadableExponent exponent && (missing = 0 || coefficient.length + missing ≤ 34) then
      some (coefficient ++ List.replicate missing '0', exponent - missing)
    else none

/-- The finite decimal that a lower-case text without its sign gives. Any part of it may be missing
except the digits behind an exponent mark, and what is missing is zero; before the coefficient, with
its zeros and its point left out, a plus sign may stand. -/
def Decimal128.finiteOfChars? (negative : Bool) (cs : List Char) : Option Decimal128 := do
  let (mantissa, power) := splitExponent cs
  let (digits, places) := splitPoint mantissa
  let power ← match power with
    | none => some 0
    | some p => intOfChars? p
  let exponent := power - places
  if isReadableExponent power && isReadableExponent exponent then
    let (digits, exponent) ← fit? (coefficientChars digits) exponent
    let coefficient ← unsignedOfChars? digits
    return encode (.finite negative coefficient exponent)
  else none

/-- The decimal with the number that a text gives, or the infinity or NaN that it names, in letters
of either case. -/
def Decimal128.ofText? (s : String) : Option Decimal128 :=
  let (negative, cs) := splitSign (s.toList.map Char.toLower)
  if cs = "inf".toList ∨ cs = "infinity".toList then some (encode (.infinity negative))
  else if cs = "nan".toList then some (encode (.nan negative false))
  else if cs = "snan".toList then some (encode (.nan negative true))
  else finiteOfChars? negative cs

end QueryAlgebra
