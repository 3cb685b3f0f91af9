/-!
# Numerals

Integers in decimal and naturals in hexadecimal, lower case and without leading zeros, and the
padded forms that fixed-width fields use. Reading a numeral back is `natOfDigits?`.
-/

namespace QueryAlgebra.Text

/-- The decimal numeral of an integer: a minus sign for a negative one, and no leading zero. -/
def decimal : Int → String
  | .ofNat n => Nat.repr n
  | .negSucc n => "-" ++ Nat.repr (n + 1)

@[simp] theorem decimal_ofNat (n : Nat) : decimal (n : Int) = Nat.repr n := rfl

@[simp] theorem decimal_negSucc (n : Nat) : decimal (.negSucc n) = "-" ++ Nat.repr (n + 1) := rfl

/-- `digits` behind as many zeros as bring it to `width` characters. -/
def padZeros (width : Nat) (digits : String) : String :=
  String.ofList (List.replicate (width - digits.length) '0') ++ digits

/-- The decimal numeral of `n` in at least `width` digits. -/
def paddedDecimal (width n : Nat) : String :=
  padZeros width (Nat.repr n)

/-- The hexadecimal digits of `n`, lower case, without leading zeros. -/
def hexadecimal (n : Nat) : String :=
  String.ofList (Nat.toDigits 16 n)

/-- The hexadecimal numeral of `n` in at least `width` digits. -/
def paddedHexadecimal (width n : Nat) : String :=
  padZeros width (hexadecimal n)

/-- `cs` without the zeros at its end. -/
def dropTrailingZeros (cs : List Char) : List Char :=
  (cs.reverse.dropWhile (· == '0')).reverse

/-! ### Reading -/

/-- The value of a digit below `base`, in either case. -/
def digitValue? (base : Nat) (c : Char) : Option Nat :=
  let value :=
    if c.isDigit then some (c.toNat - '0'.toNat)
    else if 'a' ≤ c ∧ c ≤ 'z' then some (c.toNat - 'a'.toNat + 10)
    else if 'A' ≤ c ∧ c ≤ 'Z' then some (c.toNat - 'A'.toNat + 10)
    else none
  value.filter (· < base)

/-- The value of the digits that follow a part worth `acc`; no value if some character is no digit.
-/
def natOfDigitsFrom? (base acc : Nat) : List Char → Option Nat
  | [] => some acc
  | c :: rest =>
    match digitValue? base c with
    | some d => natOfDigitsFrom? base (acc * base + d) rest
    | none => none

/-- The value of a non-empty run of digits. -/
def natOfDigits? (base : Nat) (cs : List Char) : Option Nat :=
  if cs.isEmpty then none else natOfDigitsFrom? base 0 cs

/-- The value of decimal digits with at most one plus sign before them. -/
def unsignedOfChars? : List Char → Option Nat
  | '+' :: digits => natOfDigits? 10 digits
  | digits => natOfDigits? 10 digits

/-- The value of decimal digits with at most one sign before them. -/
def intOfChars? : List Char → Option Int
  | '-' :: digits => (natOfDigits? 10 digits).map fun n => -(n : Int)
  | cs => (unsignedOfChars? cs).map fun n => (n : Int)

/-- A text of digits with at most one sign before them, as an integer. -/
def intOfText? (s : String) : Option Int :=
  intOfChars? s.toList

end QueryAlgebra.Text
