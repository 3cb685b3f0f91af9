import QueryAlgebra.Text.Numeral

/-!
# Bytes and words

A natural number as a fixed count of bytes, least significant first, and lists of bytes as
hexadecimal text.

* `littleEndian w n`, `ofLittleEndian` — the `w` bytes of a number, and the number of a list of
  bytes; together they keep `n % 256 ^ w` (`ofLittleEndian_littleEndian`).
* `hexText`, `ofHexText?` — two lower-case digits a byte; reading takes digits of either case.
-/

namespace QueryAlgebra

/-- The `w` bytes of `n`, least significant first; what does not fit is dropped. -/
def littleEndian : Nat → Nat → List UInt8
  | 0, _ => []
  | w + 1, n => UInt8.ofNat n :: littleEndian w (n / 256)

/-- The number whose bytes are given, least significant first. -/
def ofLittleEndian : List UInt8 → Nat
  | [] => 0
  | b :: rest => b.toNat + 256 * ofLittleEndian rest

@[simp] theorem littleEndian_zero (n : Nat) : littleEndian 0 n = [] := rfl

@[simp] theorem littleEndian_succ (w n : Nat) :
    littleEndian (w + 1) n = UInt8.ofNat n :: littleEndian w (n / 256) := rfl

@[simp] theorem ofLittleEndian_nil : ofLittleEndian [] = 0 := rfl

@[simp] theorem ofLittleEndian_cons (b : UInt8) (rest : List UInt8) :
    ofLittleEndian (b :: rest) = b.toNat + 256 * ofLittleEndian rest := rfl

@[simp] theorem length_littleEndian (w n : Nat) : (littleEndian w n).length = w := by
  induction w generalizing n with
  | zero => rfl
  | succ w ih => simp [ih]

theorem ofLittleEndian_littleEndian (w n : Nat) :
    ofLittleEndian (littleEndian w n) = n % Nat.pow 256 w := by
  induction w generalizing n with
  | zero => simp [Nat.mod_one]
  | succ w ih =>
    rw [littleEndian_succ, ofLittleEndian_cons, ih, UInt8.toNat_ofNat',
      show Nat.pow 256 (w + 1) = 256 * Nat.pow 256 w from Nat.pow_succ', Nat.mod_mul]

/-! ### Hexadecimal text -/

/-- Two hexadecimal digits for every byte. -/
def hexText (bytes : List UInt8) : String :=
  String.join (bytes.map fun b => Text.paddedHexadecimal 2 b.toNat)

/-- The bytes that pairs of hexadecimal digits stand for. -/
def ofHexChars? : List Char → Option (List UInt8)
  | [] => some []
  | [_] => none
  | a :: b :: rest =>
    match Text.digitValue? 16 a, Text.digitValue? 16 b, ofHexChars? rest with
    | some high, some low, some bytes => some (UInt8.ofNat (16 * high + low) :: bytes)
    | _, _, _ => none

/-- The bytes of a hexadecimal text of even length. -/
def ofHexText? (s : String) : Option (List UInt8) :=
  ofHexChars? s.toList

end QueryAlgebra
