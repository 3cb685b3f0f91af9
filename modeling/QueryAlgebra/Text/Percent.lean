import QueryAlgebra.Text.Numeral

/-!
# Percent encoding

A percent sign with two hexadecimal digits behind it stands for a byte; any other character stands
for its own UTF-8 bytes, and so does a percent sign without two digits.

* `percentDecoded` — the bytes that a text stands for.
* `percentText?` — the text that these bytes are, if they are UTF-8; `percentTextLossy` is one in
  any case.
* `isPercentEncoded` — whether every percent sign has its digits.
-/

namespace QueryAlgebra.Text

/-- The bytes that a text stands for. -/
def percentDecoded : List Char → List UInt8
  | [] => []
  | '%' :: a :: b :: rest =>
    match digitValue? 16 a, digitValue? 16 b with
    | some high, some low => UInt8.ofNat (16 * high + low) :: percentDecoded rest
    | _, _ => String.utf8EncodeChar '%' ++ percentDecoded (a :: b :: rest)
  | c :: rest => String.utf8EncodeChar c ++ percentDecoded rest

/-- The text that a text stands for, if it is one. -/
def percentText? (cs : List Char) : Option String :=
  String.fromUTF8? ⟨(percentDecoded cs).toArray⟩

/-- The text that a text stands for; where the bytes are not UTF-8, those beyond ASCII are replaced.
-/
def percentTextLossy (cs : List Char) : String :=
  (percentText? cs).getD (String.ofList ((percentDecoded cs).map fun b =>
    if b < 128 then Char.ofNat b.toNat else '\uFFFD'))

/-- Whether every percent sign has two hexadecimal digits behind it. -/
def isPercentEncoded : List Char → Bool
  | [] => true
  | '%' :: a :: b :: rest =>
    (digitValue? 16 a).isSome && (digitValue? 16 b).isSome && isPercentEncoded rest
  | '%' :: _ => false
  | _ :: rest => isPercentEncoded rest

end QueryAlgebra.Text
