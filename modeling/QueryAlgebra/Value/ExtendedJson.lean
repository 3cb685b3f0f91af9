import QueryAlgebra.Text.JsonString
import QueryAlgebra.Value.Display
import QueryAlgebra.Value.Encoding

/-!
# Relaxed extended JSON

JSON that keeps the types of values: what JSON has is written as itself, every other type as an
object whose key, a dollar sign and a name, tells the type.

* `Value.toExtendedJson`, `Document.toExtendedJson` — the compact text of a value and of a document.
-/

namespace QueryAlgebra

open Text

/-- A finite double as a JSON number with a fraction, at its shortest: positional from `1e-5` up to
but not including `1e16`, with an exponent elsewhere; a half goes to the even digit. -/
def Binary64.jsonNumber (x : Binary64) : String :=
  (if x.isNegative then "-" else "") ++
    (if x.isZero then "0.0"
    else
      let d := x.shortest .even
      if -5 < d.pointPosition ∧ d.pointPosition ≤ 16 then
        d.positional ++ (if 0 ≤ d.exponent then ".0" else "")
      else d.scientific)

/-- A double: a number where JSON has one, else by name, the sign of a NaN included. -/
def Binary64.toExtendedJson (x : Binary64) : String :=
  if x.isNaN then jsonObject [("$numberDouble", if x.isNegative then "\"-NaN\"" else "\"NaN\"")]
  else if x.isInfinite then
    jsonObject [("$numberDouble", if x.isNegative then "\"-Infinity\"" else "\"Infinity\"")]
  else x.jsonNumber

/-- An identity under its key. -/
def ObjectId.toExtendedJson (id : ObjectId) : String :=
  jsonObject [("$oid", jsonString id.text)]

mutual

/-- The relaxed extended JSON text of a value. -/
def Value.toExtendedJson : Value → String
  | .null => "null"
  | .bool b => if b then "true" else "false"
  | .int32 n => decimal n.toInt
  | .int64 n => decimal n.toInt
  | .double x => x.toExtendedJson
  | .decimal x => jsonObject [("$numberDecimal", jsonString x.text)]
  | .string text => jsonString text
  | .array items => jsonArray (jsonItems items)
  | .document entries => jsonObject (jsonEntries entries)
  | .objectId id => id.toExtendedJson
  | .dateTime millis =>
    jsonObject [("$date", match timestampText? millis.toInt with
      | some text => jsonString text
      | none => jsonObject [("$numberLong", jsonString (decimal millis.toInt))])]
  | .binary subtype bytes =>
    jsonObject [("$binary", jsonObject [("base64", jsonString (base64 bytes)),
      ("subType", jsonString (paddedHexadecimal 2 subtype.toNat))])]
  | .regex pattern options =>
    jsonObject [("$regularExpression", jsonObject [("pattern", jsonString pattern.text),
      ("options", jsonString options.sorted.text)])]
  | .timestamp time increment =>
    jsonObject [("$timestamp", jsonObject [("t", Nat.repr time.toNat),
      ("i", Nat.repr increment.toNat)])]
  | .code source => jsonObject [("$code", jsonString source)]
  | .codeWithScope source scope =>
    jsonObject [("$code", jsonString source), ("$scope", jsonObject (jsonEntries scope))]
  | .symbol text => jsonObject [("$symbol", jsonString text)]
  | .undefined => jsonObject [("$undefined", "true")]
  | .minKey => jsonObject [("$minKey", "1")]
  | .maxKey => jsonObject [("$maxKey", "1")]
  | .dbPointer collection id =>
    jsonObject [("$dbPointer", jsonObject [("$ref", jsonString collection),
      ("$id", id.toExtendedJson)])]

/-- The texts of the items of an array. -/
def jsonItems : List Value → List String
  | [] => []
  | v :: rest => v.toExtendedJson :: jsonItems rest

/-- The keys of a document with the texts of their values. -/
def jsonEntries : List (String × Value) → List (String × String)
  | [] => []
  | (k, v) :: rest => (k, v.toExtendedJson) :: jsonEntries rest

end

/-- The relaxed extended JSON text of a document. -/
def Document.toExtendedJson (d : Document) : String :=
  jsonObject (jsonEntries d)

end QueryAlgebra
