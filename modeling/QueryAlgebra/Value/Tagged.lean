import QueryAlgebra.Calendar
import QueryAlgebra.Number.Reading
import QueryAlgebra.Text.Base64
import QueryAlgebra.Value.Encoding

/-!
# Documents that stand for values

Extended JSON writes a value of a type that JSON lacks as a document with a key that names the type,
such as `$oid`. A reader that rebuilds values from plain documents takes every document of exactly
such a form for the value it describes, wherever it came from.

* `Document.denotes` — the value that a document of one of the forms stands for; any other document
  stands for itself.
* `Value.interpret` — a value with every document within it, from the innermost out, replaced by
  what it stands for.
-/

namespace QueryAlgebra

open Text

/-- The identity with the given hexadecimal digits. -/
def ObjectId.ofText? (s : String) : Option ObjectId :=
  if s.toList.length = 24 then
    (natOfDigits? 16 s.toList).map fun n => ⟨BitVec.ofNat 96 n⟩
  else none

/-- The integer of a text, within the given limits. -/
def integerWithin? (low high : Int) (s : String) : Option Int :=
  (intOfText? s).filter fun n => low ≤ n && n ≤ high

/-- A 32-bit word read with or without its sign. -/
def wordOfInt (n : Int) : UInt32 :=
  UInt32.ofInt n

namespace Document

/-- The timestamp whose parts are given, both as signed words or both as wider numbers in range. -/
def timestamp? (d : Document) : Option Value :=
  match Assoc.get? d "t", Assoc.get? d "i" with
  | some (.int32 t), some (.int32 i) => some (.timestamp (wordOfInt t.toInt) (wordOfInt i.toInt))
  | some (.int64 t), some (.int64 i) =>
    if 0 ≤ t.toInt ∧ t.toInt < UInt32.size ∧ 0 ≤ i.toInt ∧ i.toInt < UInt32.size then
      some (.timestamp (wordOfInt t.toInt) (wordOfInt i.toInt))
    else none
  | _, _ => none

/-- The binary value given by its bytes in base64 and its subtype in hexadecimal, or by its bytes
and the number of its subtype. -/
def binary? (d : Document) : Option Value :=
  match Assoc.get? d "base64", Assoc.get? d "bytes", Assoc.get? d "subType" with
  | some (.string text), _, some (.string subtype) =>
    match ofBase64? text, ofHexText? subtype with
    | some bytes, some [subtype] => some (.binary subtype bytes)
    | _, _ => none
  | some (.string _), _, _ => none
  | _, some (.binary 0 bytes), some (.int32 subtype) =>
    if 0 ≤ subtype.toInt ∧ subtype.toInt < 256 then
      some (.binary (UInt8.ofNat subtype.toInt.toNat) bytes)
    else none
  | _, _, _ => none

/-- The regular expression with the given pattern and, in ascending order, the given options. -/
def regex? (d : Document) : Option Value :=
  match Assoc.get? d "pattern", Assoc.get? d "options" with
  | some (.string pattern), some (.string options) =>
    match NulFree.ofString? pattern, NulFree.ofString? options with
    | some pattern, some options => some (.regex pattern options.sorted)
    | _, _ => none
  | _, _ => none

/-- The value that a document with one entry stands for. -/
def singleTag? (key : String) (value : Value) : Option Value :=
  match key, value with
  | "$oid", .string s => (ObjectId.ofText? s).map .objectId
  | "$symbol", .string s => some (.symbol s)
  | "$numberInt", .string s =>
    (integerWithin? Int32.minValue.toInt Int32.maxValue.toInt s).map fun n => .int32 (Int32.ofInt n)
  | "$numberLong", .string s =>
    (integerWithin? Int64.minValue.toInt Int64.maxValue.toInt s).map fun n => .int64 (Int64.ofInt n)
  | "$numberDouble", .string s => (Binary64.ofText? s).map .double
  | "$numberDecimal", .string s => (Decimal128.ofText? s).map .decimal
  | "$numberDecimalBytes", .binary 0 bytes =>
    if bytes.length = 16 then some (.decimal ⟨BitVec.ofNat 128 (ofLittleEndian bytes)⟩) else none
  | "$binary", .document d => binary? d
  | "$code", .string s => some (.code s)
  | "$timestamp", .document d => timestamp? d
  | "$regularExpression", .document d => regex? d
  | "$dbPointer", .document d =>
    match Assoc.get? d "$ref", Assoc.get? d "$id" with
    | some (.string collection), some (.objectId id) => some (.dbPointer collection id)
    | _, _ => none
  | "$date", .int64 millis => some (.dateTime millis)
  | "$date", .string s =>
    (ofTimestamp? s).map fun millis => .dateTime (Int64.ofInt millis)
  | "$minKey", .int32 1 => some .minKey
  | "$minKey", .int64 1 => some .minKey
  | "$maxKey", .int32 1 => some .maxKey
  | "$maxKey", .int64 1 => some .maxKey
  | "$undefined", .bool true => some .undefined
  | _, _ => none

/-- The code that a document with its source and its scope stands for. -/
def codeTag? (source scope : Value) : Option Value :=
  match source, scope with
  | .string source, .document scope => some (.codeWithScope source scope)
  | _, _ => none

/-- The value that a document stands for: itself, unless it has one of the special forms. -/
def denotes (d : Document) : Value :=
  let tagged :=
    match d with
    | [(key, value)] => singleTag? key value
    | [("$code", source), ("$scope", scope)] => codeTag? source scope
    | [("$scope", scope), ("$code", source)] => codeTag? source scope
    | _ => none
  tagged.getD (.document d)

end Document

mutual

/-- A value with all documents within it replaced by what they stand for. A value of a type that has
a special form takes that form on the way, and so is read like it; for decimals that form is their
text, so that only what it shows is left. -/
def Value.interpret : Value → Value
  | .document entries => Document.denotes (interpretEntries entries)
  | .array items => .array (interpretItems items)
  | .codeWithScope source scope =>
    Document.denotes
      [("$code", .string source), ("$scope", Document.denotes (interpretEntries scope))]
  | .regex pattern options => .regex pattern options.sorted
  | .decimal x => .decimal ((Decimal128.ofText? x.text).getD x)
  | other => other

/-- The items of an array, each interpreted. -/
def interpretItems : List Value → List Value
  | [] => []
  | v :: rest => v.interpret :: interpretItems rest

/-- The entries of a document with their values interpreted. -/
def interpretEntries : List (String × Value) → List (String × Value)
  | [] => []
  | (k, v) :: rest => (k, v.interpret) :: interpretEntries rest

end

/-- A document interpreted as a value. -/
def Document.interpret (d : Document) : Value :=
  Document.denotes (interpretEntries d)

end QueryAlgebra
