import QueryAlgebra.Value.Tagged

/-!
# Documents as they are received

A reader of documents knows the special forms of extended JSON by the key that names a type, and
takes such a form for the value it describes as soon as it meets the key. Unlike `Value.interpret`
it never looks back: what stood before the key is forgotten, what follows the form is passed over,
and a form that is begun but not valid fails everything around it.

* `Value.text?`, `Value.count?`, `Value.parts?` — the values that are accepted where a text, a count
  or a body of several parts is asked for.
* `formOfKey?` — the forms that consist of one entry, by their keys.
* `Value.received?`, `Document.received?` — the value and the document that a reader makes of what
  arrives.
-/

namespace QueryAlgebra

open Text

/-! ### What is accepted where something is asked for -/

namespace Value

/-- The text that a value gives: a string, or bytes of no further meaning that are UTF-8. -/
def text? : Value → Option String
  | .string s => some s
  | .binary 0 bytes => String.fromUTF8? ⟨bytes.toArray⟩
  | _ => none

/-- The integer that a value gives. -/
def integer? : Value → Option Int
  | .int32 n => some n.toInt
  | .int64 n => some n.toInt
  | _ => none

/-- The natural number that a value gives. -/
def count? (v : Value) : Option Nat :=
  v.integer?.bind Int.toNat?

/-- The natural number below a limit that a value gives. -/
def countBelow? (limit : Nat) (v : Value) : Option Nat :=
  v.count?.filter (· < limit)

/-- The parts of a body with the given names: a document with these keys, in any order, and no other
one, or an array with the parts in order. -/
def parts? (names : List String) : Value → Option (List Value)
  | .document d =>
    if (Assoc.keys d).all names.contains then names.mapM (Assoc.get? d) else none
  | .array items => if names.length ≤ items.length then some (items.take names.length) else none
  | _ => none

/-- The identity in a body of its own, or an identity itself. -/
def identity? : Value → Option ObjectId
  | .objectId id => some id
  | v =>
    match v.parts? ["$oid"] with
    | some [digits] => digits.text?.bind ObjectId.ofText?
    | _ => none

/-- The milliseconds that a value gives: an integer, a timestamp in its interchange form, or a body
with the decimal numeral. -/
def millis? : Value → Option Int
  | .array [numeral] =>
    numeral.text?.bind (integerWithin? Int64.minValue.toInt Int64.maxValue.toInt)
  | .array _ => none
  | .document d =>
    match Value.parts? ["$numberLong"] (.document d) with
    | some [numeral] =>
      numeral.text?.bind (integerWithin? Int64.minValue.toInt Int64.maxValue.toInt)
    | _ => none
  | v => v.integer?.or (v.text?.bind ofTimestamp?)

/-- The sixteen bytes that a value gives: bytes, a text of as many, or an array of their numbers. -/
def sixteenBytes? (v : Value) : Option (List UInt8) :=
  let bytes := match v with
    | .binary 0 bytes => some bytes
    | .string s => some (utf8Bytes s)
    | .array items => (items.mapM (countBelow? 256)).map (List.map UInt8.ofNat)
    | _ => none
  bytes.filter (·.length = 16)

end Value

/-! ### The forms of one entry -/

/-- An identity by its digits, or by its bytes. -/
def receivedIdentity? : Value → Option ObjectId
  | .string s => ObjectId.ofText? s
  | .binary 0 bytes =>
    if bytes.length = 12 then some ⟨BitVec.ofNat 96 (ofLittleEndian bytes.reverse)⟩ else none
  | _ => none

/-- A binary value by its bytes in base64 and its subtype in hexadecimal. -/
def receivedBinary? (body : Value) : Option Value := do
  match ← body.parts? ["base64", "subType"] with
  | [bytes, subtype] =>
    let bytes ← ofBase64? (← bytes.text?)
    match ← ofHexText? (← subtype.text?) with
    | [subtype] => return .binary subtype bytes
    | _ => none
  | _ => none

/-- A timestamp by its two words. -/
def receivedTimestamp? (body : Value) : Option Value := do
  match ← body.parts? ["t", "i"] with
  | [time, increment] =>
    let time ← time.countBelow? UInt32.size
    let increment ← increment.countBelow? UInt32.size
    return .timestamp (UInt32.ofNat time) (UInt32.ofNat increment)
  | _ => none

/-- A regular expression by its pattern and its options. -/
def receivedRegex? (body : Value) : Option Value := do
  match ← body.parts? ["pattern", "options"] with
  | [pattern, options] =>
    let pattern ← NulFree.ofString? (← pattern.text?)
    let options ← NulFree.ofString? (← options.text?)
    return .regex pattern options.sorted
  | _ => none

/-- A reference by its collection and its identity. -/
def receivedPointer? (body : Value) : Option Value := do
  match ← body.parts? ["$ref", "$id"] with
  | [collection, id] => return .dbPointer (← collection.text?) (← id.identity?)
  | _ => none

/-- How the value is read that a key begins, if the key names a type and the form has no second
entry. -/
def formOfKey? : String → Option (Value → Option Value)
  | "$oid" => some fun v => (receivedIdentity? v).map .objectId
  | "$symbol" => some fun v => v.text?.map .symbol
  | "$numberInt" => some fun v =>
    (v.text?.bind (integerWithin? Int32.minValue.toInt Int32.maxValue.toInt)).map fun n =>
      .int32 (Int32.ofInt n)
  | "$numberLong" => some fun v =>
    (v.text?.bind (integerWithin? Int64.minValue.toInt Int64.maxValue.toInt)).map fun n =>
      .int64 (Int64.ofInt n)
  | "$numberDouble" => some fun v => (v.text?.bind Binary64.ofText?).map .double
  | "$numberDecimal" => some fun v => (v.text?.bind Decimal128.ofText?).map .decimal
  | "$numberDecimalBytes" => some fun v =>
    v.sixteenBytes?.map fun bytes => .decimal ⟨BitVec.ofNat 128 (ofLittleEndian bytes)⟩
  | "$binary" => some receivedBinary?
  | "$timestamp" => some receivedTimestamp?
  | "$regularExpression" => some receivedRegex?
  | "$dbPointer" => some receivedPointer?
  | "$date" => some fun v => v.millis?.map fun millis => .dateTime (Int64.ofInt millis)
  | "$minKey" => some fun v => if v.count? = some 1 then some .minKey else none
  | "$maxKey" => some fun v => if v.count? = some 1 then some .maxKey else none
  | "$undefined" => some fun v => match v with | .bool true => some .undefined | _ => none
  | _ => none

/-! ### The reader -/

/-- What has been read of a document. -/
inductive Pending where
  /-- Ordinary entries. -/
  | entries (entries : Document)
  /-- The source of a code, which may have a scope. -/
  | source (source : String)
  /-- The scope of a code, which must have a source. -/
  | scope (scope : Document)

/-- The code with a scope, which has to be a document. -/
def codeWithin? (source : String) : Value → Option Value
  | .document scope => some (.codeWithScope source scope)
  | _ => none

mutual

/-- The value that a reader makes of a value. -/
def Value.received? : Value → Option Value
  | .document entries => receivedEntries? (.entries []) entries
  | .array items => (receivedItems? items).map .array
  | .codeWithScope source scope =>
    (receivedEntries? (.entries []) scope).bind (codeWithin? source)
  | .regex pattern options => some (.regex pattern options.sorted)
  | other => some other

/-- The items that a reader makes of the items of an array. -/
def receivedItems? : List Value → Option (List Value)
  | [] => some []
  | v :: rest => v.received?.bind fun v => (receivedItems? rest).map (v :: ·)

/-- The value that a reader makes of the entries of a document, after what it has read already. -/
def receivedEntries? : Pending → List (String × Value) → Option Value
  | .entries read, [] => some (.document read)
  | .source source, [] => some (.code source)
  | .scope _, [] => none
  | .source source, (k, v) :: _ =>
    if k = "$scope" then v.received?.bind (codeWithin? source) else none
  | .scope scope, (k, v) :: _ =>
    if k = "$code" then v.text?.map fun source => .codeWithScope source scope else none
  | .entries read, (k, v) :: rest =>
    if k = "$code" then v.text?.bind fun source => receivedEntries? (.source source) rest
    else if k = "$scope" then
      match v.received? with
      | some (.document scope) => receivedEntries? (.scope scope) rest
      | _ => none
    else match formOfKey? k with
      | some form => form v
      | none => v.received?.bind fun v => receivedEntries? (.entries (Assoc.insert read k v)) rest

end

/-- The document that a reader makes of a document. -/
def Document.received? (d : Document) : Option Document :=
  match receivedEntries? (.entries []) d with
  | some (.document d) => some d
  | _ => none

end QueryAlgebra
