import QueryAlgebra.Calendar
import QueryAlgebra.Bytes
import QueryAlgebra.Number.Shortest
import QueryAlgebra.Text.Base64
import QueryAlgebra.Text.Quoted
import QueryAlgebra.Value.Basic

/-!
# Values for people to read

The text by which values are shown in messages and in the log; it is no interchange format. Numbers
stand bare, documents and arrays in brackets, and every other scalar between double quotes. Keys and
strings are quoted with escapes (`Text.quote`); the descriptions of the remaining types go between
the quotes as they are.

* `Value.render`, `Document.render` — the text of a value and of a document.
* `Value.description` — what stands between the quotes of the remaining types.
-/

namespace QueryAlgebra

open Text

/-- The twenty-four hexadecimal digits of an identity. -/
def ObjectId.text (id : ObjectId) : String :=
  paddedHexadecimal 24 id.number.toNat

/-- A double without an exponent, at its shortest; a half goes to the larger neighbour. -/
def Binary64.plainText (x : Binary64) : String :=
  if x.isNaN then "NaN"
  else (if x.isNegative then "-" else "") ++
    (if x.isInfinite then "inf" else if x.isZero then "0" else (x.shortest .up).positional)

/-- The description of a value that is neither a number, nor a string, nor made of other values. -/
def Value.description : Value → String
  | .null => "null"
  | .bool b => if b then "true" else "false"
  | .objectId id => "ObjectId(\"" ++ id.text ++ "\")"
  | .dateTime millis => "DateTime(\"" ++ instantText millis.toInt ++ "\")"
  | .binary subtype bytes => "Binary(0x" ++ hexadecimal subtype.toNat ++ ", " ++ base64 bytes ++ ")"
  | .regex pattern options => "/" ++ pattern.text ++ "/" ++ options.text
  | .timestamp time increment =>
    "Timestamp(" ++ Nat.repr time.toNat ++ ", " ++ Nat.repr increment.toNat ++ ")"
  | .code source => source
  | .codeWithScope source _ => source
  | .symbol text => "Symbol(\"" ++ text ++ "\")"
  | .undefined => "undefined"
  | .minKey => "MinKey"
  | .maxKey => "MaxKey"
  | .dbPointer collection id => "DbPointer(" ++ collection ++ ", " ++ id.text ++ ")"
  | _ => ""

mutual

/-- The text of a value. -/
def Value.render : Value → String
  | .document entries => "\x7b" ++ ", ".intercalate (renderEntries entries) ++ "\x7d"
  | .array items => "[" ++ ", ".intercalate (renderItems items) ++ "]"
  | .int32 n => decimal n.toInt
  | .int64 n => decimal n.toInt
  | .double x => x.plainText
  | .decimal x => x.text
  | .string text => quote text
  | other => "\"" ++ other.description ++ "\""

/-- The texts of the items of an array. -/
def renderItems : List Value → List String
  | [] => []
  | v :: rest => v.render :: renderItems rest

/-- The texts of the entries of a document: key, colon, value. -/
def renderEntries : List (String × Value) → List String
  | [] => []
  | (k, v) :: rest => (quote k ++ ": " ++ v.render) :: renderEntries rest

end

/-- The text of a document. -/
def Document.render (d : Document) : String :=
  "\x7b" ++ ", ".intercalate (renderEntries d) ++ "\x7d"

@[simp] theorem Value.render_document (d : Document) :
    Value.render (.document d) = Document.render d := by
  simp [Value.render, Document.render]

end QueryAlgebra
