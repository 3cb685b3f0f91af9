import QueryAlgebra.Bytes
import QueryAlgebra.Value.Basic

/-!
# The binary form of documents

The length-prefixed binary encoding in which documents travel: every entry is a type byte, the key
ended by NUL and the payload of the value; a document puts its length before its entries and a zero
byte behind them; an array is a document whose keys are the decimal positions of its items.

* `Value.typeByte`, `Value.payload` — the two parts of a value.
* `Document.bytes` — the encoding of a document.
* `Document.transmitted` — the document that is read back from its encoding.
* `Document.nulKey?` — the first key, in document order, that contains a NUL. Such a key would end
  at its NUL when it is read, so a document that has one is not encoded (`Document.encode`).
-/

namespace QueryAlgebra

/-- The byte that tells the type of a value. -/
def Value.typeByte : Value → UInt8
  | .double _ => 0x01
  | .string _ => 0x02
  | .document _ => 0x03
  | .array _ => 0x04
  | .binary _ _ => 0x05
  | .undefined => 0x06
  | .objectId _ => 0x07
  | .bool _ => 0x08
  | .dateTime _ => 0x09
  | .null => 0x0A
  | .regex _ _ => 0x0B
  | .dbPointer _ _ => 0x0C
  | .code _ => 0x0D
  | .symbol _ => 0x0E
  | .codeWithScope _ _ => 0x0F
  | .int32 _ => 0x10
  | .timestamp _ _ => 0x11
  | .int64 _ => 0x12
  | .decimal _ => 0x13
  | .minKey => 0xFF
  | .maxKey => 0x7F

/-- The bytes of a text, character by character. -/
def utf8Bytes (s : String) : List UInt8 :=
  s.toList.flatMap String.utf8EncodeChar

/-- A text as its bytes and a zero byte. -/
def terminated (s : String) : List UInt8 :=
  utf8Bytes s ++ [0]

@[simp] theorem length_terminated (s : String) :
    (terminated s).length = (utf8Bytes s).length + 1 := by
  simp [terminated]

/-- A text behind its length, which counts the zero byte at its end. -/
def counted (s : String) : List UInt8 :=
  littleEndian 4 (terminated s).length ++ terminated s

/-- A body between the length of the whole and a zero byte. -/
def framed (body : List UInt8) : List UInt8 :=
  littleEndian 4 (body.length + 5) ++ body ++ [0]

/-- The twelve bytes of an identity, the highest first. -/
def ObjectId.bytes (id : ObjectId) : List UInt8 :=
  (littleEndian 12 id.number.toNat).reverse

/-- The bytes of a binary value behind their count and subtype. The second subtype counts its bytes
twice, within the outer count. -/
def binaryPayload (subtype : UInt8) (bytes : List UInt8) : List UInt8 :=
  if subtype = 2 then
    littleEndian 4 (bytes.length + 4) ++ [subtype] ++ littleEndian 4 bytes.length ++ bytes
  else littleEndian 4 bytes.length ++ [subtype] ++ bytes

mutual

/-- The bytes of a value behind its type and key. -/
def Value.payload : Value → List UInt8
  | .null => []
  | .bool b => [if b then 1 else 0]
  | .int32 n => littleEndian 4 n.toUInt32.toNat
  | .int64 n => littleEndian 8 n.toUInt64.toNat
  | .double x => littleEndian 8 x.bits.toNat
  | .decimal x => littleEndian 16 x.word.toNat
  | .string text => counted text
  | .array items => framed (encodeItems 0 items)
  | .document entries => framed (encodeEntries entries)
  | .objectId id => id.bytes
  | .dateTime millis => littleEndian 8 millis.toUInt64.toNat
  | .binary subtype bytes => binaryPayload subtype bytes
  | .regex pattern options => terminated pattern.text ++ terminated options.sorted.text
  | .timestamp time increment =>
    littleEndian 4 increment.toNat ++ littleEndian 4 time.toNat
  | .code source => counted source
  | .codeWithScope source scope =>
    let body := counted source ++ framed (encodeEntries scope)
    littleEndian 4 (body.length + 4) ++ body
  | .symbol text => counted text
  | .undefined => []
  | .minKey => []
  | .maxKey => []
  | .dbPointer collection id => counted collection ++ id.bytes

/-- The items of an array from a position on, each as an entry. -/
def encodeItems (position : Nat) : List Value → List UInt8
  | [] => []
  | v :: rest =>
    v.typeByte :: (terminated (Nat.repr position) ++ (v.payload ++ encodeItems (position + 1) rest))

/-- The entries of a document. -/
def encodeEntries : List (String × Value) → List UInt8
  | [] => []
  | (k, v) :: rest => v.typeByte :: (terminated k ++ (v.payload ++ encodeEntries rest))

end

/-- The encoding of a document. -/
def Document.bytes (d : Document) : List UInt8 :=
  framed (encodeEntries d)

@[simp] theorem Value.payload_document (d : Document) :
    Value.payload (.document d) = Document.bytes d := by
  simp [Value.payload, Document.bytes]

/-! ### What arrives

The options of a regular expression are a set, and are written in ascending order. Everything else
arrives as it was.
-/

mutual

/-- The value that is read back from the encoding of a value. -/
def Value.transmitted : Value → Value
  | .regex pattern options => .regex pattern options.sorted
  | .array items => .array (transmittedItems items)
  | .document entries => .document (transmittedEntries entries)
  | .codeWithScope source scope => .codeWithScope source (transmittedEntries scope)
  | other => other

/-- The items of an array as they are read back. -/
def transmittedItems : List Value → List Value
  | [] => []
  | v :: rest => v.transmitted :: transmittedItems rest

/-- The entries of a document as they are read back. -/
def transmittedEntries : List (String × Value) → List (String × Value)
  | [] => []
  | (k, v) :: rest => (k, v.transmitted) :: transmittedEntries rest

end

/-- The document that is read back from the encoding of a document. -/
def Document.transmitted (d : Document) : Document :=
  transmittedEntries d

/-! ### Keys that cannot be encoded -/

/-- Whether a text contains a NUL. -/
def hasNul (s : String) : Bool :=
  s.toList.contains '\x00'

mutual

/-- The first key with a NUL among the keys within a value. -/
def Value.nulKey? : Value → Option String
  | .array items => nulKeyInItems? items
  | .document entries => nulKeyInEntries? entries
  | .codeWithScope _ scope => nulKeyInEntries? scope
  | _ => none

/-- The first key with a NUL within the items of an array. -/
def nulKeyInItems? : List Value → Option String
  | [] => none
  | v :: rest => v.nulKey?.or (nulKeyInItems? rest)

/-- The first key with a NUL among the keys of entries and within their values. -/
def nulKeyInEntries? : List (String × Value) → Option String
  | [] => none
  | (k, v) :: rest => if hasNul k then some k else v.nulKey?.or (nulKeyInEntries? rest)

end

/-- The first key of a document, at any depth, that contains a NUL. -/
def Document.nulKey? (d : Document) : Option String :=
  nulKeyInEntries? d

/-- The encoding of a document, or the first key that cannot be encoded. -/
def Document.encode (d : Document) : Except String (List UInt8) :=
  match d.nulKey? with
  | some key => .error key
  | none => .ok d.bytes

end QueryAlgebra
