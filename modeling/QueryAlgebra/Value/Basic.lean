import QueryAlgebra.Assoc
import QueryAlgebra.Number.Binary64
import QueryAlgebra.Number.Decimal128

/-!
# Values and documents

The values that a document database stores. A document is an ordered association list from keys to
values: its order is part of it, and a key that is written again keeps its place (`Assoc.insert`).

* `Value` — a value of any type. Numbers of different widths are different values, and a double is
  its bits, so that Lean's equality on values is identity.
* `Document` — the ordered documents, `Document.ofEntries` building one from pairs in order.
-/

namespace QueryAlgebra

/-- The identity of a document: twelve bytes, read as one number, the first byte the highest. -/
structure ObjectId where
  number : BitVec 96
deriving DecidableEq

/-- A text without NUL, such as can be written with a NUL behind it to mark its end. -/
structure NulFree where
  text : String
  nulFree : '\x00' ∉ text.toList
deriving DecidableEq

namespace NulFree

/-- The text as one without NUL, if it is. -/
def ofString? (s : String) : Option NulFree :=
  if h : '\x00' ∉ s.toList then some ⟨s, h⟩ else none

/-- The characters of the text in ascending order. -/
def sorted (s : NulFree) : NulFree where
  text := String.ofList (s.text.toList.mergeSort fun a b => a.toNat ≤ b.toNat)
  nulFree := by
    rw [String.toList_ofList, List.mem_mergeSort]
    exact s.nulFree

end NulFree

/-- A value of a document database. -/
inductive Value where
  | null
  | bool (b : Bool)
  | int32 (n : Int32)
  | int64 (n : Int64)
  | double (x : Binary64)
  | decimal (x : Decimal128)
  | string (text : String)
  | array (items : List Value)
  | document (entries : List (String × Value))
  | objectId (id : ObjectId)
  /-- Milliseconds since the start of 1970, in universal time. -/
  | dateTime (millis : Int64)
  | binary (subtype : UInt8) (bytes : List UInt8)
  | regex (pattern options : NulFree)
  | timestamp (time increment : UInt32)
  | code (source : String)
  | codeWithScope (source : String) (scope : List (String × Value))
  | symbol (text : String)
  | undefined
  | minKey
  | maxKey
  /-- A reference to a document of the named collection. -/
  | dbPointer (collection : String) (id : ObjectId)

/-- An ordered document. -/
abbrev Document := List (String × Value)

namespace Document

/-- The document that entries make when they are inserted in order. -/
def ofEntries (entries : List (String × Value)) : Document :=
  Assoc.ofEntries entries

/-- The document with one entry. -/
def singleton (key : String) (value : Value) : Document :=
  [(key, value)]

end Document

end QueryAlgebra
