import QueryAlgebra.Value.Encoding

/-!
# The keys of a document

All the keys of a document in document order: a key comes before the keys within its value, and
those before the next key; arrays and the scopes of code are looked into as documents are. The
search for a key that cannot be encoded goes through the keys in this order, so it finds the first
of them that contains a NUL (`Document.nulKey?_eq_find?`).
-/

namespace QueryAlgebra

mutual

/-- The keys within a value, at any depth, in document order. -/
def Value.keysWithin : Value → List String
  | .array items => keysInItems items
  | .document entries => keysInEntries entries
  | .codeWithScope _ scope => keysInEntries scope
  | _ => []

/-- The keys within the items of an array, in order. -/
def keysInItems : List Value → List String
  | [] => []
  | v :: rest => v.keysWithin ++ keysInItems rest

/-- The keys of entries, each before those within its value. -/
def keysInEntries : List (String × Value) → List String
  | [] => []
  | (k, v) :: rest => k :: (v.keysWithin ++ keysInEntries rest)

end

/-- The keys of a document, at any depth, in document order. -/
def Document.allKeys (d : Document) : List String :=
  keysInEntries d

@[simp] theorem Value.keysWithin_document (d : Document) :
    (Value.document d).keysWithin = d.allKeys := by
  rw [Value.keysWithin, Document.allKeys]

@[simp] theorem Value.keysWithin_array (vs : List Value) :
    (Value.array vs).keysWithin = vs.flatMap Value.keysWithin := by
  rw [Value.keysWithin]
  induction vs with
  | nil => rfl
  | cons v rest ih => rw [keysInItems, List.flatMap_cons, ih]

theorem Document.allKeys_eq_flatMap (d : Document) :
    d.allKeys = d.flatMap fun e => e.1 :: e.2.keysWithin := by
  rw [Document.allKeys]
  induction d with
  | nil => rfl
  | cons e rest ih => rw [keysInEntries, List.flatMap_cons, ih, List.cons_append]

theorem Document.allKeys_singleton (k : String) (v : Value) :
    Document.allKeys [(k, v)] = k :: v.keysWithin := by
  rw [Document.allKeys_eq_flatMap, List.flatMap_singleton]

/-! ### The first key with a NUL -/

mutual

/-- The search of a value finds the first of its keys that contains a NUL. -/
theorem Value.nulKey?_eq_find? : (v : Value) → v.nulKey? = v.keysWithin.find? hasNul
  | .array items => by rw [Value.nulKey?, Value.keysWithin, nulKeyInItems?_eq_find? items]
  | .document entries => by rw [Value.nulKey?, Value.keysWithin, nulKeyInEntries?_eq_find? entries]
  | .codeWithScope _ scope => by
    rw [Value.nulKey?, Value.keysWithin, nulKeyInEntries?_eq_find? scope]
  | .null | .bool _ | .int32 _ | .int64 _ | .double _ | .decimal _ | .string _ | .objectId _
  | .dateTime _ | .binary _ _ | .regex _ _ | .timestamp _ _ | .code _ | .symbol _ | .undefined
  | .minKey | .maxKey | .dbPointer _ _ => rfl

/-- The same of the items of an array. -/
theorem nulKeyInItems?_eq_find? :
    (vs : List Value) → nulKeyInItems? vs = (keysInItems vs).find? hasNul
  | [] => rfl
  | v :: rest => by
    rw [nulKeyInItems?, keysInItems, List.find?_append, Value.nulKey?_eq_find? v,
      nulKeyInItems?_eq_find? rest]

/-- The same of entries. -/
theorem nulKeyInEntries?_eq_find? :
    (es : List (String × Value)) → nulKeyInEntries? es = (keysInEntries es).find? hasNul
  | [] => rfl
  | (k, v) :: rest => by
    rw [nulKeyInEntries?, keysInEntries, List.find?_cons, List.find?_append,
      Value.nulKey?_eq_find? v, nulKeyInEntries?_eq_find? rest]
    cases hasNul k <;> rfl

end

theorem Document.nulKey?_eq_find? (d : Document) : d.nulKey? = d.allKeys.find? hasNul := by
  rw [Document.nulKey?, nulKeyInEntries?_eq_find?, Document.allKeys]

end QueryAlgebra
