import QueryAlgebra.Filter.Lowering
import QueryAlgebra.Update.Basic

/-!
# Handles

Filters and updates are made from handles on the paths of a document.

* `Field` — a handle on a scalar or an embedded document: comparisons, membership, existence,
  patterns and the updates of one value.
* `ArrayField` — a handle on an array: its items, its size, and the update of the whole.
-/

namespace QueryAlgebra

/-- A handle on a scalar or an embedded document. -/
structure Field where
  path : Path
deriving DecidableEq

/-- A handle on an array. -/
structure ArrayField where
  path : Path
deriving DecidableEq

namespace Field

/-! ### Filters -/

/-- The value is this one; it stands in the document without an operator. -/
def equals (f : Field) (v : Value) : Filter := .equals f.path v

def notEquals (f : Field) (v : Value) : Filter := .operator f.path (.ne v)

def gt (f : Field) (v : Value) : Filter := .operator f.path (.gt v)

def gte (f : Field) (v : Value) : Filter := .operator f.path (.gte v)

def lt (f : Field) (v : Value) : Filter := .operator f.path (.lt v)

def lte (f : Field) (v : Value) : Filter := .operator f.path (.lte v)

def oneOf (f : Field) (vs : List Value) : Filter := .operator f.path (.oneOf vs)

def noneOf (f : Field) (vs : List Value) : Filter := .operator f.path (.noneOf vs)

def present (f : Field) : Filter := .operator f.path .present

def absent (f : Field) : Filter := .operator f.path .absent

/-- The text matches a regular expression; its flags stand beside it if there are any. -/
def matchesPattern (f : Field) (pattern : String) (flags : List PatternFlag) : Filter :=
  if flags.isEmpty then .operator f.path (.pattern pattern)
  else .operators f.path
    [.pattern pattern, .patternFlags (String.ofList (flags.map PatternFlag.letter))]

def not (f : Field) (o : Operator) : Filter := .operator f.path (.not o)

/-- All the operators hold of the value. -/
def satisfiesAll (f : Field) (os : List Operator) : Filter := .operators f.path os

/-! ### Updates -/

def set (f : Field) (v : Value) : Update := .directive ⟨.set, f.path, v⟩

def inc (f : Field) (v : Value) : Update := .directive ⟨.inc, f.path, v⟩

def min (f : Field) (v : Value) : Update := .directive ⟨.min, f.path, v⟩

def max (f : Field) (v : Value) : Update := .directive ⟨.max, f.path, v⟩

def mul (f : Field) (v : Value) : Update := .directive ⟨.mul, f.path, v⟩

/-- The value moves to another path. -/
def rename (f : Field) (target : Field) : Update :=
  .directive ⟨.rename, f.path, .string target.path.text⟩

/-- The value is removed; what is written beside the path does not matter, and is empty. -/
def unset (f : Field) : Update := .directive ⟨.unset, f.path, .string ""⟩

/-- The value becomes the time of the update. -/
def currentDate (f : Field) : Update := .directive ⟨.currentDate, f.path, .bool true⟩

end Field

namespace ArrayField

/-- A handle on one item of the array. -/
def elementNo (a : ArrayField) (position : Nat) : Field := ⟨a.path.index position⟩

/-! ### Filters -/

/-- The array contains all of these, in any order. -/
def containsAll (a : ArrayField) (vs : List Value) : Filter := .operator a.path (.all vs)

/-- The array has this many items. -/
def size (a : ArrayField) (n : Int32) : Filter := .operator a.path (.size n)

/-- The operators hold of items of the array, each of one of its own. -/
def containsElement (a : ArrayField) (os : List Operator) : Filter :=
  match os with
  | [o] => .operator a.path o
  | os => .operators a.path os

/-- Some item of the array satisfies all the operators. -/
def elemMatch (a : ArrayField) (os : List Operator) : Filter := .operator a.path (.elemMatch os)

/-- Some item of the array satisfies all the filters. -/
def elemMatchFilters (a : ArrayField) (fs : List Filter) : Filter :=
  .operator a.path (.elemMatchFilters fs)

/-- The array is the array of the documents of the filters. They are serialized at once. -/
def containsElementMatching (a : ArrayField) (fs : List Filter) : Logged Filter := do
  let documents ← fs.mapM Filter.toDocument
  return .equals a.path (.array (documents.map .document))

/-- The array is this one. -/
def containsExact (a : ArrayField) (vs : List Value) : Filter := .equals a.path (.array vs)

/-! ### Updates -/

/-- The whole array is replaced. -/
def set (a : ArrayField) (vs : List Value) : Update := .directive ⟨.set, a.path, .array vs⟩

/-- The array is removed. -/
def unset (a : ArrayField) : Update := .directive ⟨.unset, a.path, .string ""⟩

end ArrayField

end QueryAlgebra
