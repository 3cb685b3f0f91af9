import QueryAlgebra.Error
import QueryAlgebra.Event
import QueryAlgebra.Filter.Basic
import QueryAlgebra.Value.ExtendedJson
import QueryAlgebra.Value.Tagged

/-!
# Filters as documents

Every filter becomes a document with one entry. A leaf puts its path before the value, or before a
block with one entry per operator; a combination puts the symbol of its connective before the array
of its lowered filters. Within an element match the entries of the lowered filters are merged into
one document, unless two of them have the same key: a merge would then lose a condition, and the
filters stay apart under `$and`.

* `Filter.lower` — the document.
* `Filter.toDocument` — the document with the event that reports it; `toText`, `toBytes`,
  `toExtendedJson` and `toValue` are the further forms, built from it.
-/

namespace QueryAlgebra

/-- The documents as values of an array under the symbol of a connective. -/
def combined (c : Connective) (documents : List Document) : Document :=
  Document.singleton c.symbol (.array (documents.map .document))

/-- The entries of all documents as one document, or the documents under `$and` if some key occurs
twice. -/
def merged (documents : List Document) : Document :=
  (Assoc.disjointUnion? [] documents).getD (combined .and documents)

mutual

/-- The document of a filter. -/
def Filter.lower : Filter → Document
  | .equals path value => Document.singleton path.text value
  | .operator path operator =>
    Document.singleton path.text (.document (Document.ofEntries [operator.entry]))
  | .operators path operators =>
    Document.singleton path.text (.document (Document.ofEntries (operatorEntries operators)))
  | .logical connective first more => combined connective (first.lower :: lowerAll more)

/-- The documents of filters, in order. -/
def lowerAll : List Filter → List Document
  | [] => []
  | f :: rest => f.lower :: lowerAll rest

/-- The entry of an operator in a block: its symbol and its lowered operand. -/
def Operator.entry : Operator → String × Value
  | .mk comparison operand => (comparison.symbol, operand.lower)

/-- The entries of operators, in order. Where a symbol is repeated the block keeps the last operand,
in the place of the first. -/
def operatorEntries : List Operator → List (String × Value)
  | [] => []
  | o :: rest => o.entry :: operatorEntries rest

/-- The value of an operand. -/
def Operand.lower : Operand → Value
  | .value value => value
  | .operators operators => .document (Document.ofEntries (operatorEntries operators))
  | .filters filters => .document (merged (lowerAll filters))

end

theorem lowerAll_eq_map (fs : List Filter) : lowerAll fs = fs.map Filter.lower := by
  induction fs with
  | nil => simp [lowerAll]
  | cons f rest ih => simp [lowerAll, ih]

theorem operatorEntries_eq_map (os : List Operator) :
    operatorEntries os = os.map Operator.entry := by
  induction os with
  | nil => simp [operatorEntries]
  | cons o rest ih => simp [operatorEntries, ih]

/-- A single operator is lowered like a list of one. -/
theorem Filter.lower_operator (path : Path) (o : Operator) :
    Filter.lower (.operator path o) = Filter.lower (.operators path [o]) := by
  simp [Filter.lower, operatorEntries]

/-! ### The forms of a filter -/

/-- The encoding of a document, with the offending key as the cause of failure. -/
def Document.toBytes (d : Document) : Except QueryError (List UInt8) :=
  d.encode.mapError .nulInKey

namespace Filter

/-- The document of a filter. -/
def toDocument (f : Filter) : Logged Document :=
  ⟨f.lower, [.filterSerialized f.lower]⟩

/-- The readable text of a filter. -/
def toText (f : Filter) : Logged String :=
  Document.render <$> f.toDocument

/-- The encoding of a filter. -/
def toBytes (f : Filter) : Logged (Except QueryError (List UInt8)) :=
  Document.toBytes <$> f.toDocument

/-- The relaxed extended JSON text of a filter. -/
def toExtendedJson (f : Filter) : Logged String :=
  Document.toExtendedJson <$> f.toDocument

/-- The value that a reader of extended JSON takes the document of a filter for. -/
def toValue (f : Filter) : Logged Value :=
  Document.interpret <$> f.toDocument

end Filter

/-- A filter converted to a document, whether the filter is kept or given up for it. -/
def Document.ofFilter (f : Filter) : Logged Document :=
  f.toDocument

end QueryAlgebra
