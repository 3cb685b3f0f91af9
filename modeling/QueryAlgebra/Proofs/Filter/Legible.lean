import QueryAlgebra.Proofs.Filter.Structure

/-!
# Legible filters

Paths, symbols of operators and symbols of connectives share the keys of a document, and a block of
operators stands where an equality puts its value. What tells them apart is the dollar sign that
every symbol opens with, so a filter is read back from its document as long as nothing else opens
with one.

* `isSymbol`, `Document.opensWithSymbol`, `Document.isBlock` — the marks that a reader goes by.
* `Connective.ofSymbol?`, `Comparison.ofSymbol?` — what a key stands for, if it is a symbol.
* `Filter.Legible`, `Operator.Legible` — trees of the operators by name whose paths and compared
  values cannot be taken for symbols and blocks, and whose lists of operators neither repeat a
  symbol nor, at a leaf, are empty.
* `isBlock_merged` — the merged document of an element match is never taken for a block.
-/

namespace QueryAlgebra

/-! ### Symbols -/

/-- Whether a text opens with a dollar sign. -/
def isSymbol (s : String) : Bool :=
  s.toList.head? == some '$'

@[simp] theorem isSymbol_comparison (c : Comparison) : isSymbol c.symbol = true := by
  cases c <;> decide

/-- The connective that a symbol stands for. -/
def Connective.ofSymbol? : String → Option Connective
  | "$and" => some .and
  | "$or" => some .or
  | "$nor" => some .nor
  | _ => none

@[simp] theorem Connective.ofSymbol?_symbol (c : Connective) :
    Connective.ofSymbol? c.symbol = some c := by
  cases c <;> decide

/-- No operator goes by the symbol of a connective. -/
@[simp] theorem Connective.ofSymbol?_comparison (c : Comparison) :
    Connective.ofSymbol? c.symbol = none := by
  cases c <;> decide

theorem Connective.ofSymbol?_of_not_isSymbol {s : String} (h : isSymbol s = false) :
    Connective.ofSymbol? s = none := by
  unfold Connective.ofSymbol?
  split
  · exact absurd h (by decide)
  · exact absurd h (by decide)
  · exact absurd h (by decide)
  · rfl

/-- The comparison that a symbol stands for. -/
def Comparison.ofSymbol? : String → Option Comparison
  | "$eq" => some .eq
  | "$ne" => some .ne
  | "$gt" => some .gt
  | "$gte" => some .gte
  | "$lt" => some .lt
  | "$lte" => some .lte
  | "$in" => some .oneOf
  | "$nin" => some .noneOf
  | "$exists" => some .existence
  | "$all" => some .all
  | "$size" => some .size
  | "$elemMatch" => some .elemMatch
  | "$regex" => some .pattern
  | "$options" => some .patternFlags
  | "$not" => some .not
  | _ => none

@[simp] theorem Comparison.ofSymbol?_symbol (c : Comparison) :
    Comparison.ofSymbol? c.symbol = some c := by
  cases c <;> decide

theorem Comparison.symbol_injective : Function.Injective Comparison.symbol := by
  intro c d h
  have hcd := congrArg Comparison.ofSymbol? h
  rwa [Comparison.ofSymbol?_symbol, Comparison.ofSymbol?_symbol, Option.some.injEq] at hcd

namespace Document

/-- Whether the first key of a document is a symbol. -/
def opensWithSymbol : Document → Bool
  | [] => false
  | (k, _) :: _ => isSymbol k

/-- Whether the first key of a document is a symbol, but not that of a connective. -/
def isBlock : Document → Bool
  | [] => false
  | (k, _) :: _ => isSymbol k && (Connective.ofSymbol? k).isNone

@[simp] theorem opensWithSymbol_nil : opensWithSymbol [] = false := rfl

@[simp] theorem opensWithSymbol_cons (k : String) (v : Value) (rest : Document) :
    opensWithSymbol ((k, v) :: rest) = isSymbol k := rfl

@[simp] theorem isBlock_nil : isBlock [] = false := rfl

@[simp] theorem isBlock_cons (k : String) (v : Value) (rest : Document) :
    isBlock ((k, v) :: rest) = (isSymbol k && (Connective.ofSymbol? k).isNone) := rfl

end Document

/-- Whether a value is a document whose first key is a symbol. -/
def Value.opensWithSymbol : Value → Bool
  | .document d => Document.opensWithSymbol d
  | _ => false

@[simp] theorem Value.opensWithSymbol_document (d : Document) :
    (Value.document d).opensWithSymbol = Document.opensWithSymbol d := rfl

/-! ### Legible trees -/

mutual

/-- A filter whose document can be read in one way only. -/
inductive Filter.Legible : Filter → Prop where
  | equals {path : Path} {value : Value} (path_plain : isSymbol path.text = false)
    (value_plain : value.opensWithSymbol = false) : Filter.Legible (.equals path value)
  | operator {path : Path} {o : Operator} (path_plain : isSymbol path.text = false)
    (legible : o.Legible) : Filter.Legible (.operator path o)
  | operators {path : Path} {os : List Operator} (path_plain : isSymbol path.text = false)
    (nonempty : os ≠ []) (distinct : (os.map Operator.symbol).Nodup)
    (legible : ∀ o ∈ os, o.Legible) : Filter.Legible (.operators path os)
  | logical {c : Connective} {f : Filter} {more : List Filter} (first : f.Legible)
    (others : ∀ g ∈ more, g.Legible) : Filter.Legible (.logical c f more)

/-- An operator with the kind of operand that its comparison takes: negation takes operators, an
element match operators or filters, and every other comparison a value. -/
inductive Operator.Legible : Operator → Prop where
  | compare {c : Comparison} {v : Value} (not_negation : c ≠ .not)
    (not_elemMatch : c ≠ .elemMatch) : Operator.Legible (.mk c (.value v))
  | negation {os : List Operator} (distinct : (os.map Operator.symbol).Nodup)
    (legible : ∀ o ∈ os, o.Legible) : Operator.Legible (.mk .not (.operators os))
  | elemMatch {os : List Operator} (distinct : (os.map Operator.symbol).Nodup)
    (legible : ∀ o ∈ os, o.Legible) : Operator.Legible (.mk .elemMatch (.operators os))
  | elemMatchFilters {fs : List Filter} (legible : ∀ f ∈ fs, f.Legible) :
    Operator.Legible (.mk .elemMatch (.filters fs))

end

/-- A legible filter with nesting of every sort: not both conditions on the points of one item of
two scores, and a name. -/
def Filter.sample : Filter :=
  .and (.operators ⟨"scores"⟩ [.size 2, .not (.elemMatchFilters
      [.operator ⟨"points"⟩ (.gte (.int32 8)), .operator ⟨"points"⟩ (.lt (.int32 10))])])
    [.equals ⟨"name"⟩ (.document [("given", .string "$x")])]

theorem Filter.sample_legible : Filter.sample.Legible := by
  have hpoints : ∀ c v, c ≠ .not → c ≠ .elemMatch →
      (Filter.operator ⟨"points"⟩ (.mk c (.value v))).Legible :=
    fun c v hn he => .operator (by decide) (.compare hn he)
  have hitems : (Operator.elemMatchFilters
      [.operator ⟨"points"⟩ (.gte (.int32 8)), .operator ⟨"points"⟩ (.lt (.int32 10))]).Legible :=
    .elemMatchFilters (List.forall_mem_cons.mpr ⟨hpoints _ _ (by decide) (by decide),
      List.forall_mem_singleton.mpr (hpoints _ _ (by decide) (by decide))⟩)
  refine .logical (.operators (by decide) (by simp) (by decide) ?_) ?_
  · refine List.forall_mem_cons.mpr ⟨.compare (by decide) (by decide), ?_⟩
    exact List.forall_mem_singleton.mpr (.negation (by simp) (List.forall_mem_singleton.mpr hitems))
  · exact List.forall_mem_singleton.mpr (.equals (by decide) (by decide))

/-- The key of a legible filter is a path, or the symbol of a connective. -/
theorem Filter.Legible.key_plain {f : Filter} (h : f.Legible) :
    (isSymbol f.key && (Connective.ofSymbol? f.key).isNone) = false := by
  cases h with
  | equals hp _ => simp [Filter.key, hp]
  | operator hp _ => simp [Filter.key, hp]
  | operators hp _ _ _ => simp [Filter.key, hp]
  | logical _ _ => simp [Filter.key]

/-! ### Blocks and merged documents -/

/-- A block of operators opens with a symbol as soon as it has an entry. -/
theorem opensWithSymbol_block {os : List Operator} (h : os ≠ []) :
    Document.opensWithSymbol (os.map Operator.entry) = true := by
  cases os with
  | nil => exact absurd rfl h
  | cons o rest =>
    cases o
    simp

theorem isBlock_block (os : List Operator) :
    Document.isBlock (os.map Operator.entry) = !os.isEmpty := by
  cases os with
  | nil => rfl
  | cons o rest =>
    cases o
    simp

/-- The merged document of legible filters opens with a path or a connective. -/
theorem isBlock_merged {fs : List Filter} (h : ∀ f ∈ fs, f.Legible) :
    Document.isBlock (merged (fs.map Filter.lower)) = false := by
  rw [merged_lower]
  split
  · -- The first key is that of the first filter.
    cases fs with
    | nil => rfl
    | cons f rest =>
      rw [List.map_cons, Document.isBlock_cons]
      exact (h f List.mem_cons_self).key_plain
  · -- The only key is `$and`.
    simp [combined, Document.singleton]

end QueryAlgebra
