import Mathlib.Data.List.Forall2
import QueryAlgebra.Proofs.Filter.Block

/-!
# Well-formed filter documents

What a server accepts as the document of a filter follows the filter: one entry, under the path of a
leaf or the symbol of a connective; under a connective an array that is not empty, of documents of
the same sort; and at a leaf a value, or a block with one entry for each symbol, within which the
same is asked of the operands. `Filter.WrittenAs` says so, going down a filter and its document
together, into blocks, negations and element matches alike.

In an element match over filters two things can stand. Either the documents of the filters are
merged, side by side and under distinct keys, or a key is repeated and they are kept apart under
`$and`. Then there are at least two of them, since one document alone repeats no key.

Every filter is written in this way (`writtenAs_toDocument`). There is no condition on it: the
arguments of any combination may be empty, a symbol may be repeated, and an operator may have an
operand that its comparison does not take.
-/

namespace QueryAlgebra

/-! ### Documents that are written as they should be -/

mutual

/-- The document is a well-formed one of the filter. -/
inductive Filter.WrittenAs : Filter → Document → Prop where
  | equals (path : Path) (value : Value) :
    Filter.WrittenAs (.equals path value) [(path.text, value)]
  | operator {path : Path} {o : Operator} {block : Document} (inner : BlockWrittenAs [o] block) :
    Filter.WrittenAs (.operator path o) [(path.text, .document block)]
  | operators {path : Path} {os : List Operator} {block : Document}
    (inner : BlockWrittenAs os block) :
    Filter.WrittenAs (.operators path os) [(path.text, .document block)]
  | logical {c : Connective} {f : Filter} {more : List Filter} {documents : List Document}
    (nonempty : documents ≠ [])
    (members : List.Forall₂ Filter.WrittenAs (f :: more) documents) :
    Filter.WrittenAs (.logical c f more) [(c.symbol, .array (documents.map .document))]

/-- The document is a well-formed block of the operators: each symbol stands once, where it first
occurs, and beside it the operand of an operator of the list. -/
inductive BlockWrittenAs : List Operator → Document → Prop where
  | intro {os kept : List Operator} {block : Document} (from_list : ∀ o ∈ kept, o ∈ os)
    (symbols_eq : kept.map Operator.symbol = (os.map Operator.symbol).eraseDups)
    (entries : List.Forall₂ Operator.WrittenAs kept block) : BlockWrittenAs os block

/-- The entry is a well-formed one of the operator. -/
inductive Operator.WrittenAs : Operator → String × Value → Prop where
  | intro {c : Comparison} {operand : Operand} {value : Value} (inner : operand.WrittenAs value) :
    Operator.WrittenAs (.mk c operand) (c.symbol, value)

/-- The value is a well-formed one of the operand. -/
inductive Operand.WrittenAs : Operand → Value → Prop where
  | value (v : Value) : Operand.WrittenAs (.value v) v
  | operators {os : List Operator} {block : Document} (inner : BlockWrittenAs os block) :
    Operand.WrittenAs (.operators os) (.document block)
  | merged {fs : List Filter} {documents : List Document}
    (members : List.Forall₂ Filter.WrittenAs fs documents)
    (distinct : (Assoc.keys documents.flatten).Nodup) :
    Operand.WrittenAs (.filters fs) (.document documents.flatten)
  | apart {fs : List Filter} {documents : List Document}
    (members : List.Forall₂ Filter.WrittenAs fs documents)
    (repeated : ¬ (Assoc.keys documents.flatten).Nodup) (two_or_more : 2 ≤ documents.length) :
    Operand.WrittenAs (.filters fs)
      (.document [(Connective.and.symbol, .array (documents.map .document))])

end

/-- A well-formed document has one entry, under the path or the symbol of the filter. -/
theorem Filter.WrittenAs.entry {f : Filter} {d : Document} (h : f.WrittenAs d) :
    ∃ value, d = [(f.key, value)] := by
  cases h with
  | equals path value => exact ⟨value, rfl⟩
  | operator _ => exact ⟨_, rfl⟩
  | operators _ => exact ⟨_, rfl⟩
  | logical _ _ => exact ⟨_, rfl⟩

/-! ### The parts of a lowered filter -/

/-- Filters are written as their documents, if each of them is. -/
theorem forall₂_writtenAs {fs : List Filter} (h : ∀ f ∈ fs, f.WrittenAs f.lower) :
    List.Forall₂ Filter.WrittenAs fs (fs.map Filter.lower) := by
  rw [List.forall₂_map_right_iff, List.forall₂_same]
  exact h

/-- Operators are written as their block, if each of them is written as its entry. -/
theorem blockWrittenAs {os : List Operator} (h : ∀ o ∈ os, o.WrittenAs o.entry) :
    BlockWrittenAs os (Document.ofEntries (os.map Operator.entry)) := by
  rw [block_eq_map_lastOfEach]
  refine .intro (fun o ho => mem_of_mem_lastOfEach ho) (symbols_lastOfEach os) ?_
  rw [List.forall₂_map_right_iff, List.forall₂_same]
  exact fun o ho => h o (mem_of_mem_lastOfEach ho)

/-- The operand of an element match is written as it should be, if the filters are. -/
theorem writtenAs_filters {fs : List Filter} (h : ∀ f ∈ fs, f.WrittenAs f.lower) :
    (Operand.filters fs).WrittenAs (.document (merged (fs.map Filter.lower))) := by
  have hkeys := keys_flatten_lower fs
  rw [merged_lower]
  split
  · next hdistinct =>
    rw [← flatten_lower]
    exact .merged (forall₂_writtenAs h) (hkeys ▸ hdistinct)
  · next hrepeated =>
    -- No key is repeated in less than two documents of one entry each.
    have htwo : 2 ≤ (fs.map Filter.lower).length := by
      rw [List.length_map]
      cases fs with
      | nil => exact absurd List.nodup_nil hrepeated
      | cons f rest =>
        cases rest with
        | nil => exact absurd (List.nodup_singleton f.key) hrepeated
        | cons g rest => exact Nat.le_add_left 2 _
    exact .apart (forall₂_writtenAs h) (hkeys ▸ hrepeated) htwo

/-- The lowered document of a filter is well-formed. The claim about operators that the induction
carries along is that the entry of an operator is. -/
theorem writtenAs_lower (f : Filter) : f.WrittenAs f.lower := by
  refine Filter.induct (P := fun f => f.WrittenAs f.lower) (Q := fun o => o.WrittenAs o.entry)
    ?equals ?operator ?operators ?logical ?value ?nested ?filters f
  case equals =>
    intro path v
    rw [Filter.lower]
    exact .equals path v
  case operator =>
    intro path o ih
    rw [Filter.lower]
    exact .operator (blockWrittenAs (List.forall_mem_singleton.mpr ih))
  case operators =>
    intro path os ih
    rw [Filter.lower, operatorEntries_eq_map]
    exact .operators (blockWrittenAs ih)
  case logical =>
    intro c f more ihf ihm
    rw [Filter.lower_logical]
    exact .logical (List.cons_ne_nil _ _)
      (forall₂_writtenAs (List.forall_mem_cons.mpr ⟨ihf, ihm⟩))
  case value =>
    intro c v
    rw [Operator.entry_mk, Operand.lower_value]
    exact .intro (.value v)
  case nested =>
    intro c os ih
    rw [Operator.entry_mk, Operand.lower_operators]
    exact .intro (.operators (blockWrittenAs ih))
  case filters =>
    intro c fs ih
    rw [Operator.entry_mk, Operand.lower_filters]
    exact .intro (writtenAs_filters ih)

/-- **The document of every filter is well-formed**, at any depth: it has one entry, no array under
a connective is empty, and where the filters of an element match are kept apart there are at least
two of them. -/
theorem writtenAs_toDocument (f : Filter) :
    f.WrittenAs f.toDocument.value ∧ ∃ value, f.toDocument.value = [(f.key, value)] :=
  ⟨writtenAs_lower f, (writtenAs_lower f).entry⟩

/-- A combination of one filter, and an element match over none. -/
example :
    (Filter.nor (.operator ⟨"a"⟩ (.elemMatchFilters [])) []).toDocument.value =
      [("$nor", .array [.document [("a", .document [("$elemMatch", .document [])])]])] := rfl

end QueryAlgebra
