import QueryAlgebra.Field
import QueryAlgebra.Proofs.Filter.Structure

/-!
# Colliding keys

Two kinds of list go into one document: the filters of an element match, each under its key, and the
operators of a block, each under its symbol. In both a key can come twice, and what becomes of it is
different.

* The filters of an element match are merged only as long as no key comes twice. Otherwise all of
  them are kept, in order, under `$and` (`operand_elemMatchFilters`).
* The operators of a block are written one over the other. `Filter.fullDocument` is the document
  that a filter would have if every operator at any depth had an entry of its own, and the document
  of a filter is this one exactly if no list of operators within it repeats a symbol
  (`toDocument_eq_fullDocument_iff`). So `toDocument_loses_operators`.
-/

namespace QueryAlgebra

/-! ### The filters of an element match -/

/-- **An element match keeps all its filters**, once each and in order. Each of them has a document
of one entry. If no key comes twice the entries stand side by side; if one does, the documents stand
side by side under `$and`, however far the merge has got by then. -/
theorem operand_elemMatchFilters (fs : List Filter) :
    (∀ f : Filter, ∃ value, f.lower = [(f.key, value)]) ∧
      (fs.map Filter.lower).flatten.length = fs.length ∧
      (Operator.elemMatchFilters fs).operand.lower =
        .document (if (fs.map Filter.key).Nodup then (fs.map Filter.lower).flatten
          else [("$and", .array (fs.map fun f => .document f.lower))]) := by
  refine ⟨?entry, ?length, ?operand⟩
  case entry =>
    intro f
    exact ⟨f.slot, f.lower_eq⟩
  case length => rw [flatten_lower, List.length_map]
  case operand =>
    have hoperand : (Operator.elemMatchFilters fs).operand = .filters fs := rfl
    have hapart : combined .and (fs.map Filter.lower) =
        [("$and", .array (fs.map fun f => .document f.lower))] := by
      rw [combined, List.map_map]
      rfl
    rw [hoperand, Operand.lower_filters, merged_eq, keys_flatten_lower, hapart]

/-- The third filter has the key of the first, when two entries are merged already. -/
example :
    (Operator.elemMatchFilters [.operator ⟨"score"⟩ (.gte (.int32 8)), .equals ⟨"product"⟩ .null,
        .operator ⟨"score"⟩ (.lt (.int32 10))]).operand.lower =
      .document [("$and", .array [.document [("score", .document [("$gte", .int32 8)])],
        .document [("product", .null)], .document [("score", .document [("$lt", .int32 10)])]])] :=
  rfl

/-! ### Documents in full -/

mutual

/-- The entry of a filter in which every operator has an entry of its own. -/
def Filter.fullEntry : Filter → String × Value
  | .equals path value => (path.text, value)
  | .operator path o => (path.text, .document [o.fullEntry])
  | .operators path os => (path.text, .document (fullBlock os))
  | .logical c first more =>
    (c.symbol, .array ((first.fullEntry :: fullEntries more).map fun e => .document [e]))

/-- The entries of filters, in order. -/
def fullEntries : List Filter → List (String × Value)
  | [] => []
  | f :: rest => f.fullEntry :: fullEntries rest

/-- The entry of an operator: its symbol and its own operand. -/
def Operator.fullEntry : Operator → String × Value
  | .mk c operand => (c.symbol, operand.full)

/-- The entries of operators, one for each of them in order. -/
def fullBlock : List Operator → List (String × Value)
  | [] => []
  | o :: rest => o.fullEntry :: fullBlock rest

/-- The value of an operand. -/
def Operand.full : Operand → Value
  | .value value => value
  | .operators os => .document (fullBlock os)
  | .filters fs => .document (merged ((fullEntries fs).map fun e => [e]))

end

/-- The document of a filter in which every operator at any depth has an entry of its own. -/
def Filter.fullDocument (f : Filter) : Document :=
  [f.fullEntry]

mutual

/-- The lists of operators in a filter, at any depth. -/
def Filter.operatorLists : Filter → List (List Operator)
  | .equals _ _ => []
  | .operator _ o => o.operatorLists
  | .operators _ os => os :: listsInOperators os
  | .logical _ first more => first.operatorLists ++ listsInFilters more

/-- The lists of operators in filters, at any depth. -/
def listsInFilters : List Filter → List (List Operator)
  | [] => []
  | f :: rest => f.operatorLists ++ listsInFilters rest

/-- The lists of operators in an operator, at any depth. -/
def Operator.operatorLists : Operator → List (List Operator)
  | .mk _ operand => operand.operatorLists

/-- The lists of operators in operators, at any depth. -/
def listsInOperators : List Operator → List (List Operator)
  | [] => []
  | o :: rest => o.operatorLists ++ listsInOperators rest

/-- The lists of operators in an operand, at any depth. -/
def Operand.operatorLists : Operand → List (List Operator)
  | .value _ => []
  | .operators os => os :: listsInOperators os
  | .filters fs => listsInFilters fs

end

theorem fullEntries_eq_map (fs : List Filter) : fullEntries fs = fs.map Filter.fullEntry := by
  induction fs with
  | nil => rw [fullEntries]; rfl
  | cons f rest ih => rw [fullEntries, List.map_cons, ih]

theorem fullBlock_eq_map (os : List Operator) : fullBlock os = os.map Operator.fullEntry := by
  induction os with
  | nil => rw [fullBlock]; rfl
  | cons o rest ih => rw [fullBlock, List.map_cons, ih]

theorem listsInFilters_eq_flatMap (fs : List Filter) :
    listsInFilters fs = fs.flatMap Filter.operatorLists := by
  induction fs with
  | nil => rw [listsInFilters]; rfl
  | cons f rest ih => rw [listsInFilters, List.flatMap_cons, ih]

theorem listsInOperators_eq_flatMap (os : List Operator) :
    listsInOperators os = os.flatMap Operator.operatorLists := by
  induction os with
  | nil => rw [listsInOperators]; rfl
  | cons o rest ih => rw [listsInOperators, List.flatMap_cons, ih]

theorem Operator.fst_fullEntry (o : Operator) : o.fullEntry.1 = o.symbol := by
  cases o
  rw [Operator.fullEntry]
  rfl

theorem Filter.fst_fullEntry (f : Filter) : f.fullEntry.1 = f.key := by
  cases f <;> rw [Filter.fullEntry] <;> rfl

/-! ### Which documents are full -/

/-- No list among these repeats a symbol. -/
def NoneRepeats (lists : List (List Operator)) : Prop :=
  ∀ os ∈ lists, (os.map Operator.symbol).Nodup

theorem noneRepeats_nil : NoneRepeats [] :=
  fun _ h => absurd h List.not_mem_nil

theorem noneRepeats_cons {os : List Operator} {lists : List (List Operator)} :
    NoneRepeats (os :: lists) ↔ (os.map Operator.symbol).Nodup ∧ NoneRepeats lists :=
  List.forall_mem_cons

theorem noneRepeats_flatMap {α : Type} {parts : List α} {lists : α → List (List Operator)} :
    NoneRepeats (parts.flatMap lists) ↔ ∀ a ∈ parts, NoneRepeats (lists a) :=
  List.forall_mem_flatMap

/-- Two readings of the parts of a list agree exactly if no list within the parts repeats a symbol,
if this is so for each part. -/
theorem map_eq_map_iff {α β : Type} {parts : List α} {g g' : α → β}
    {lists : α → List (List Operator)} (h : ∀ a ∈ parts, g a = g' a ↔ NoneRepeats (lists a)) :
    parts.map g = parts.map g' ↔ NoneRepeats (parts.flatMap lists) := by
  rw [List.map_inj_left, noneRepeats_flatMap]
  exact forall₂_congr h

/-- A block has an entry for each operator exactly if no symbol is repeated and the entries are full
themselves. -/
theorem block_eq_full_iff {os : List Operator}
    (h : ∀ o ∈ os, o.entry = o.fullEntry ↔ NoneRepeats o.operatorLists) :
    Document.ofEntries (os.map Operator.entry) = os.map Operator.fullEntry ↔
      NoneRepeats (os :: os.flatMap Operator.operatorLists) := by
  rw [noneRepeats_cons, ← map_eq_map_iff h]
  constructor
  · intro hblock
    -- A block repeats no key, and the keys of the full one are all the symbols.
    have hkeys : Assoc.keys (Document.ofEntries (os.map Operator.entry)) =
        os.map Operator.symbol := by
      rw [hblock, Assoc.keys, List.map_map]
      exact List.map_congr_left fun o _ => o.fst_fullEntry
    have hdistinct : (os.map Operator.symbol).Nodup := by
      rw [← hkeys, Document.ofEntries, Assoc.keys_ofEntries]
      exact Assoc.nodup_eraseDups _
    rw [block_of_nodup hdistinct] at hblock
    exact ⟨hdistinct, hblock⟩
  · rintro ⟨hdistinct, hfull⟩
    rw [block_of_nodup hdistinct, hfull]

theorem combined_inj {c : Connective} {documents documents' : List Document} :
    combined c documents = combined c documents' ↔ documents = documents' := by
  have hinjective : Function.Injective Value.document := fun d e h => Value.document.inj h
  rw [combined, combined, Document.singleton, Document.singleton, List.singleton_inj,
    Prod.mk.injEq, Value.array.injEq, (List.map_injective_iff.mpr hinjective).eq_iff]
  exact and_iff_right rfl

/-- Merging tells apart documents that have the keys of the same filters. -/
theorem merged_eq_merged_full_iff (fs : List Filter) :
    merged (fs.map Filter.lower) = merged (fs.map Filter.fullDocument) ↔
      fs.map Filter.lower = fs.map Filter.fullDocument := by
  refine ⟨fun hmerged => ?_, fun hall => by rw [hall]⟩
  have hflatten : (fs.map Filter.fullDocument).flatten = fs.map Filter.fullEntry := by
    rw [← List.flatMap_def]
    exact List.map_eq_flatMap.symm
  have hkeys : Assoc.keys (fs.map Filter.fullEntry) = fs.map Filter.key := by
    rw [Assoc.keys, List.map_map]
    exact List.map_congr_left fun f _ => f.fst_fullEntry
  rw [merged_eq, merged_eq, hflatten, hkeys, keys_flatten_lower, flatten_lower] at hmerged
  -- The keys are the same in both, so the filters are merged in both or apart in both.
  by_cases hdistinct : (fs.map Filter.key).Nodup
  · rw [if_pos hdistinct, if_pos hdistinct, List.map_inj_left] at hmerged
    refine List.map_congr_left fun f hf => ?_
    rw [f.lower_eq, Filter.fullDocument, hmerged f hf]
  · rwa [if_neg hdistinct, if_neg hdistinct, combined_inj] at hmerged

/-- The document of a filter is full exactly if no list of operators within it repeats a symbol. The
claim about operators that the induction carries along is the same about their entries. -/
theorem lower_eq_fullDocument_iff (f : Filter) :
    f.lower = f.fullDocument ↔ NoneRepeats f.operatorLists := by
  refine Filter.induct (P := fun f => f.lower = f.fullDocument ↔ NoneRepeats f.operatorLists)
    (Q := fun o => o.entry = o.fullEntry ↔ NoneRepeats o.operatorLists)
    ?equals ?operator ?operators ?logical ?value ?nested ?filters f
  case equals =>
    intro path v
    rw [Filter.operatorLists, Filter.lower, Filter.fullDocument, Filter.fullEntry]
    exact iff_of_true rfl noneRepeats_nil
  case operator =>
    intro path o ih
    -- A single operator is a block of one, in which nothing can collide.
    have hone : Document.ofEntries [o.entry] = [o.entry] := rfl
    rw [Filter.operatorLists, ← ih, Filter.lower, Filter.fullDocument, Filter.fullEntry,
      Document.singleton, hone]
    simp
  case operators =>
    intro path os ih
    rw [Filter.operatorLists, listsInOperators_eq_flatMap, ← block_eq_full_iff ih, Filter.lower,
      Filter.fullDocument, Filter.fullEntry, fullBlock_eq_map, operatorEntries_eq_map,
      Document.singleton]
    simp
  case logical =>
    intro c f more ihf ihm
    have hfull : (Filter.logical c f more).fullDocument =
        combined c ((f :: more).map Filter.fullDocument) := by
      rw [Filter.fullDocument, Filter.fullEntry, fullEntries_eq_map, ← List.map_cons, combined,
        List.map_map, List.map_map]
      rfl
    rw [Filter.operatorLists, listsInFilters_eq_flatMap, ← List.flatMap_cons, hfull,
      Filter.lower_logical, combined_inj]
    exact map_eq_map_iff (List.forall_mem_cons.mpr ⟨ihf, ihm⟩)
  case value =>
    intro c v
    rw [Operator.operatorLists, Operand.operatorLists, Operator.entry_mk, Operand.lower_value,
      Operator.fullEntry, Operand.full]
    exact iff_of_true rfl noneRepeats_nil
  case nested =>
    intro c os ih
    rw [Operator.operatorLists, Operand.operatorLists, listsInOperators_eq_flatMap,
      ← block_eq_full_iff ih, Operator.entry_mk, Operand.lower_operators, Operator.fullEntry,
      Operand.full, fullBlock_eq_map]
    simp
  case filters =>
    intro c fs ih
    have hfull : (fullEntries fs).map (fun e => [e]) = fs.map Filter.fullDocument := by
      rw [fullEntries_eq_map, List.map_map]
      rfl
    rw [Operator.operatorLists, Operand.operatorLists, listsInFilters_eq_flatMap,
      ← map_eq_map_iff ih, ← merged_eq_merged_full_iff, Operator.entry_mk,
      Operand.lower_filters, Operator.fullEntry, Operand.full, hfull]
    simp

/-- **A filter keeps all its operators exactly if no list of them repeats a symbol**, at any depth.
Then every block has one entry for each operator of its list, in order, with the symbol of the
operator and its own operand. -/
theorem toDocument_eq_fullDocument_iff (f : Filter) :
    f.toDocument.value = f.fullDocument ↔
      ∀ os ∈ f.operatorLists, (os.map Operator.symbol).Nodup :=
  lower_eq_fullDocument_iff f

/-- Of two operators with one symbol the first is lost, at a leaf and within an element match
alike. -/
theorem toDocument_loses_operators :
    (Field.satisfiesAll ⟨⟨"a"⟩⟩ [.ne (.int32 1), .ne (.int32 2)]).toDocument.value ≠
        (Field.satisfiesAll ⟨⟨"a"⟩⟩ [.ne (.int32 1), .ne (.int32 2)]).fullDocument ∧
      (ArrayField.elemMatch ⟨⟨"a"⟩⟩
          [.gt (.int32 1), .lt (.int32 9), .gt (.int32 5)]).toDocument.value =
        [("a", .document [("$elemMatch", .document [("$gt", .int32 5), ("$lt", .int32 9)])])] := by
  refine ⟨fun h => ?_, rfl⟩
  have hlists := (lower_eq_fullDocument_iff _).mp h
  have hrepeats : ¬ (([.ne (.int32 1), .ne (.int32 2)] : List Operator).map
      Operator.symbol).Nodup := by decide
  exact hrepeats (hlists _ List.mem_cons_self)

end QueryAlgebra
