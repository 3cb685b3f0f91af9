import QueryAlgebra.Proofs.Filter.Legible

/-!
# Normal forms of filters

Three differences between filters never reach a document: whether a single operator stands alone or
in a list, whether the filters of an element match that share a key are a list or already joined by
`$and`, and whether an element match with nothing to match has no operators or no filters.
`Filter.normal` settles all three, everywhere in a tree:

* a leaf with one operator becomes a leaf with a list of one;
* the filters of an element match become the one filter that joins them by `$and`, if two of them
  have the same key (`separated`);
* an element match over no operators becomes one over no filters.

Normalizing does not change the document (`lower_normal`), and there is nothing left to settle in a
normal form (`normal_normal`).
-/

namespace QueryAlgebra

/-- The filters as they are, or the one that joins them by `$and` if a key is repeated. -/
def separated (fs : List Filter) : List Filter :=
  if (fs.map Filter.key).Nodup then fs
  else
    match fs with
    | [] => []
    | f :: more => [.and f more]

theorem separated_of_nodup {fs : List Filter} (h : (fs.map Filter.key).Nodup) :
    separated fs = fs :=
  if_pos h

theorem separated_of_not_nodup {f : Filter} {more : List Filter}
    (h : ¬ ((f :: more).map Filter.key).Nodup) : separated (f :: more) = [.and f more] :=
  if_neg h

mutual

/-- The normal form of a filter. -/
def Filter.normal : Filter → Filter
  | .equals path value => .equals path value
  | .operator path o => .operators path [o.normal]
  | .operators path os => .operators path (normalOperators os)
  | .logical c f more => .logical c f.normal (normalFilters more)

/-- The normal forms of filters, in order. -/
def normalFilters : List Filter → List Filter
  | [] => []
  | f :: rest => f.normal :: normalFilters rest

/-- The normal form of an operator. -/
def Operator.normal : Operator → Operator
  | .mk c operand => .mk c (operand.normal c)

/-- The normal forms of operators, in order. -/
def normalOperators : List Operator → List Operator
  | [] => []
  | o :: rest => o.normal :: normalOperators rest

/-- The normal form of an operand beside a comparison. -/
def Operand.normal (c : Comparison) : Operand → Operand
  | .value v => .value v
  | .operators os =>
    if c = .elemMatch ∧ os.isEmpty then .filters [] else .operators (normalOperators os)
  | .filters fs => .filters (separated (normalFilters fs))

end

theorem normalFilters_eq_map (fs : List Filter) : normalFilters fs = fs.map Filter.normal := by
  induction fs with
  | nil => simp [normalFilters]
  | cons f rest ih => simp [normalFilters, ih]

theorem normalOperators_eq_map (os : List Operator) :
    normalOperators os = os.map Operator.normal := by
  induction os with
  | nil => simp [normalOperators]
  | cons o rest ih => simp [normalOperators, ih]

@[simp] theorem Filter.key_normal (f : Filter) : f.normal.key = f.key := by
  cases f <;> simp [Filter.normal, Filter.key]

theorem map_key_normal (fs : List Filter) :
    (fs.map Filter.normal).map Filter.key = fs.map Filter.key := by
  simp

/-! ### The document of a normal form -/

/-- Filters that are joined by `$and` lower to the document that keeps them apart. -/
theorem merged_separated (fs : List Filter) :
    merged ((separated fs).map Filter.lower) = merged (fs.map Filter.lower) := by
  by_cases h : (fs.map Filter.key).Nodup
  · rw [separated_of_nodup h]
  · -- The document that keeps the filters apart is that of their combination by `$and`.
    cases fs with
    | nil => exact absurd List.nodup_nil h
    | cons f more =>
      have hone : ([Filter.and f more].map Filter.key).Nodup := List.nodup_singleton _
      rw [separated_of_not_nodup h, merged_lower, merged_lower, if_neg h, if_pos hone,
        List.map_singleton, ← Filter.lower_eq]
      exact Filter.lower_logical .and f more

/-- Filters are lowered like their normal forms, if each of them is. -/
theorem map_lower_normalFilters {fs : List Filter} (h : ∀ f ∈ fs, f.normal.lower = f.lower) :
    (normalFilters fs).map Filter.lower = fs.map Filter.lower := by
  rw [normalFilters_eq_map, List.map_map]
  exact List.map_congr_left h

/-- Operators make the block of their normal forms, if each of them makes the same entry. -/
theorem map_entry_normalOperators {os : List Operator} (h : ∀ o ∈ os, o.normal.entry = o.entry) :
    (normalOperators os).map Operator.entry = os.map Operator.entry := by
  rw [normalOperators_eq_map, List.map_map]
  exact List.map_congr_left h

/-- A filter and its normal form have the same document. The claim about operators that the
induction carries along is that an operator and its normal form have the same entry. -/
theorem Filter.lower_normal (f : Filter) : f.normal.lower = f.lower := by
  refine Filter.induct (P := fun f => f.normal.lower = f.lower)
    (Q := fun o => o.normal.entry = o.entry)
    ?equals ?operator ?operators ?logical ?value ?nested ?filters f
  case equals =>
    intro path v
    rw [Filter.normal]
  case operator =>
    intro path o ih
    rw [Filter.normal, ← Filter.lower_operator, Filter.lower, Filter.lower, ih]
  case operators =>
    intro path os ih
    rw [Filter.normal, Filter.lower, Filter.lower, operatorEntries_eq_map, operatorEntries_eq_map,
      map_entry_normalOperators ih]
  case logical =>
    intro c f more ihf ihm
    rw [Filter.normal, Filter.lower_logical, Filter.lower_logical, List.map_cons, List.map_cons,
      ihf, map_lower_normalFilters ihm]
  case value =>
    intro c v
    rw [Operator.normal, Operand.normal]
  case nested =>
    intro c os ih
    rw [Operator.normal, Operand.normal, Operator.entry_mk, Operator.entry_mk]
    split
    · next hempty =>
      -- Nothing to match makes the empty document, whichever it is that there is none of.
      rw [List.isEmpty_iff.mp hempty.2, Operand.lower_filters, Operand.lower_operators]
      rfl
    · rw [Operand.lower_operators, Operand.lower_operators, map_entry_normalOperators ih]
  case filters =>
    intro c fs ih
    rw [Operator.normal, Operand.normal, Operator.entry_mk, Operator.entry_mk,
      Operand.lower_filters, Operand.lower_filters, merged_separated, map_lower_normalFilters ih]

/-! ### Normal forms are normal -/

theorem normalFilters_of_normal {fs : List Filter} (h : ∀ f ∈ fs, f.normal = f) :
    normalFilters fs = fs := by
  rw [normalFilters_eq_map]
  exact (List.map_congr_left h).trans (List.map_id fs)

theorem normalOperators_of_normal {os : List Operator} (h : ∀ o ∈ os, o.normal = o) :
    normalOperators os = os := by
  rw [normalOperators_eq_map]
  exact (List.map_congr_left h).trans (List.map_id os)

/-- The normal forms of filters are normal, if that of each of them is. -/
theorem normal_of_mem_normalFilters {fs : List Filter}
    (h : ∀ f ∈ fs, f.normal.normal = f.normal) : ∀ f ∈ normalFilters fs, f.normal = f := by
  rw [normalFilters_eq_map]
  exact List.forall_mem_map.mpr h

/-- The normal forms of operators are normal, if that of each of them is. -/
theorem normal_of_mem_normalOperators {os : List Operator}
    (h : ∀ o ∈ os, o.normal.normal = o.normal) : ∀ o ∈ normalOperators os, o.normal = o := by
  rw [normalOperators_eq_map]
  exact List.forall_mem_map.mpr h

theorem nodup_key_separated (fs : List Filter) : ((separated fs).map Filter.key).Nodup := by
  by_cases h : (fs.map Filter.key).Nodup
  · rwa [separated_of_nodup h]
  · cases fs with
    | nil => exact absurd List.nodup_nil h
    | cons f more =>
      rw [separated_of_not_nodup h]
      exact List.nodup_singleton _

/-- Filters that are normal are normal under the connective too. -/
theorem normalFilters_separated {fs : List Filter} (h : ∀ f ∈ fs, f.normal = f) :
    normalFilters (separated fs) = separated fs := by
  by_cases hkeys : (fs.map Filter.key).Nodup
  · rw [separated_of_nodup hkeys, normalFilters_of_normal h]
  · cases fs with
    | nil => exact absurd List.nodup_nil hkeys
    | cons f more =>
      obtain ⟨hf, hmore⟩ := List.forall_mem_cons.mp h
      rw [separated_of_not_nodup hkeys, normalFilters, normalFilters, Filter.and, Filter.normal, hf,
        normalFilters_of_normal hmore]

/-- Normalizing settles everything at once: a normal form is its own normal form. -/
theorem Filter.normal_normal (f : Filter) : f.normal.normal = f.normal := by
  refine Filter.induct (P := fun f => f.normal.normal = f.normal)
    (Q := fun o => o.normal.normal = o.normal)
    ?equals ?operator ?operators ?logical ?value ?nested ?filters f
  case equals =>
    intro path v
    rw [Filter.normal, Filter.normal]
  case operator =>
    intro path o ih
    rw [Filter.normal, Filter.normal, normalOperators, normalOperators, ih]
  case operators =>
    intro path os ih
    rw [Filter.normal, Filter.normal, normalOperators_of_normal (normal_of_mem_normalOperators ih)]
  case logical =>
    intro c f more ihf ihm
    rw [Filter.normal, Filter.normal, ihf,
      normalFilters_of_normal (normal_of_mem_normalFilters ihm)]
  case value =>
    intro c v
    rw [Operator.normal, Operand.normal, Operator.normal, Operand.normal]
  case nested =>
    intro c os ih
    rw [Operator.normal, Operand.normal]
    split
    · rfl
    · next hne =>
      have hne' : ¬ (c = .elemMatch ∧ (normalOperators os).isEmpty) := by
        rwa [normalOperators_eq_map, List.isEmpty_map]
      rw [Operator.normal, Operand.normal, if_neg hne',
        normalOperators_of_normal (normal_of_mem_normalOperators ih)]
  case filters =>
    intro c fs ih
    rw [Operator.normal, Operand.normal, Operator.normal, Operand.normal,
      normalFilters_separated (normal_of_mem_normalFilters ih),
      separated_of_nodup (nodup_key_separated _)]

end QueryAlgebra
