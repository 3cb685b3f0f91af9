import QueryAlgebra.Filter.Lowering
import QueryAlgebra.Proofs.Assoc

/-!
# The structure of filters and of their documents

Filters, operators and operands nest in each other and in lists. `Filter.induct` is the induction
that follows this nesting: a claim about filters goes together with a claim about operators, and
holds of a tree when it is carried from the members of each list to the tree above them.

The document of a filter is read through its entry:

* `Filter.lower_eq` — it has one entry, under `Filter.key`, with the value `Filter.slot`.
* `merged_eq`, `merged_lower` — the entries of several documents stand side by side, or the
  documents under `$and` when a key is repeated.
* `block_of_nodup` — a block of operators has one entry each when no symbol is repeated.
-/

namespace QueryAlgebra

/-! ### Induction over the nesting -/

section Induction

variable {P : Filter → Prop} {Q : Operator → Prop}

/-- Induction over filters, with a claim `Q` about the operators within them. -/
theorem Filter.induct (equals : ∀ path value, P (.equals path value))
    (operator : ∀ path o, Q o → P (.operator path o))
    (operators : ∀ path os, (∀ o ∈ os, Q o) → P (.operators path os))
    (logical : ∀ c f more, P f → (∀ g ∈ more, P g) → P (.logical c f more))
    (value : ∀ c v, Q (.mk c (.value v)))
    (nested : ∀ c os, (∀ o ∈ os, Q o) → Q (.mk c (.operators os)))
    (filters : ∀ c fs, (∀ f ∈ fs, P f) → Q (.mk c (.filters fs))) (f : Filter) : P f := by
  refine @Filter.rec P Q (fun operand => ∀ c, Q (.mk c operand)) (fun os => ∀ o ∈ os, Q o)
    (fun fs => ∀ f ∈ fs, P f) equals operator operators logical (fun c _ h => h c)
    (fun v c => value c v) (fun os h c => nested c os h) (fun fs h c => filters c fs h)
    ?_ ?_ ?_ ?_ f
  · exact fun _ h => absurd h List.not_mem_nil
  · exact fun _ _ ho hos => List.forall_mem_cons.mpr ⟨ho, hos⟩
  · exact fun _ h => absurd h List.not_mem_nil
  · exact fun _ _ hf hfs => List.forall_mem_cons.mpr ⟨hf, hfs⟩

end Induction

/-! ### Blocks of operators -/

@[simp] theorem Operator.entry_mk (c : Comparison) (operand : Operand) :
    (Operator.mk c operand).entry = (c.symbol, operand.lower) := by
  simp [Operator.entry]

theorem Operator.fst_entry (o : Operator) : o.entry.1 = o.symbol := by
  cases o
  simp

@[simp] theorem Operand.lower_value (v : Value) : (Operand.value v).lower = v := by
  simp [Operand.lower]

@[simp] theorem Operand.lower_operators (os : List Operator) :
    (Operand.operators os).lower = .document (Document.ofEntries (os.map Operator.entry)) := by
  simp [Operand.lower, operatorEntries_eq_map]

@[simp] theorem Operand.lower_filters (fs : List Filter) :
    (Operand.filters fs).lower = .document (merged (fs.map Filter.lower)) := by
  simp [Operand.lower, lowerAll_eq_map]

theorem keys_map_entry (os : List Operator) :
    Assoc.keys (os.map Operator.entry) = os.map Operator.symbol := by
  simp [Assoc.keys, Operator.fst_entry]

/-- Without repeated symbols a block has one entry for each operator, in order. -/
theorem block_of_nodup {os : List Operator} (h : (os.map Operator.symbol).Nodup) :
    Document.ofEntries (os.map Operator.entry) = os.map Operator.entry :=
  Assoc.ofEntries_of_nodup ((keys_map_entry os).symm ▸ h)

/-! ### The entry of a filter -/

namespace Filter

/-- The key of the document of a filter: the path of a leaf, the symbol of a connective. -/
def key : Filter → String
  | .equals path _ => path.text
  | .operator path _ => path.text
  | .operators path _ => path.text
  | .logical c _ _ => c.symbol

/-- The value beside the key of the document of a filter. -/
def slot : Filter → Value
  | .equals _ value => value
  | .operator _ o => .document (Document.ofEntries [o.entry])
  | .operators _ os => .document (Document.ofEntries (os.map Operator.entry))
  | .logical _ f more => .array ((f :: more).map fun g => .document g.lower)

/-- The document of a filter has one entry. -/
theorem lower_eq (f : Filter) : f.lower = [(f.key, f.slot)] := by
  cases f with
  | equals path value => simp [Filter.lower, key, slot, Document.singleton]
  | operator path o => simp [Filter.lower, key, slot, Document.singleton]
  | operators path os =>
    simp [Filter.lower, key, slot, Document.singleton, operatorEntries_eq_map]
  | logical c f more =>
    simp [Filter.lower, key, slot, combined, Document.singleton, lowerAll_eq_map]

theorem lower_logical (c : Connective) (f : Filter) (more : List Filter) :
    (Filter.logical c f more).lower = combined c ((f :: more).map Filter.lower) := by
  simp [Filter.lower, lowerAll_eq_map]

end Filter

/-- Documents in one: entry beside entry, or apart under `$and` where a key is repeated. -/
theorem merged_eq (documents : List Document) :
    merged documents =
      if (Assoc.keys documents.flatten).Nodup then documents.flatten
      else combined .and documents := by
  have hnil : (Assoc.keys ([] : Document)).Nodup := List.nodup_nil
  rw [merged, Assoc.disjointUnion?_eq hnil, List.nil_append]
  split <;> rfl

/-- The documents of filters side by side have one entry for each filter. -/
theorem flatten_lower (fs : List Filter) :
    (fs.map Filter.lower).flatten = fs.map fun f => (f.key, f.slot) := by
  have hlower : fs.map Filter.lower = fs.map fun f => [(f.key, f.slot)] :=
    List.map_congr_left fun f _ => f.lower_eq
  rw [hlower, ← List.flatMap_def, ← List.map_eq_flatMap]

theorem keys_flatten_lower (fs : List Filter) :
    Assoc.keys (fs.map Filter.lower).flatten = fs.map Filter.key := by
  rw [flatten_lower, Assoc.keys, List.map_map]
  rfl

/-- The documents of filters in one. -/
theorem merged_lower (fs : List Filter) :
    merged (fs.map Filter.lower) =
      if (fs.map Filter.key).Nodup then fs.map fun f => (f.key, f.slot)
      else combined .and (fs.map Filter.lower) := by
  rw [merged_eq, keys_flatten_lower, flatten_lower]

end QueryAlgebra
