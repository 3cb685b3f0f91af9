import QueryAlgebra.Proofs.Assoc.Latest
import QueryAlgebra.Proofs.Filter.Block
import QueryAlgebra.Proofs.Value.Keys

/-!
# The keys that a filter writes

A filter writes the path of each of its leaves and the keys within the values that it carries, all
but those within an operator that a later one of the same list replaces. The keys are given in two
ways, on the tree alone:

* `Filter.Carries` — what is written, whatever the order: a walk from the filter down to the key
  that meets no replaced operator.
* `Filter.writtenKeys` — the same keys in order (`carries_iff_mem`). An operator that replaces
  others comes where the first of them stood.

The document of the filter has these keys in this order, with symbols between them
(`filter_hasNul_lower`). A symbol contains no NUL, so the keys that a filter cannot be encoded for
are found on the tree (`Document.toBytes_eq_error_iff`). Whether the filters of an element match are
merged or kept apart makes no difference for them.
-/

namespace QueryAlgebra

/-! ### Written keys in order -/

mutual

/-- The keys that a filter writes, other than symbols, in the order of its document. -/
def Filter.writtenKeys : Filter → List String
  | .equals path value => path.text :: value.keysWithin
  | .operator path o => path.text :: o.writtenKeys
  | .operators path os =>
    path.text :: (Assoc.latest Prod.fst (operatorKeys os)).flatMap Prod.snd
  | .logical _ first more => first.writtenKeys ++ filterKeys more

/-- The keys that an operator writes. -/
def Operator.writtenKeys : Operator → List String
  | .mk _ operand => operand.writtenKeys

/-- The keys that an operand writes. -/
def Operand.writtenKeys : Operand → List String
  | .value value => value.keysWithin
  | .operators os => (Assoc.latest Prod.fst (operatorKeys os)).flatMap Prod.snd
  | .filters fs => filterKeys fs

/-- The symbols of operators, each with the keys that the operator writes. -/
def operatorKeys : List Operator → List (String × List String)
  | [] => []
  | o :: rest => (o.symbol, o.writtenKeys) :: operatorKeys rest

/-- The keys that filters write, in order. -/
def filterKeys : List Filter → List String
  | [] => []
  | f :: rest => f.writtenKeys ++ filterKeys rest

end

theorem filterKeys_eq_flatMap (fs : List Filter) :
    filterKeys fs = fs.flatMap Filter.writtenKeys := by
  induction fs with
  | nil => rw [filterKeys]; rfl
  | cons f rest ih => rw [filterKeys, List.flatMap_cons, ih]

theorem lastOfEach_eq_latest (os : List Operator) :
    lastOfEach os = Assoc.latest Operator.symbol os := by
  rw [lastOfEach, Assoc.ofEntries_eq_latest, Assoc.latest_map, List.map_map]
  exact List.map_id _

/-- The keys of a list of operators are those of the operators that a block of them keeps. -/
theorem flatMap_latest_operatorKeys (os : List Operator) :
    (Assoc.latest Prod.fst (operatorKeys os)).flatMap Prod.snd =
      (lastOfEach os).flatMap Operator.writtenKeys := by
  have hpairs : operatorKeys os = os.map fun o => (o.symbol, o.writtenKeys) := by
    induction os with
    | nil => rw [operatorKeys]; rfl
    | cons o rest ih => rw [operatorKeys, List.map_cons, ih]
  rw [hpairs, Assoc.latest_map, List.flatMap_map, lastOfEach_eq_latest]

theorem Filter.writtenKeys_operators (path : Path) (os : List Operator) :
    (Filter.operators path os).writtenKeys =
      path.text :: (lastOfEach os).flatMap Operator.writtenKeys := by
  rw [Filter.writtenKeys, flatMap_latest_operatorKeys]

theorem Filter.writtenKeys_logical (c : Connective) (f : Filter) (more : List Filter) :
    (Filter.logical c f more).writtenKeys = (f :: more).flatMap Filter.writtenKeys := by
  rw [Filter.writtenKeys, filterKeys_eq_flatMap, List.flatMap_cons]

theorem Operator.writtenKeys_value (c : Comparison) (v : Value) :
    (Operator.mk c (.value v)).writtenKeys = v.keysWithin := by
  rw [Operator.writtenKeys, Operand.writtenKeys]

theorem Operator.writtenKeys_operators (c : Comparison) (os : List Operator) :
    (Operator.mk c (.operators os)).writtenKeys =
      (lastOfEach os).flatMap Operator.writtenKeys := by
  rw [Operator.writtenKeys, Operand.writtenKeys, flatMap_latest_operatorKeys]

theorem Operator.writtenKeys_filters (c : Comparison) (fs : List Filter) :
    (Operator.mk c (.filters fs)).writtenKeys = fs.flatMap Filter.writtenKeys := by
  rw [Operator.writtenKeys, Operand.writtenKeys, filterKeys_eq_flatMap]

/-! ### Written keys in any order -/

mutual

/-- The filter writes the key: it is the path of a leaf or a key within a value, and around it is no
operator that a later one with the same symbol replaces. -/
inductive Filter.Carries (key : String) : Filter → Prop where
  | path {f : Filter} {path : Path} (leaf : f.path? = some path) (here : path.text = key) :
    Filter.Carries key f
  | equals {path : Path} {value : Value} (within : key ∈ value.keysWithin) :
    Filter.Carries key (.equals path value)
  | operator {path : Path} {o : Operator} (inner : Operator.Carries key o) :
    Filter.Carries key (.operator path o)
  | operators {path : Path} {os before after : List Operator} {o : Operator}
    (split : os = before ++ o :: after) (last : o.symbol ∉ after.map Operator.symbol)
    (inner : Operator.Carries key o) : Filter.Carries key (.operators path os)
  | logical {c : Connective} {f g : Filter} {more : List Filter} (member : g ∈ f :: more)
    (inner : Filter.Carries key g) : Filter.Carries key (.logical c f more)

/-- The operator writes the key. -/
inductive Operator.Carries (key : String) : Operator → Prop where
  | value {c : Comparison} {value : Value} (within : key ∈ value.keysWithin) :
    Operator.Carries key (.mk c (.value value))
  | operators {c : Comparison} {os before after : List Operator} {o : Operator}
    (split : os = before ++ o :: after) (last : o.symbol ∉ after.map Operator.symbol)
    (inner : Operator.Carries key o) : Operator.Carries key (.mk c (.operators os))
  | filters {c : Comparison} {f : Filter} {fs : List Filter} (member : f ∈ fs)
    (inner : Filter.Carries key f) : Operator.Carries key (.mk c (.filters fs))

end

/-- What operators of a list write is what those of them write that are not replaced. -/
theorem exists_last_carries_iff {os : List Operator} {key : String}
    (h : ∀ o ∈ os, o.Carries key ↔ key ∈ o.writtenKeys) :
    (∃ before o after, os = before ++ o :: after ∧ o.symbol ∉ after.map Operator.symbol ∧
        o.Carries key) ↔
      key ∈ (lastOfEach os).flatMap Operator.writtenKeys := by
  rw [lastOfEach_eq_latest, List.mem_flatMap]
  constructor
  · rintro ⟨before, o, after, hsplit, hlast, hcarries⟩
    have hlatest := Assoc.mem_latest_iff.mpr ⟨before, after, hsplit, hlast⟩
    exact ⟨o, hlatest, (h o (Assoc.mem_of_mem_latest hlatest)).mp hcarries⟩
  · rintro ⟨o, hlatest, hkey⟩
    obtain ⟨before, after, hsplit, hlast⟩ := Assoc.mem_latest_iff.mp hlatest
    exact ⟨before, o, after, hsplit, hlast, (h o (Assoc.mem_of_mem_latest hlatest)).mpr hkey⟩

/-- What filters of a list write is what one of them writes. -/
theorem exists_member_carries_iff {fs : List Filter} {key : String}
    (h : ∀ f ∈ fs, f.Carries key ↔ key ∈ f.writtenKeys) :
    (∃ f ∈ fs, f.Carries key) ↔ key ∈ fs.flatMap Filter.writtenKeys := by
  rw [List.mem_flatMap]
  exact exists_congr fun f => and_congr_right (h f)

/-- The keys that a filter writes are those in its list of keys. -/
theorem carries_iff_mem (f : Filter) (key : String) : f.Carries key ↔ key ∈ f.writtenKeys := by
  refine Filter.induct (P := fun f => f.Carries key ↔ key ∈ f.writtenKeys)
    (Q := fun o => o.Carries key ↔ key ∈ o.writtenKeys)
    ?equals ?operator ?operators ?logical ?value ?nested ?filters f
  case equals =>
    intro path v
    rw [Filter.writtenKeys, List.mem_cons]
    constructor
    · rintro (⟨hleaf, rfl⟩ | hwithin)
      · cases hleaf
        exact .inl rfl
      · exact .inr hwithin
    · rintro (rfl | hwithin)
      · exact .path rfl rfl
      · exact .equals hwithin
  case operator =>
    intro path o ih
    rw [Filter.writtenKeys, List.mem_cons, ← ih]
    constructor
    · rintro (⟨hleaf, rfl⟩ | _ | hinner)
      · cases hleaf
        exact .inl rfl
      · exact .inr hinner
    · rintro (rfl | hinner)
      · exact .path rfl rfl
      · exact .operator hinner
  case operators =>
    intro path os ih
    rw [Filter.writtenKeys_operators, List.mem_cons, ← exists_last_carries_iff ih]
    constructor
    · rintro (⟨hleaf, rfl⟩ | _ | _ | ⟨hsplit, hlast, hinner⟩)
      · cases hleaf
        exact .inl rfl
      · exact .inr ⟨_, _, _, hsplit, hlast, hinner⟩
    · rintro (rfl | ⟨_, _, _, hsplit, hlast, hinner⟩)
      · exact .path rfl rfl
      · exact .operators hsplit hlast hinner
  case logical =>
    intro c f more ihf ihm
    rw [Filter.writtenKeys_logical,
      ← exists_member_carries_iff (List.forall_mem_cons.mpr ⟨ihf, ihm⟩)]
    constructor
    · rintro (⟨hleaf, -⟩ | _ | _ | _ | ⟨hmember, hinner⟩)
      · -- A connective is no leaf and has no path.
        cases hleaf
      · exact ⟨_, hmember, hinner⟩
    · rintro ⟨g, hmember, hinner⟩
      exact .logical hmember hinner
  case value =>
    intro c v
    rw [Operator.writtenKeys_value]
    exact ⟨fun h => by cases h; assumption, .value⟩
  case nested =>
    intro c os ih
    rw [Operator.writtenKeys_operators, ← exists_last_carries_iff ih]
    constructor
    · rintro (_ | ⟨hsplit, hlast, hinner⟩)
      exact ⟨_, _, _, hsplit, hlast, hinner⟩
    · rintro ⟨_, _, _, hsplit, hlast, hinner⟩
      exact .operators hsplit hlast hinner
  case filters =>
    intro c fs ih
    rw [Operator.writtenKeys_filters, ← exists_member_carries_iff ih]
    constructor
    · rintro (_ | _ | ⟨hmember, hinner⟩)
      exact ⟨_, hmember, hinner⟩
    · rintro ⟨f, hmember, hinner⟩
      exact .filters hmember hinner

/-! ### The keys of the document -/

/-- No symbol of an operator contains a NUL. -/
@[simp] theorem hasNul_comparison (c : Comparison) : hasNul c.symbol = false := by
  cases c <;> decide

/-- No symbol of a connective does. -/
@[simp] theorem hasNul_connective (c : Connective) : hasNul c.symbol = false := by
  cases c <;> decide

/-- The offending keys of a block are those of its operators. -/
theorem filter_hasNul_block {os : List Operator}
    (h : ∀ o ∈ os, o.entry.2.keysWithin.filter hasNul = o.writtenKeys.filter hasNul) :
    (Document.allKeys (Document.ofEntries (os.map Operator.entry))).filter hasNul =
      ((lastOfEach os).flatMap Operator.writtenKeys).filter hasNul := by
  rw [block_eq_map_lastOfEach, Document.allKeys_eq_flatMap, List.flatMap_map, List.filter_flatMap,
    List.filter_flatMap]
  refine List.flatMap_congr fun o ho => ?_
  -- The key of the entry is a symbol, so what is left is within the operand.
  have hsymbol : hasNul o.entry.1 = false := by
    rw [Operator.fst_entry]
    exact hasNul_comparison o.comparison
  rw [List.filter_cons, hsymbol]
  exact h o (mem_of_mem_lastOfEach ho)

/-- The offending keys of documents in an array are those of the filters. -/
theorem filter_hasNul_array {fs : List Filter}
    (h : ∀ f ∈ fs, (Document.allKeys f.lower).filter hasNul = f.writtenKeys.filter hasNul) :
    (Value.array (fs.map fun f => .document f.lower)).keysWithin.filter hasNul =
      (fs.flatMap Filter.writtenKeys).filter hasNul := by
  rw [Value.keysWithin_array, List.flatMap_map, List.filter_flatMap, List.filter_flatMap]
  refine List.flatMap_congr fun f hf => ?_
  rw [Value.keysWithin_document]
  exact h f hf

/-- The offending keys of documents side by side or apart are those of the filters. -/
theorem filter_hasNul_merged {fs : List Filter}
    (h : ∀ f ∈ fs, (Document.allKeys f.lower).filter hasNul = f.writtenKeys.filter hasNul) :
    (Document.allKeys (merged (fs.map Filter.lower))).filter hasNul =
      (fs.flatMap Filter.writtenKeys).filter hasNul := by
  rw [merged_lower]
  -- Apart, the documents stand in an array under a symbol, which adds no offending key.
  split
  · rw [Document.allKeys_eq_flatMap, List.flatMap_map, List.filter_flatMap, List.filter_flatMap]
    refine List.flatMap_congr fun f hf => ?_
    rw [← h f hf, Filter.lower_eq, Document.allKeys_singleton]
  · rw [combined, Document.singleton, List.map_map, Document.allKeys_singleton, List.filter_cons,
      hasNul_connective]
    exact filter_hasNul_array h

/-- The document of a filter has the offending keys that the filter writes, in their order. -/
theorem filter_hasNul_lower (f : Filter) :
    (Document.allKeys f.lower).filter hasNul = f.writtenKeys.filter hasNul := by
  refine Filter.induct
    (P := fun f => (Document.allKeys f.lower).filter hasNul = f.writtenKeys.filter hasNul)
    (Q := fun o => o.entry.2.keysWithin.filter hasNul = o.writtenKeys.filter hasNul)
    ?equals ?operator ?operators ?logical ?value ?nested ?filters f
  case equals =>
    intro path v
    rw [Filter.lower_eq, Document.allKeys_singleton, Filter.writtenKeys]
    rfl
  case operator =>
    intro path o ih
    -- A single operator is a block that keeps all of its operators.
    have hblock := filter_hasNul_block (List.forall_mem_singleton.mpr ih)
    rw [lastOfEach_eq_latest, Assoc.latest_singleton, List.flatMap_singleton] at hblock
    rw [Filter.lower_eq, Document.allKeys_singleton, Filter.writtenKeys, List.filter_cons,
      List.filter_cons, Filter.slot, Value.keysWithin_document, ← hblock]
    rfl
  case operators =>
    intro path os ih
    rw [Filter.lower_eq, Document.allKeys_singleton, Filter.writtenKeys_operators, List.filter_cons,
      List.filter_cons, Filter.slot, Value.keysWithin_document, filter_hasNul_block ih]
    rfl
  case logical =>
    intro c f more ihf ihm
    rw [Filter.lower_eq, Document.allKeys_singleton, Filter.writtenKeys_logical, List.filter_cons,
      Filter.key, hasNul_connective]
    exact filter_hasNul_array (List.forall_mem_cons.mpr ⟨ihf, ihm⟩)
  case value =>
    intro c v
    rw [Operator.entry_mk, Operand.lower_value, Operator.writtenKeys_value]
  case nested =>
    intro c os ih
    rw [Operator.entry_mk, Operand.lower_operators, Operator.writtenKeys_operators,
      Value.keysWithin_document]
    exact filter_hasNul_block ih
  case filters =>
    intro c fs ih
    rw [Operator.entry_mk, Operand.lower_filters, Operator.writtenKeys_filters,
      Value.keysWithin_document]
    exact filter_hasNul_merged ih

/-! ### Encoding -/

section Encoding

variable {d : Document} {ks : List String}

/-- The failure of an encoding is one of serialization and names the first key that contains a NUL.
Any list with the offending keys of the document, in their order, tells which one that is. -/
theorem Document.toBytes_eq_error_iff (h : d.allKeys.filter hasNul = ks.filter hasNul)
    (e : QueryError) :
    d.toBytes = .error e ↔
      ∃ key, ks.find? hasNul = some key ∧ e = .nulInKey key ∧ e.kind = .serialization := by
  have hfind : d.allKeys.find? hasNul = ks.find? hasNul := by
    rw [← List.head?_filter, h, List.head?_filter]
  rw [Document.toBytes, Document.encode, Document.nulKey?_eq_find?, hfind]
  cases ks.find? hasNul with
  | none => simp [Except.mapError]
  | some key =>
    rw [Except.mapError, Except.error.injEq]
    constructor
    · rintro rfl
      exact ⟨key, rfl, rfl, rfl⟩
    · rintro ⟨_, ⟨rfl⟩, rfl, -⟩
      rfl

/-- A document cannot be encoded exactly if one of its keys contains a NUL. -/
theorem Document.exists_toBytes_eq_error_iff (h : d.allKeys.filter hasNul = ks.filter hasNul) :
    (∃ e, d.toBytes = .error e) ↔ ∃ key ∈ ks, hasNul key = true := by
  rw [← List.find?_isSome, Option.isSome_iff_exists]
  constructor
  · rintro ⟨e, he⟩
    obtain ⟨key, hkey, -⟩ := (Document.toBytes_eq_error_iff h e).mp he
    exact ⟨key, hkey⟩
  · rintro ⟨key, hkey⟩
    exact ⟨.nulInKey key, (Document.toBytes_eq_error_iff h _).mpr ⟨key, hkey, rfl, rfl⟩⟩

end Encoding

end QueryAlgebra
