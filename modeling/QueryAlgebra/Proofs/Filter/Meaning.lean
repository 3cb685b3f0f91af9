import QueryAlgebra.Proofs.Filter.Legible

/-!
# What filters and their documents say

A filter says something of a context: of a stored document, or of an item of an array within one.
What its atoms say is left open, as an `Interpretation`; the rest is fixed on both sides of the
lowering, by two definitions that do not know of each other.

* `Filter.Holds`, `Operator.Holds` — what a tree says, by recursion on the tree.
* `Document.Holds` — what a document says when it is read as a filter: the conjunction of its
  entries, each of which is a connective over an array, a block of operators at a path, or an
  equality at a path.

Lowering keeps the meaning of every legible filter (`holds_toDocument_iff`). Beyond these it cannot:
`holds_toDocument_fails` has an equality that reads as a block, a repeated operator that gets lost,
an empty list of operators that reads as an equality, and a path that reads as a connective.
-/

namespace QueryAlgebra

/-! ### Interpretations -/

/-- Where an operator looks: at a path of a context, or at the context itself. -/
structure Place (Context : Type) where
  context : Context
  path? : Option Path

/-- What the atoms say. -/
structure Interpretation (Context : Type) where
  /-- The value at the path equals the given one. -/
  equals : Context → Path → Value → Prop
  /-- The operator with this symbol holds at the place, for the value beside the symbol. -/
  satisfies : Place Context → String → Value → Prop
  /-- The items of the array at the place. -/
  items : Place Context → List Context

/-- All the statements hold. -/
def AllHold (ps : List Prop) : Prop :=
  ∀ p ∈ ps, p

@[simp] theorem allHold_nil : AllHold [] :=
  fun _ h => absurd h List.not_mem_nil

@[simp] theorem allHold_cons (p : Prop) (ps : List Prop) :
    AllHold (p :: ps) ↔ p ∧ AllHold ps :=
  List.forall_mem_cons

@[simp] theorem allHold_map {α : Type} (f : α → Prop) (as : List α) :
    AllHold (as.map f) ↔ ∀ a ∈ as, f a :=
  List.forall_mem_map

/-- What a connective makes of the statements that it joins. -/
def Connective.Joins : Connective → List Prop → Prop
  | .and, ps => AllHold ps
  | .or, ps => ∃ p ∈ ps, p
  | .nor, ps => ∀ p ∈ ps, ¬ p

variable {Context : Type} (I : Interpretation Context)

/-! ### The meaning of a tree -/

mutual

/-- What a filter says of a context. -/
def Filter.Holds (x : Context) : Filter → Prop
  | .equals path value => I.equals x path value
  | .operator path o => o.Holds ⟨x, some path⟩
  | .operators path os => AllHold (operatorsHold ⟨x, some path⟩ os)
  | .logical c f more => c.Joins (f.Holds x :: filtersHold x more)

/-- What filters say of a context, one by one. -/
def filtersHold (x : Context) : List Filter → List Prop
  | [] => []
  | f :: rest => f.Holds x :: filtersHold x rest

/-- What an operator says of a place. -/
def Operator.Holds (place : Place Context) : Operator → Prop
  | .mk c operand => operand.Holds place c

/-- What operators say of a place, one by one. -/
def operatorsHold (place : Place Context) : List Operator → List Prop
  | [] => []
  | o :: rest => o.Holds place :: operatorsHold place rest

/-- What an operand says of a place beside a comparison. A comparison that does not take operands of
its kind says nothing that could hold. -/
def Operand.Holds (place : Place Context) (c : Comparison) : Operand → Prop
  | .value v => c ≠ .not ∧ c ≠ .elemMatch ∧ I.satisfies place c.symbol v
  | .operators os =>
    match c with
    | .not => ¬ AllHold (operatorsHold place os)
    | .elemMatch => ∃ y ∈ I.items place, AllHold (operatorsHold ⟨y, none⟩ os)
    | _ => False
  | .filters fs =>
    match c with
    | .elemMatch => ∃ y ∈ I.items place, AllHold (filtersHold y fs)
    | _ => False

end

/-! ### The meaning of a document -/

mutual

/-- What the entry of a filter document with this key and value says of a context. -/
def Value.EntryHolds (x : Context) (key : String) : Value → Prop
  | .array items =>
    match Connective.ofSymbol? key with
    | some c => c.Joins (itemsHold x items)
    | none => I.equals x ⟨key⟩ (.array items)
  | .document d =>
    if Document.opensWithSymbol d then AllHold (blockHolds ⟨x, some ⟨key⟩⟩ d)
    else I.equals x ⟨key⟩ (.document d)
  | v => I.equals x ⟨key⟩ v

/-- What an item under a connective says of a context: it is a filter document. -/
def Value.ItemHolds (x : Context) : Value → Prop
  | .document d => AllHold (entriesHold x d)
  | _ => False

/-- What the items under a connective say of a context, one by one. -/
def itemsHold (x : Context) : List Value → List Prop
  | [] => []
  | v :: rest => v.ItemHolds x :: itemsHold x rest

/-- What the entries of a filter document say of a context, one by one. -/
def entriesHold (x : Context) : List (String × Value) → List Prop
  | [] => []
  | (k, v) :: rest => v.EntryHolds x k :: entriesHold x rest

/-- What the entry of a block with this symbol and value says of a place. The document under an
element match is a block when it opens like one, else a filter document. -/
def Value.OperandHolds (place : Place Context) (symbol : String) : Value → Prop
  | .document d =>
    if symbol = "$not" then ¬ AllHold (blockHolds place d)
    else if symbol = "$elemMatch" then
      ∃ y ∈ I.items place,
        if Document.isBlock d then AllHold (blockHolds ⟨y, none⟩ d) else AllHold (entriesHold y d)
    else I.satisfies place symbol (.document d)
  | v => I.satisfies place symbol v

/-- What the entries of a block say of a place, one by one. -/
def blockHolds (place : Place Context) : List (String × Value) → List Prop
  | [] => []
  | (k, v) :: rest => v.OperandHolds place k :: blockHolds place rest

end

/-- What a filter document says of a context. -/
def Document.Holds (x : Context) (d : Document) : Prop :=
  AllHold (entriesHold I x d)

/-! ### Lists of statements -/

theorem filtersHold_eq_map (x : Context) (fs : List Filter) :
    filtersHold I x fs = fs.map fun f => f.Holds I x := by
  induction fs with
  | nil => simp [filtersHold]
  | cons f rest ih => simp [filtersHold, ih]

theorem operatorsHold_eq_map (place : Place Context) (os : List Operator) :
    operatorsHold I place os = os.map fun o => o.Holds I place := by
  induction os with
  | nil => simp [operatorsHold]
  | cons o rest ih => simp [operatorsHold, ih]

theorem itemsHold_eq_map (x : Context) (items : List Value) :
    itemsHold I x items = items.map fun v => v.ItemHolds I x := by
  induction items with
  | nil => simp [itemsHold]
  | cons v rest ih => simp [itemsHold, ih]

theorem entriesHold_eq_map (x : Context) (d : Document) :
    entriesHold I x d = d.map fun e => e.2.EntryHolds I x e.1 := by
  induction d with
  | nil => simp [entriesHold]
  | cons e rest ih =>
    obtain ⟨k, v⟩ := e
    simp [entriesHold, ih]

theorem blockHolds_eq_map (place : Place Context) (d : Document) :
    blockHolds I place d = d.map fun e => e.2.OperandHolds I place e.1 := by
  induction d with
  | nil => simp [blockHolds]
  | cons e rest ih =>
    obtain ⟨k, v⟩ := e
    simp [blockHolds, ih]

/-! ### The parts of a lowered filter -/

variable {I}

/-- A lowered filter says what its one entry says. -/
theorem holds_lower_iff (x : Context) (f : Filter) :
    Document.Holds I x f.lower ↔ f.slot.EntryHolds I x f.key := by
  simp [Document.Holds, entriesHold, Filter.lower_eq]

/-- A value that is no block, beside a path, is an equality. -/
theorem entryHolds_plain (x : Context) {path : Path} {v : Value}
    (hp : isSymbol path.text = false) (hv : v.opensWithSymbol = false) :
    v.EntryHolds I x path.text ↔ I.equals x path v := by
  cases v with
  | array items => simp [Value.EntryHolds, Connective.ofSymbol?_of_not_isSymbol hp]
  | document d =>
    rw [Value.opensWithSymbol_document] at hv
    simp [Value.EntryHolds, hv]
  | _ => simp [Value.EntryHolds]

/-- The operand of a comparison without structure is left to the interpretation. -/
theorem operandHolds_plain (place : Place Context) {c : Comparison} (hnot : c ≠ .not)
    (helem : c ≠ .elemMatch) (v : Value) :
    v.OperandHolds I place c.symbol ↔ I.satisfies place c.symbol v := by
  have hnot' : c.symbol ≠ "$not" := fun h => hnot (Comparison.symbol_injective h)
  have helem' : c.symbol ≠ "$elemMatch" := fun h => helem (Comparison.symbol_injective h)
  cases v with
  | document d => simp [Value.OperandHolds, hnot', helem']
  | _ => simp [Value.OperandHolds]

theorem operandHolds_not (place : Place Context) (d : Document) :
    Value.OperandHolds I place Comparison.not.symbol (.document d) ↔
      ¬ AllHold (blockHolds I place d) := by
  simp [Value.OperandHolds, Comparison.symbol]

theorem operandHolds_elemMatch (place : Place Context) (d : Document) :
    Value.OperandHolds I place Comparison.elemMatch.symbol (.document d) ↔
      ∃ y ∈ I.items place,
        if Document.isBlock d then AllHold (blockHolds I ⟨y, none⟩ d)
        else Document.Holds I y d := by
  simp [Value.OperandHolds, Comparison.symbol, Document.Holds]

/-- The documents of filters under a connective are joined as the filters are. -/
theorem joins_itemsHold (c : Connective) (x : Context) (fs : List Filter) :
    c.Joins (itemsHold I x (fs.map fun f => .document f.lower)) ↔
      c.Joins (fs.map fun f => Document.Holds I x f.lower) := by
  rw [itemsHold_eq_map, List.map_map]
  refine iff_of_eq (congrArg c.Joins (List.map_congr_left fun f _ => ?_))
  simp [Value.ItemHolds, Document.Holds]

/-- The merged document of filters says what all their documents say, merged or kept apart. -/
theorem holds_merged_iff (x : Context) (fs : List Filter) :
    Document.Holds I x (merged (fs.map Filter.lower)) ↔
      ∀ f ∈ fs, Document.Holds I x f.lower := by
  rw [merged_lower]
  split
  · -- The entries stand side by side, and a document says all that its entries say.
    simp [Document.Holds, entriesHold_eq_map, Filter.lower_eq]
  · -- The one entry is the conjunction of the documents.
    have hand := joins_itemsHold (I := I) .and x fs
    simp only [Connective.Joins, allHold_map] at hand
    simp [Document.Holds, entriesHold, combined, Document.singleton, Value.EntryHolds,
      Connective.Joins, Function.comp_def, hand]

/-- A block says what its operators say. -/
theorem holds_block_iff (place : Place Context) {os : List Operator}
    (h : ∀ o ∈ os, o.entry.2.OperandHolds I place o.symbol ↔ o.Holds I place) :
    AllHold (blockHolds I place (os.map Operator.entry)) ↔
      AllHold (operatorsHold I place os) := by
  rw [blockHolds_eq_map, operatorsHold_eq_map, List.map_map, allHold_map, allHold_map]
  refine forall₂_congr fun o ho => ?_
  rw [Function.comp_apply, Operator.fst_entry]
  exact h o ho

/-- A block beside a path says what its operators say of the place at the path. -/
theorem entryHolds_block_iff (x : Context) (path : Path) {os : List Operator} (hne : os ≠ [])
    (hdistinct : (os.map Operator.symbol).Nodup)
    (h : ∀ o ∈ os, o.entry.2.OperandHolds I ⟨x, some path⟩ o.symbol ↔ o.Holds I ⟨x, some path⟩) :
    Value.EntryHolds I x path.text (.document (Document.ofEntries (os.map Operator.entry))) ↔
      AllHold (operatorsHold I ⟨x, some path⟩ os) := by
  rw [block_of_nodup hdistinct, ← holds_block_iff ⟨x, some path⟩ h]
  simp [Value.EntryHolds, opensWithSymbol_block hne]

/-! ### The meaning is kept -/

/-- The entry of a legible filter says what the filter says. The claim about operators that the
induction carries along is that the entry of a legible operator says what the operator says. -/
theorem entryHolds_iff {f : Filter} (h : f.Legible) (x : Context) :
    f.slot.EntryHolds I x f.key ↔ f.Holds I x := by
  refine Filter.induct (P := fun f => f.Legible → ∀ x, f.slot.EntryHolds I x f.key ↔ f.Holds I x)
    (Q := fun o => o.Legible → ∀ place,
      o.entry.2.OperandHolds I place o.symbol ↔ o.Holds I place)
    ?equals ?operator ?operators ?logical ?value ?nested ?filters f h x
  case equals =>
    intro path v h x
    cases h with
    | equals hp hv =>
      rw [Filter.Holds]
      exact entryHolds_plain x hp hv
  case operator =>
    intro path o ih h x
    cases h with
    | operator hp ho =>
      -- A single operator is a block of one.
      have hone : ∀ o' ∈ [o], o'.entry.2.OperandHolds I ⟨x, some path⟩ o'.symbol ↔
          o'.Holds I ⟨x, some path⟩ := by
        simpa using ih ho ⟨x, some path⟩
      simpa [Filter.Holds, Filter.slot, Filter.key, operatorsHold] using
        entryHolds_block_iff x path (List.cons_ne_nil o []) (by simp) hone
  case operators =>
    intro path os ih h x
    cases h with
    | operators hp hne hdistinct hos =>
      rw [Filter.Holds]
      exact entryHolds_block_iff x path hne hdistinct fun o ho => ih o ho (hos o ho) _
  case logical =>
    intro c f more ihf ihm h x
    cases h with
    | logical hf hm =>
      -- The documents under the connective say what the filters say, so it joins the same
      -- statements.
      have hmem : ∀ g ∈ f :: more, Document.Holds I x g.lower ↔ g.Holds I x := by
        refine List.forall_mem_cons.mpr ⟨?_, fun g hg => ?_⟩
        · rw [holds_lower_iff, ihf hf]
        · rw [holds_lower_iff, ihm g hg (hm g hg)]
      have hjoin : c.Joins (itemsHold I x ((f :: more).map fun g => .document g.lower)) ↔
          c.Joins ((f :: more).map fun g => g.Holds I x) := by
        rw [joins_itemsHold, List.map_congr_left fun g hg => propext (hmem g hg)]
      simpa [Filter.slot, Filter.key, Value.EntryHolds, Filter.Holds, filtersHold_eq_map]
        using hjoin
  case value =>
    intro c v h place
    cases h with
    | compare hnot helem =>
      rw [Operator.Holds, Operand.Holds, Operator.entry_mk, Operand.lower_value]
      exact (operandHolds_plain place hnot helem v).trans (by simp [hnot, helem])
  case nested =>
    intro c os ih h place
    cases h with
    | negation hdistinct hos =>
      rw [Operator.entry_mk, Operator.symbol_mk, Operand.lower_operators,
        block_of_nodup hdistinct, operandHolds_not, Operator.Holds, Operand.Holds]
      exact not_congr (holds_block_iff place fun o ho => ih o ho (hos o ho) place)
    | elemMatch hdistinct hos =>
      rw [Operator.entry_mk, Operator.symbol_mk, Operand.lower_operators,
        block_of_nodup hdistinct, operandHolds_elemMatch, Operator.Holds, Operand.Holds]
      refine exists_congr fun y => and_congr_right fun _ => ?_
      -- The empty document is read as a filter, not as a block, but says nothing either way.
      cases os with
      | nil => simp [Document.Holds, entriesHold, operatorsHold]
      | cons o rest =>
        rw [isBlock_block, List.isEmpty_cons, Bool.not_false, if_pos rfl]
        exact holds_block_iff ⟨y, none⟩ fun o ho => ih o ho (hos o ho) ⟨y, none⟩
  case filters =>
    intro c fs ih h place
    cases h with
    | elemMatchFilters hfs =>
      -- The merged document has no mark of a block, so it is read as a filter on the item.
      rw [Operator.entry_mk, Operator.symbol_mk, Operand.lower_filters, operandHolds_elemMatch,
        isBlock_merged hfs, Operator.Holds, Operand.Holds]
      refine exists_congr fun y => and_congr_right fun _ => ?_
      rw [if_neg Bool.false_ne_true, holds_merged_iff, filtersHold_eq_map, allHold_map]
      refine forall₂_congr fun f hf => ?_
      rw [holds_lower_iff]
      exact ih f hf (hfs f hf) y

variable (I)

/-- **Lowering keeps the meaning** of a legible filter, in every context and whatever the atoms
say. -/
theorem holds_toDocument_iff (x : Context) {f : Filter} (h : f.Legible) :
    Document.Holds I x f.toDocument.value ↔ f.Holds I x :=
  (holds_lower_iff x f).trans (entryHolds_iff h x)

/-- The atoms read on numbers: a number is its own value at every path, and as an array it holds the
numbers below it. The only comparison that ever holds is `$lt`. -/
def Interpretation.numbers : Interpretation Nat where
  equals n _ v := v = .int32 (Int32.ofNat n)
  satisfies place symbol v := symbol = "$lt" ∧ ∃ m, v = .int32 m ∧ Int32.ofNat place.context < m
  items place := List.range place.context

theorem holds_toDocument_iff_sample :
    Filter.sample.Legible ∧
      (Document.Holds Interpretation.numbers 9 Filter.sample.toDocument.value ↔
        Filter.sample.Holds Interpretation.numbers 9) :=
  ⟨Filter.sample_legible, holds_toDocument_iff Interpretation.numbers 9 Filter.sample_legible⟩

/-- Outside the legible filters the meaning gets lost: an equality reads as a block, the first of
two operators of one kind is overwritten, the empty list of operators reads as an equality, and an
equality at a path reads as a connective. -/
theorem holds_toDocument_fails :
    ¬ (Document.Holds Interpretation.numbers 0
          (Filter.equals ⟨"a"⟩ (.document [("$lt", .int32 5)])).toDocument.value ↔
        (Filter.equals ⟨"a"⟩ (.document [("$lt", .int32 5)])).Holds Interpretation.numbers 0) ∧
      ¬ (Document.Holds Interpretation.numbers 3
          (Filter.operators ⟨"a"⟩ [.lt (.int32 1), .lt (.int32 5)]).toDocument.value ↔
        (Filter.operators ⟨"a"⟩ [.lt (.int32 1), .lt (.int32 5)]).Holds Interpretation.numbers 3) ∧
      ¬ (Document.Holds Interpretation.numbers 0 (Filter.operators ⟨"a"⟩ []).toDocument.value ↔
        (Filter.operators ⟨"a"⟩ []).Holds Interpretation.numbers 0) ∧
      ¬ (Document.Holds Interpretation.numbers 0
          (Filter.equals ⟨"$and"⟩ (.array [])).toDocument.value ↔
        (Filter.equals ⟨"$and"⟩ (.array [])).Holds Interpretation.numbers 0) := by
  -- In each case the document and the tree are evaluated, and one of them holds.
  have hlt : isSymbol "$lt" = true := by decide
  have hand : Connective.ofSymbol? "$and" = some .and := by decide
  refine ⟨?equality, ?repeated, ?empty, ?path⟩
  case equality =>
    have hdoc : Document.Holds Interpretation.numbers 0
        (Filter.equals ⟨"a"⟩ (.document [("$lt", .int32 5)])).toDocument.value := by
      refine (holds_lower_iff 0 _).mpr ?_
      simp [Filter.slot, Filter.key, Value.EntryHolds, hlt, blockHolds, Value.OperandHolds,
        Interpretation.numbers]
    have htree : ¬ (Filter.equals ⟨"a"⟩ (.document [("$lt", .int32 5)])).Holds
        Interpretation.numbers 0 := by
      simp [Filter.Holds, Interpretation.numbers]
    exact fun h => htree (h.mp hdoc)
  case repeated =>
    have hblock : Document.ofEntries
        ([Operator.lt (.int32 1), .lt (.int32 5)].map Operator.entry) = [("$lt", .int32 5)] := rfl
    have hdoc : Document.Holds Interpretation.numbers 3
        (Filter.operators ⟨"a"⟩ [.lt (.int32 1), .lt (.int32 5)]).toDocument.value := by
      refine (holds_lower_iff 3 _).mpr ?_
      rw [Filter.slot, hblock]
      simp [Filter.key, Value.EntryHolds, hlt, blockHolds, Value.OperandHolds,
        Interpretation.numbers]
    have htree : ¬ (Filter.operators ⟨"a"⟩ [.lt (.int32 1), .lt (.int32 5)]).Holds
        Interpretation.numbers 3 := by
      have hless : ¬ Int32.ofNat 3 < 1 := by decide
      simp only [Filter.Holds, operatorsHold, Operator.Holds, Operator.lt, Operand.Holds,
        Interpretation.numbers, allHold_cons, Value.int32.injEq, exists_eq_left']
      exact fun h => hless h.1.2.2.2
    exact fun h => htree (h.mp hdoc)
  case empty =>
    have hdoc : ¬ Document.Holds Interpretation.numbers 0
        (Filter.operators ⟨"a"⟩ []).toDocument.value := by
      refine fun h => absurd ((holds_lower_iff 0 _).mp h) ?_
      simp [Filter.slot, Value.EntryHolds, Interpretation.numbers, Document.ofEntries]
    have htree : (Filter.operators ⟨"a"⟩ []).Holds Interpretation.numbers 0 := by
      simp [Filter.Holds, operatorsHold]
    exact fun h => hdoc (h.mpr htree)
  case path =>
    have hdoc : Document.Holds Interpretation.numbers 0
        (Filter.equals ⟨"$and"⟩ (.array [])).toDocument.value := by
      refine (holds_lower_iff 0 _).mpr ?_
      simp [Filter.slot, Filter.key, Value.EntryHolds, hand, itemsHold, Connective.Joins]
    have htree : ¬ (Filter.equals ⟨"$and"⟩ (.array [])).Holds Interpretation.numbers 0 := by
      simp [Filter.Holds, Interpretation.numbers]
    exact fun h => htree (h.mp hdoc)

end QueryAlgebra
