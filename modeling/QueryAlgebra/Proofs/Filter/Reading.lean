import QueryAlgebra.Proofs.Filter.Normal

/-!
# Reading filters back

A document says which filter it came from. The reader goes by the marks of `Legible`: a key that is
the symbol of a connective opens a combination, a document that opens with a symbol is a block of
operators, and everything else is an equality.

* `Document.filter?` — the filter that a document with one entry was lowered from, in normal form.
* `Value.readEntry`, `Value.readOperator` — the filter of one entry and the operator of one entry of
  a block, by recursion on the value.

`readEntry_slot` is the round trip of one entry, by induction over the filter. So legible filters
have the same document exactly when they have the same normal form
(`toDocument_eq_iff_normal_eq`).
-/

namespace QueryAlgebra

/-- The only item of a list that has one. -/
def only? {α : Type} : List α → Option α
  | [a] => some a
  | _ => none

/-- The combination of filters, of which there has to be at least one. -/
def Filter.combine? (c : Connective) : List Filter → Option Filter
  | [] => none
  | f :: more => some (.logical c f more)

/-! ### The reader -/

mutual

/-- The filter of the entry with this key and value. -/
def Value.readEntry (key : String) : Value → Option Filter
  | .array items =>
    match Connective.ofSymbol? key with
    | some c => (readItems items).bind (Filter.combine? c)
    | none => some (.equals ⟨key⟩ (.array items))
  | .document d =>
    if Document.opensWithSymbol d then (readBlock d).map (.operators ⟨key⟩)
    else some (.equals ⟨key⟩ (.document d))
  | v => some (.equals ⟨key⟩ v)

/-- The filter of an item under a connective: it is a document with one entry. -/
def Value.readItem : Value → Option Filter
  | .document d => (readEntries d).bind only?
  | _ => none

/-- The filters of the items under a connective, in order. -/
def readItems : List Value → Option (List Filter)
  | [] => some []
  | v :: rest => v.readItem.bind fun f => (readItems rest).map (f :: ·)

/-- The filters of the entries of a document, in order. -/
def readEntries : List (String × Value) → Option (List Filter)
  | [] => some []
  | (k, v) :: rest => (v.readEntry k).bind fun f => (readEntries rest).map (f :: ·)

/-- The operator of the entry of a block with this symbol and value. -/
def Value.readOperator (symbol : String) : Value → Option Operator
  | .document d =>
    (Comparison.ofSymbol? symbol).bind fun c =>
      if c = .not then (readBlock d).map fun os => .mk c (.operators os)
      else if c = .elemMatch then
        if Document.isBlock d then (readBlock d).map fun os => .mk c (.operators os)
        else (readEntries d).map fun fs => .mk c (.filters fs)
      else some (.mk c (.value (.document d)))
  | v => (Comparison.ofSymbol? symbol).map fun c => .mk c (.value v)

/-- The operators of the entries of a block, in order. -/
def readBlock : List (String × Value) → Option (List Operator)
  | [] => some []
  | (k, v) :: rest => (v.readOperator k).bind fun o => (readBlock rest).map (o :: ·)

end

/-- The filter of a document that has one entry. -/
def Document.filter? (d : Document) : Option Filter :=
  (readEntries d).bind only?

/-! ### Reading lists -/

/-- The entries of filters read as these, if each of them does. -/
theorem readEntries_map {fs : List Filter}
    (h : ∀ f ∈ fs, f.slot.readEntry f.key = some f.normal) :
    readEntries (fs.map fun f => (f.key, f.slot)) = some (fs.map Filter.normal) := by
  induction fs with
  | nil => rw [List.map_nil, List.map_nil, readEntries]
  | cons f rest ih =>
    obtain ⟨hf, hrest⟩ := List.forall_mem_cons.mp h
    rw [List.map_cons, List.map_cons, readEntries, hf, ih hrest]
    rfl

/-- The document of a filter reads as the filter that its entry reads as. -/
theorem filter?_lower_of_slot {f : Filter} (h : f.slot.readEntry f.key = some f.normal) :
    Document.filter? f.lower = some f.normal := by
  have hone : readEntries [(f.key, f.slot)] = some [f.normal] :=
    readEntries_map (List.forall_mem_singleton.mpr h)
  rw [Document.filter?, Filter.lower_eq, hone]
  rfl

/-- The documents of filters read as these under a connective, if the entry of each of them does. -/
theorem readItems_map {fs : List Filter}
    (h : ∀ f ∈ fs, f.slot.readEntry f.key = some f.normal) :
    readItems (fs.map fun f => .document f.lower) = some (fs.map Filter.normal) := by
  induction fs with
  | nil => rw [List.map_nil, List.map_nil, readItems]
  | cons f rest ih =>
    obtain ⟨hf, hrest⟩ := List.forall_mem_cons.mp h
    have hitem : (Value.document f.lower).readItem = some f.normal := by
      rw [Value.readItem]
      exact filter?_lower_of_slot hf
    rw [List.map_cons, List.map_cons, readItems, hitem, ih hrest]
    rfl

/-- The entries of operators read as these, if each of them does. -/
theorem readBlock_map {os : List Operator}
    (h : ∀ o ∈ os, o.entry.2.readOperator o.symbol = some o.normal) :
    readBlock (os.map Operator.entry) = some (os.map Operator.normal) := by
  induction os with
  | nil => rw [List.map_nil, List.map_nil, readBlock]
  | cons o rest ih =>
    obtain ⟨ho, hrest⟩ := List.forall_mem_cons.mp h
    have hentry : o.entry = (o.symbol, o.entry.2) := by rw [← Operator.fst_entry]
    rw [List.map_cons, List.map_cons, hentry, readBlock, ho, ih hrest]
    rfl

/-- The array under a connective reads as the combination. -/
theorem readEntry_combined (c : Connective) {f : Filter} {more : List Filter}
    (h : ∀ g ∈ f :: more, g.slot.readEntry g.key = some g.normal) :
    Value.readEntry c.symbol (.array ((f :: more).map fun g => .document g.lower)) =
      some (.logical c f.normal (more.map Filter.normal)) := by
  rw [Value.readEntry, Connective.ofSymbol?_symbol]
  simp only [readItems_map h]
  rfl

/-- The merged document of filters reads as these, apart where the document has them apart. -/
theorem readEntries_merged {fs : List Filter}
    (h : ∀ f ∈ fs, f.slot.readEntry f.key = some f.normal) :
    readEntries (merged (fs.map Filter.lower)) = some (separated (fs.map Filter.normal)) := by
  rw [merged_lower]
  split
  · next hnodup =>
    rw [readEntries_map h, separated_of_nodup (by rwa [map_key_normal])]
  · next hnodup =>
    -- The keys of the filters are repeated, and so are those of their normal forms.
    cases fs with
    | nil => exact absurd List.nodup_nil hnodup
    | cons f more =>
      have hnormal : ¬ ((f.normal :: more.map Filter.normal).map Filter.key).Nodup := by
        rwa [← List.map_cons, map_key_normal]
      have hentry : combined .and ((f :: more).map Filter.lower) =
          [(Connective.and.symbol, .array ((f :: more).map fun g => .document g.lower))] := by
        rw [combined, Document.singleton, List.map_map]
        rfl
      rw [hentry, readEntries, readEntry_combined .and h, List.map_cons,
        separated_of_not_nodup hnormal]
      rfl

/-! ### Reading trees -/

/-- A value that is no block, beside a path, reads as an equality. -/
theorem readEntry_plain {path : Path} {v : Value} (hp : isSymbol path.text = false)
    (hv : v.opensWithSymbol = false) : v.readEntry path.text = some (.equals path v) := by
  cases v with
  | array items => simp [Value.readEntry, Connective.ofSymbol?_of_not_isSymbol hp]
  | document d =>
    rw [Value.opensWithSymbol_document] at hv
    simp [Value.readEntry, hv]
  | _ => simp [Value.readEntry]

/-- A block beside a path reads as the operators at the path. -/
theorem readEntry_block (path : Path) {os : List Operator} (hne : os ≠ [])
    (hdistinct : (os.map Operator.symbol).Nodup)
    (h : ∀ o ∈ os, o.entry.2.readOperator o.symbol = some o.normal) :
    Value.readEntry path.text (.document (Document.ofEntries (os.map Operator.entry))) =
      some (.operators path (os.map Operator.normal)) := by
  rw [block_of_nodup hdistinct, Value.readEntry, if_pos (opensWithSymbol_block hne),
    readBlock_map h]
  rfl

/-- A value beside a comparison without structure reads as that comparison. -/
theorem readOperator_plain {c : Comparison} (hnot : c ≠ .not) (helem : c ≠ .elemMatch)
    (v : Value) : v.readOperator c.symbol = some (.mk c (.value v)) := by
  cases v with
  | document d => simp [Value.readOperator, hnot, helem]
  | _ => simp [Value.readOperator]

theorem readOperator_not (d : Document) :
    Value.readOperator Comparison.not.symbol (.document d) =
      (readBlock d).map fun os => .mk .not (.operators os) := by
  simp [Value.readOperator]

theorem readOperator_elemMatch (d : Document) :
    Value.readOperator Comparison.elemMatch.symbol (.document d) =
      if Document.isBlock d then (readBlock d).map fun os => .mk .elemMatch (.operators os)
      else (readEntries d).map fun fs => .mk .elemMatch (.filters fs) := by
  simp [Value.readOperator]

/-- The entry of a legible filter reads as the normal form of the filter. The claim about operators
that the induction carries along is that the entry of a legible operator reads as its normal
form. -/
theorem readEntry_slot {f : Filter} (h : f.Legible) : f.slot.readEntry f.key = some f.normal := by
  refine Filter.induct (P := fun f => f.Legible → f.slot.readEntry f.key = some f.normal)
    (Q := fun o => o.Legible → o.entry.2.readOperator o.symbol = some o.normal)
    ?equals ?operator ?operators ?logical ?value ?nested ?filters f h
  case equals =>
    intro path v h
    cases h with
    | equals hp hv =>
      rw [Filter.normal]
      exact readEntry_plain hp hv
  case operator =>
    intro path o ih h
    cases h with
    | operator hp ho =>
      -- The document of a single operator is that of a list of one, and reads as the list.
      have hone : ∀ o' ∈ [o], o'.entry.2.readOperator o'.symbol = some o'.normal :=
        List.forall_mem_singleton.mpr (ih ho)
      rw [Filter.normal]
      exact readEntry_block path (List.cons_ne_nil o []) (List.nodup_singleton _) hone
  case operators =>
    intro path os ih h
    cases h with
    | operators hp hne hdistinct hos =>
      rw [Filter.normal, normalOperators_eq_map]
      exact readEntry_block path hne hdistinct fun o ho => ih o ho (hos o ho)
  case logical =>
    intro c f more ihf ihm h
    cases h with
    | logical hf hm =>
      rw [Filter.normal, normalFilters_eq_map]
      exact readEntry_combined c
        (List.forall_mem_cons.mpr ⟨ihf hf, fun g hg => ihm g hg (hm g hg)⟩)
  case value =>
    intro c v h
    cases h with
    | compare hnot helem =>
      rw [Operator.entry_mk, Operator.symbol_mk, Operand.lower_value, Operator.normal,
        Operand.normal]
      exact readOperator_plain hnot helem v
  case nested =>
    intro c os ih h
    cases h with
    | negation hdistinct hos =>
      have hblock := readBlock_map fun o ho => ih o ho (hos o ho)
      rw [Operator.entry_mk, Operator.symbol_mk, Operand.lower_operators,
        block_of_nodup hdistinct, readOperator_not, hblock, Operator.normal, Operand.normal,
        if_neg fun hc => Comparison.noConfusion hc.1, normalOperators_eq_map]
      rfl
    | elemMatch hdistinct hos =>
      have hblock := readBlock_map fun o ho => ih o ho (hos o ho)
      rw [Operator.entry_mk, Operator.symbol_mk, Operand.lower_operators,
        block_of_nodup hdistinct, readOperator_elemMatch, isBlock_block, Operator.normal,
        Operand.normal]
      cases os with
      | nil =>
        -- The empty document has no mark, so it reads as one over no filters.
        rw [List.isEmpty_nil, Bool.not_true, if_neg Bool.false_ne_true, List.map_nil, readEntries,
          if_pos ⟨rfl, rfl⟩]
        rfl
      | cons o rest =>
        rw [List.isEmpty_cons, Bool.not_false, if_pos rfl, hblock,
          if_neg fun hc => Bool.false_ne_true hc.2, normalOperators_eq_map]
        rfl
  case filters =>
    intro c fs ih h
    cases h with
    | elemMatchFilters hfs =>
      -- The first key is a path or a connective, so the document is not taken for a block.
      have hentries := readEntries_merged fun f hf => ih f hf (hfs f hf)
      rw [Operator.entry_mk, Operator.symbol_mk, Operand.lower_filters, readOperator_elemMatch,
        isBlock_merged hfs, if_neg Bool.false_ne_true, hentries, Operator.normal, Operand.normal,
        normalFilters_eq_map]
      rfl

/-- The document of a legible filter reads as the normal form of the filter. -/
theorem filter?_lower {f : Filter} (h : f.Legible) : Document.filter? f.lower = some f.normal :=
  filter?_lower_of_slot (readEntry_slot h)

/-- **Documents tell legible filters apart up to normal form**: two of them have the same document
exactly when they have the same normal form, and the normal form is read back from the document. -/
theorem toDocument_eq_iff_normal_eq {f g : Filter} (hf : f.Legible) (hg : g.Legible) :
    (f.toDocument.value = g.toDocument.value ↔ f.normal = g.normal) ∧
      Document.filter? f.toDocument.value = some f.normal := by
  refine ⟨⟨fun h => ?_, fun h => ?_⟩, filter?_lower hf⟩
  · -- Reading is a function of the document, and undoes lowering up to normal form.
    have hread := congrArg Document.filter? h
    rw [Filter.toDocument, Filter.toDocument, filter?_lower hf, filter?_lower hg] at hread
    exact Option.some.inj hread
  · rw [Filter.toDocument, Filter.toDocument, ← Filter.lower_normal f, h, Filter.lower_normal]

/-- Two conditions on one path of an item, listed in an element match at a single operator. -/
def Filter.listed : Filter :=
  .operator ⟨"a"⟩ (.elemMatchFilters [.equals ⟨"b"⟩ .null, .equals ⟨"b"⟩ (.int32 1)])

/-- The same conditions, joined in an element match in a list of operators. -/
def Filter.joined : Filter :=
  .operators ⟨"a"⟩ [.elemMatchFilters [.and (.equals ⟨"b"⟩ .null) [.equals ⟨"b"⟩ (.int32 1)]]]

theorem toDocument_eq_iff_normal_eq_listed :
    Filter.listed.Legible ∧ Filter.joined.Legible ∧
      (Filter.listed.toDocument.value = Filter.joined.toDocument.value ↔
        Filter.listed.normal = Filter.joined.normal) ∧
      Document.filter? Filter.listed.toDocument.value = some Filter.listed.normal := by
  have hnull : (Filter.equals ⟨"b"⟩ .null).Legible := .equals (by decide) rfl
  have hone : (Filter.equals ⟨"b"⟩ (.int32 1)).Legible := .equals (by decide) rfl
  have hlisted : Filter.listed.Legible :=
    .operator (by decide) (.elemMatchFilters
      (List.forall_mem_cons.mpr ⟨hnull, List.forall_mem_singleton.mpr hone⟩))
  have hjoined : Filter.joined.Legible :=
    .operators (by decide) (List.cons_ne_nil _ _) (List.nodup_singleton _)
      (List.forall_mem_singleton.mpr (.elemMatchFilters (List.forall_mem_singleton.mpr
        (.logical hnull (List.forall_mem_singleton.mpr hone)))))
  exact ⟨hlisted, hjoined, toDocument_eq_iff_normal_eq hlisted hjoined⟩

example : Filter.listed.toDocument.value = Filter.joined.toDocument.value := rfl

end QueryAlgebra
