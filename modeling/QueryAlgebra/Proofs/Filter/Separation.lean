import QueryAlgebra.Field
import QueryAlgebra.Proofs.Filter.Block
import QueryAlgebra.Proofs.Filter.Legible

/-!
# Values and operators at the leaves

An equality puts its value where a leaf with operators puts a block, so a value that is itself such
a block reads as the operators. This module says that nothing else does. A leaf is looked at where
it stands, within a frame:

* `FilterFrame`, `OperatorFrame` — filters and operators with a gap for a filter, anywhere within
  them; `fill` puts a filter into the gap.
* `FilterFrame.Shows` — on the way down to the gap no operator is replaced by a later one with the
  same symbol, so that what is in the gap reaches the document.

In a frame that shows its gap, filters with one key lower alike only if their values beside the key
are the same (`FilterFrame.lower_fill_eq_iff`): each layer of the frame keeps the layer below it in
one place. So an equality lowers like a leaf with operators, each of another symbol, exactly if its
value is the document that writes them out (`toDocument_fill_equals_iff`). A value that is no
document never is, nor is a document that opens with anything but the symbol of a comparison. The
values that do read as operators are not turned away by the builders
(`toDocument_equals_reads_as_operators`).
-/

namespace QueryAlgebra

/-! ### Frames -/

mutual

/-- A filter with a gap in place of a filter within it. -/
inductive FilterFrame where
  | gap
  | operator (path : Path) (inner : OperatorFrame)
  | operators (path : Path) (before : List Operator) (inner : OperatorFrame)
    (after : List Operator)
  | first (connective : Connective) (inner : FilterFrame) (more : List Filter)
  | later (connective : Connective) (first : Filter) (before : List Filter) (inner : FilterFrame)
    (after : List Filter)

/-- An operator with a gap in place of a filter within it. -/
inductive OperatorFrame where
  | operators (comparison : Comparison) (before : List Operator) (inner : OperatorFrame)
    (after : List Operator)
  | filters (comparison : Comparison) (before : List Filter) (inner : FilterFrame)
    (after : List Filter)

end

mutual

/-- The filter with `g` in the gap. -/
def FilterFrame.fill (g : Filter) : FilterFrame → Filter
  | .gap => g
  | .operator path inner => .operator path (inner.fill g)
  | .operators path before inner after => .operators path (before ++ inner.fill g :: after)
  | .first c inner more => .logical c (inner.fill g) more
  | .later c first before inner after => .logical c first (before ++ inner.fill g :: after)

/-- The operator with `g` in the gap. -/
def OperatorFrame.fill (g : Filter) : OperatorFrame → Operator
  | .operators c before inner after => .mk c (.operators (before ++ inner.fill g :: after))
  | .filters c before inner after => .mk c (.filters (before ++ inner.fill g :: after))

end

/-- The symbol of an operator, which does not depend on what is in the gap. -/
def OperatorFrame.symbol : OperatorFrame → String
  | .operators c _ _ _ => c.symbol
  | .filters c _ _ _ => c.symbol

@[simp] theorem OperatorFrame.symbol_fill (frame : OperatorFrame) (g : Filter) :
    (frame.fill g).symbol = frame.symbol := by
  cases frame <;> simp [OperatorFrame.fill, OperatorFrame.symbol]

mutual

/-- What is in the gap reaches the document: no operator around it is followed by another one with
the same symbol. -/
def FilterFrame.Shows : FilterFrame → Prop
  | .gap => True
  | .operator _ inner => inner.Shows
  | .operators _ _ inner after => inner.symbol ∉ after.map Operator.symbol ∧ inner.Shows
  | .first _ inner _ => inner.Shows
  | .later _ _ _ inner _ => inner.Shows

/-- What is in the gap reaches the entry of the operator. -/
def OperatorFrame.Shows : OperatorFrame → Prop
  | .operators _ _ inner after => inner.symbol ∉ after.map Operator.symbol ∧ inner.Shows
  | .filters _ _ inner _ => inner.Shows

end

/-! ### One layer of a frame -/

/-- Filters with one key lower alike if their values beside the key are the same. -/
theorem Filter.lower_eq_iff {f g : Filter} (hkey : f.key = g.key) :
    f.lower = g.lower ↔ f.slot = g.slot := by
  simp [Filter.lower_eq, hkey]

/-- An element match keeps each of its filters in one place, merged or apart. -/
theorem merged_middle_eq_iff {before after : List Filter} {f g : Filter} (hkey : f.key = g.key) :
    merged ((before ++ f :: after).map Filter.lower) =
        merged ((before ++ g :: after).map Filter.lower) ↔ f.slot = g.slot := by
  -- The keys are the same in both, so the filters are merged in both or apart in both.
  have hkeys : (before ++ f :: after).map Filter.key = (before ++ g :: after).map Filter.key := by
    simp [hkey]
  rw [merged_lower, merged_lower, hkeys]
  split
  · simp [hkey]
  · rw [← Filter.lower_eq_iff hkey]
    simp [combined, Document.singleton]

/-! ### Filling a frame -/

/-- The key of a filled frame depends on no more than the key of what is in the gap. -/
theorem FilterFrame.key_fill {f g : Filter} (hkey : f.key = g.key) (frame : FilterFrame) :
    (frame.fill f).key = (frame.fill g).key := by
  cases frame with
  | gap => simpa [FilterFrame.fill] using hkey
  | _ => simp [FilterFrame.fill, Filter.key]

mutual

/-- Two filters with one key put the same value into a frame exactly if they have the same value
themselves or the frame does not show its gap. -/
theorem FilterFrame.slot_fill_eq_iff {f g : Filter} (hkey : f.key = g.key) :
    (frame : FilterFrame) →
      ((frame.fill f).slot = (frame.fill g).slot ↔ (frame.Shows → f.slot = g.slot))
  | .gap => by rw [FilterFrame.fill, FilterFrame.fill, FilterFrame.Shows, true_imp_iff]
  | .operator path inner => by
    -- An operator by itself is a block that nothing follows.
    have hblock : Document.ofEntries [(inner.fill f).entry] =
        Document.ofEntries [(inner.fill g).entry] ↔ _ := @block_eq_iff [] [] _ _ (by simp)
    have hlast : (inner.fill f).symbol ∉ ([] : List Operator).map Operator.symbol :=
      List.not_mem_nil
    rw [FilterFrame.fill, FilterFrame.fill, Filter.slot, Filter.slot, Value.document.injEq, hblock,
      imp_iff_right hlast, inner.entry_fill_eq_iff hkey, FilterFrame.Shows]
  | .operators path before inner after => by
    rw [FilterFrame.fill, FilterFrame.fill, Filter.slot, Filter.slot, Value.document.injEq,
      block_eq_iff (by simp), OperatorFrame.symbol_fill, inner.entry_fill_eq_iff hkey,
      FilterFrame.Shows, and_imp]
  | .first c inner more => by
    -- The rest of the array is the same on both sides, so the member with the gap decides.
    rw [FilterFrame.fill, FilterFrame.fill, Filter.slot, Filter.slot, Value.array.injEq,
      FilterFrame.Shows, ← inner.slot_fill_eq_iff hkey, ← Filter.lower_eq_iff (inner.key_fill hkey)]
    simp
  | .later c first before inner after => by
    rw [FilterFrame.fill, FilterFrame.fill, Filter.slot, Filter.slot, Value.array.injEq,
      FilterFrame.Shows, ← inner.slot_fill_eq_iff hkey, ← Filter.lower_eq_iff (inner.key_fill hkey)]
    simp

/-- The same of the entry of an operator. -/
theorem OperatorFrame.entry_fill_eq_iff {f g : Filter} (hkey : f.key = g.key) :
    (frame : OperatorFrame) →
      ((frame.fill f).entry.2 = (frame.fill g).entry.2 ↔ (frame.Shows → f.slot = g.slot))
  | .operators c before inner after => by
    rw [OperatorFrame.fill, OperatorFrame.fill, Operator.entry_mk, Operator.entry_mk,
      Operand.lower_operators, Operand.lower_operators, Value.document.injEq,
      block_eq_iff (by simp), OperatorFrame.symbol_fill, inner.entry_fill_eq_iff hkey,
      OperatorFrame.Shows, and_imp]
  | .filters c before inner after => by
    rw [OperatorFrame.fill, OperatorFrame.fill, Operator.entry_mk, Operator.entry_mk,
      Operand.lower_filters, Operand.lower_filters, Value.document.injEq,
      merged_middle_eq_iff (inner.key_fill hkey), inner.slot_fill_eq_iff hkey, OperatorFrame.Shows]

end

/-- Filters with one key can be told apart in every frame that shows its gap, if they can at all,
and in no other. -/
theorem FilterFrame.lower_fill_eq_iff {f g : Filter} (hkey : f.key = g.key) (frame : FilterFrame) :
    (frame.fill f).lower = (frame.fill g).lower ↔ (frame.Shows → f.slot = g.slot) := by
  rw [Filter.lower_eq_iff (frame.key_fill hkey), frame.slot_fill_eq_iff hkey]

/-! ### Leaves -/

/-- The filter is a leaf that asks these operators of the value at the path. -/
inductive Filter.Asks (path : Path) : List Operator → Filter → Prop where
  | one (o : Operator) : Filter.Asks path [o] (.operator path o)
  | several (os : List Operator) : Filter.Asks path os (.operators path os)

theorem Filter.Asks.key_eq {path : Path} {os : List Operator} {leaf : Filter}
    (h : leaf.Asks path os) : leaf.key = path.text := by
  cases h <;> rfl

theorem Filter.Asks.slot_eq {path : Path} {os : List Operator} {leaf : Filter}
    (h : leaf.Asks path os) :
    leaf.slot = .document (Document.ofEntries (os.map Operator.entry)) := by
  cases h <;> rfl

theorem ArrayField.asks_containsElement (a : ArrayField) (os : List Operator) :
    (a.containsElement os).Asks a.path os := by
  match os with
  | [] => exact .several []
  | [o] => exact .one o
  | o :: o' :: rest => exact .several (o :: o' :: rest)

/-- Whether a value can be a block: it is a document that is empty or opens with the symbol of a
comparison. -/
def Value.mayBeBlock : Value → Bool
  | .document [] => true
  | .document ((k, _) :: _) => (Comparison.ofSymbol? k).isSome
  | _ => false

theorem mayBeBlock_block (os : List Operator) :
    (Value.document (Document.ofEntries (os.map Operator.entry))).mayBeBlock = true := by
  rw [block_eq_map_lastOfEach]
  cases lastOfEach os with
  | nil => rfl
  | cons o rest =>
    cases o
    simp [Value.mayBeBlock]

/-- **A value reads as operators only if it is the document that writes them out.** Within a frame
that shows its gap, an equality lowers like a leaf with operators of different symbols on the same
path exactly if its value is the document with an entry for each of them, in order. And it never
lowers like a leaf with operators for a value that cannot be a block, nor for the array that an
exact match compares with. -/
theorem toDocument_fill_equals_iff {frame : FilterFrame} (hshows : frame.Shows) (path : Path)
    (v : Value) {os : List Operator} {leaf : Filter} (hleaf : leaf.Asks path os) :
    ((os.map Operator.symbol).Nodup →
      ((frame.fill (Field.equals ⟨path⟩ v)).toDocument.value =
          (frame.fill leaf).toDocument.value ↔
        v = .document (os.map Operator.entry))) ∧
      (v.mayBeBlock = false → (frame.fill (Field.equals ⟨path⟩ v)).toDocument.value ≠
        (frame.fill leaf).toDocument.value) ∧
      ∀ vs, (frame.fill (ArrayField.containsExact ⟨path⟩ vs)).toDocument.value ≠
        (frame.fill leaf).toDocument.value := by
  -- Both leaves have the path as their key, so their values beside it decide.
  have hiff : ∀ w, (frame.fill (.equals path w)).lower = (frame.fill leaf).lower ↔
      w = .document (Document.ofEntries (os.map Operator.entry)) := by
    intro w
    have hkey : (Filter.equals path w).key = leaf.key := hleaf.key_eq.symm
    rw [FilterFrame.lower_fill_eq_iff hkey, hleaf.slot_eq, Filter.slot, imp_iff_right hshows]
  refine ⟨fun hdistinct => ?_, fun hv heq => ?_, fun vs heq => ?_⟩
  · rw [← block_of_nodup hdistinct]
    exact hiff v
  · rw [(hiff v).mp heq, mayBeBlock_block] at hv
    cases hv
  · -- An array is no document.
    cases (hiff (.array vs)).mp heq

/-- A gap in the second filter of an element match, which stands beside another operator, below an
alternative. -/
def FilterFrame.sample : FilterFrame :=
  .later .or (Field.present ⟨⟨"rooms"⟩⟩) []
    (.operators ⟨"rooms"⟩ [.size 2]
      (.filters .elemMatch [Field.equals ⟨⟨"floor"⟩⟩ (.int32 1)] .gap []) [])
    []

/-- In the sample an exact match never reads as operators, and a document does exactly for those
that it writes out. -/
theorem toDocument_fill_equals_iff_sample :
    FilterFrame.sample.Shows ∧
      ((FilterFrame.sample.fill
            (Field.equals ⟨⟨"beds"⟩⟩ (.document [("$gt", .int32 1)]))).toDocument.value =
          (FilterFrame.sample.fill
            (ArrayField.containsElement ⟨⟨"beds"⟩⟩ [.gt (.int32 2)])).toDocument.value ↔
        Value.document [("$gt", .int32 1)] = .document [("$gt", .int32 2)]) ∧
      (FilterFrame.sample.fill
            (ArrayField.containsExact ⟨⟨"beds"⟩⟩ [.int32 1])).toDocument.value ≠
          (FilterFrame.sample.fill
            (ArrayField.containsElement ⟨⟨"beds"⟩⟩ [.gt (.int32 2)])).toDocument.value := by
  have hshows : FilterFrame.sample.Shows := by
    simp [FilterFrame.sample, FilterFrame.Shows, OperatorFrame.Shows]
  obtain ⟨hiff, -, hexact⟩ := toDocument_fill_equals_iff hshows ⟨"beds"⟩
    (.document [("$gt", .int32 1)])
    (ArrayField.asks_containsElement ⟨⟨"beds"⟩⟩ [.gt (.int32 2)])
  exact ⟨hshows, hiff (by simp), hexact _⟩

/-- Not every equality can be told from operators: a document that writes an operator out reads as
the operator, and the empty document as no operators at all. -/
theorem toDocument_equals_reads_as_operators :
    (Field.equals ⟨⟨"a"⟩⟩ (.document [("$gt", .int32 5)])).toDocument.value =
        (Field.gt ⟨⟨"a"⟩⟩ (.int32 5)).toDocument.value ∧
      (Field.equals ⟨⟨"a"⟩⟩ (.document [])).toDocument.value =
        (Field.satisfiesAll ⟨⟨"a"⟩⟩ []).toDocument.value :=
  ⟨rfl, rfl⟩

end QueryAlgebra
