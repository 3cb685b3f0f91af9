import QueryAlgebra.Proofs.Assoc.Merging
import QueryAlgebra.Proofs.Filter.Structure

/-!
# Blocks of operators

A block has one entry for each symbol. Where a list repeats a symbol, the block keeps the last
operand for it in the place of the first, so it is the block of fewer operators: of those that
`lastOfEach` leaves.

* `block_eq_map_lastOfEach` — the entries of a block are those of the operators that are left.
* `block_eq_iff` — an operator shows in the block unless a later one replaces it: two blocks that
  differ in it alone are the same exactly if it is replaced or its entry is the same.
-/

namespace QueryAlgebra

/-! ### The operators that a block keeps -/

/-- The last operator for each symbol, in the place of the first one for it. -/
def lastOfEach (os : List Operator) : List Operator :=
  (Assoc.ofEntries (os.map fun o => (o.symbol, o))).map Prod.snd

theorem Operator.entry_eq (o : Operator) : o.entry = (o.symbol, o.entry.2) := by
  rw [← Operator.fst_entry]

theorem mem_of_mem_lastOfEach {os : List Operator} {o : Operator} (h : o ∈ lastOfEach os) :
    o ∈ os := by
  obtain ⟨e, he, rfl⟩ := List.mem_map.mp h
  obtain ⟨o', ho', rfl⟩ := List.mem_map.mp (Assoc.mem_of_mem_ofEntries he)
  exact ho'

/-- The entries of a block are those of the operators that it keeps. -/
theorem block_eq_map_lastOfEach (os : List Operator) :
    Document.ofEntries (os.map Operator.entry) = (lastOfEach os).map Operator.entry := by
  have hpairs : os.map Operator.entry =
      (os.map fun o => (o.symbol, o)).map fun e => (e.1, e.2.entry.2) := by
    rw [List.map_map]
    exact List.map_congr_left fun o _ => o.entry_eq
  rw [Document.ofEntries, hpairs, ← Assoc.map_ofEntries fun o : Operator => o.entry.2, lastOfEach,
    List.map_map]
  refine List.map_congr_left fun e he => ?_
  -- Every pair is an operator with its own symbol.
  obtain ⟨o, -, rfl⟩ := List.mem_map.mp (Assoc.mem_of_mem_ofEntries he)
  exact o.entry_eq.symm

theorem keys_block (os : List Operator) :
    Assoc.keys (Document.ofEntries (os.map Operator.entry)) =
      (os.map Operator.symbol).eraseDups := by
  rw [Document.ofEntries, Assoc.keys_ofEntries, keys_map_entry]

/-- Each symbol is kept once, where it first occurs. -/
theorem symbols_lastOfEach (os : List Operator) :
    (lastOfEach os).map Operator.symbol = (os.map Operator.symbol).eraseDups := by
  rw [← keys_block, block_eq_map_lastOfEach, keys_map_entry]

/-! ### One operator of a block -/

/-- An operator that no later one replaces is found under its symbol. -/
theorem get?_block {before after : List Operator} {o : Operator}
    (hlast : o.symbol ∉ after.map Operator.symbol) :
    Assoc.get? (Document.ofEntries ((before ++ o :: after).map Operator.entry)) o.symbol =
      some o.entry.2 := by
  have hafter : (after.map Operator.entry).filter (fun e => e.1 = o.symbol) = [] := by
    refine List.filter_eq_nil_iff.mpr fun e he => ?_
    obtain ⟨o', ho', rfl⟩ := List.mem_map.mp he
    rw [Operator.fst_entry, decide_eq_true_eq]
    exact fun hsymbol => hlast (hsymbol ▸ List.mem_map_of_mem ho')
  rw [Document.ofEntries, Assoc.get?_ofEntries, List.map_append, List.map_cons,
    List.filter_append, List.filter_cons_of_pos (by rw [Operator.fst_entry, decide_eq_true rfl]),
    hafter, List.getLast?_concat]
  rfl

/-- An operator that a later one replaces does not show in the block. -/
theorem block_eq_of_replaced {before after : List Operator} {o o' : Operator}
    (hsymbol : o.symbol = o'.symbol) (hlater : o.symbol ∈ after.map Operator.symbol) :
    Document.ofEntries ((before ++ o :: after).map Operator.entry) =
      Document.ofEntries ((before ++ o' :: after).map Operator.entry) := by
  have hkey : o.symbol ∈ Assoc.keys (after.map Operator.entry) := by rwa [keys_map_entry]
  rw [List.map_append, List.map_append, List.map_cons, List.map_cons, o.entry_eq, o'.entry_eq,
    ← hsymbol]
  exact Assoc.ofEntries_rewritten hkey _ _

/-- Two blocks that differ in one operator are the same exactly if a later operator replaces it, or
it makes the same entry in both. -/
theorem block_eq_iff {before after : List Operator} {o o' : Operator}
    (hsymbol : o.symbol = o'.symbol) :
    Document.ofEntries ((before ++ o :: after).map Operator.entry) =
        Document.ofEntries ((before ++ o' :: after).map Operator.entry) ↔
      (o.symbol ∉ after.map Operator.symbol → o.entry.2 = o'.entry.2) := by
  constructor
  · intro h hlast
    -- Both are found under the one symbol.
    have hfound : Assoc.get? (Document.ofEntries ((before ++ o' :: after).map Operator.entry))
        o.symbol = some o.entry.2 := h ▸ get?_block hlast
    rw [hsymbol, get?_block (hsymbol ▸ hlast), Option.some.injEq] at hfound
    exact hfound.symm
  · intro h
    by_cases hlater : o.symbol ∈ after.map Operator.symbol
    · exact block_eq_of_replaced hsymbol hlater
    · have hentry : o.entry = o'.entry := by rw [o.entry_eq, o'.entry_eq, hsymbol, h hlater]
      rw [List.map_append, List.map_append, List.map_cons, List.map_cons, hentry]

end QueryAlgebra
