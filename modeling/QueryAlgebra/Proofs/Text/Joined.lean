import Mathlib.Data.List.Basic

/-!
# Joining and taking apart

A text that is joined from parts can be joined with further parts (`intercalate_intercalate_cons`),
and as long as no part contains the separator it is known from the text what the parts were
(`intercalate_injective`). Read from its head, a joined text is its first part and then every
further one with the separator before it (`trailing`).
-/

namespace QueryAlgebra.Text

variable {sep : String}

/-- Parts that are joined already may be joined with further ones. -/
theorem intercalate_intercalate_cons {ts : List String} (h : ts ≠ []) (more : List String) :
    sep.intercalate (sep.intercalate ts :: more) = sep.intercalate (ts ++ more) := by
  by_cases hmore : more = []
  · rw [hmore, String.intercalate_singleton, List.append_nil]
  · rw [String.intercalate_cons_of_ne_nil hmore, String.intercalate_append_of_ne_nil h hmore]

/-- Parts without the separator are known from the text that they are joined to. -/
theorem intercalate_injective {c : Char} {ts us : List String} (hts : ts ≠ []) (hus : us ≠ [])
    (hclear : ∀ t ∈ ts, c ∉ t.toList) (hclear' : ∀ u ∈ us, c ∉ u.toList)
    (h : (String.singleton c).intercalate ts = (String.singleton c).intercalate us) : ts = us := by
  -- The parts are read back by splitting the text at the separator.
  have hsplit : ∀ {xs : List String}, xs ≠ [] → (∀ x ∈ xs, c ∉ x.toList) →
      ((String.singleton c).intercalate xs).toList.splitOn c = xs.map String.toList := by
    intro xs hne hxs
    rw [String.toList_intercalate, String.toList_singleton]
    refine List.splitOn_intercalate c (fun l hl => ?_) (List.map_eq_nil_iff.not.mpr hne)
    obtain ⟨x, hx, rfl⟩ := List.mem_map.mp hl
    exact hxs x hx
  have hlists : ts.map String.toList = us.map String.toList := by
    rw [← hsplit hts hclear, ← hsplit hus hclear', h]
  exact List.map_injective_iff.mpr (fun _ _ => String.toList_inj.mp) hlists

/-! ### From the head on -/

/-- Every text with the separator before it. -/
def trailing (sep : String) (ts : List String) : List Char :=
  ts.flatMap fun t => sep.toList ++ t.toList

@[simp] theorem trailing_nil (sep : String) : trailing sep [] = [] := rfl

@[simp] theorem trailing_cons (sep t : String) (ts : List String) :
    trailing sep (t :: ts) = sep.toList ++ t.toList ++ trailing sep ts := rfl

theorem toList_intercalate_cons (sep t : String) (ts : List String) :
    (sep.intercalate (t :: ts)).toList = t.toList ++ trailing sep ts := by
  induction ts generalizing t with
  | nil => rw [String.intercalate_singleton, trailing_nil, List.append_nil]
  | cons u rest ih =>
    rw [String.intercalate_cons_cons, String.toList_append, String.toList_append, ih, trailing_cons]
    simp only [List.append_assoc]

end QueryAlgebra.Text
