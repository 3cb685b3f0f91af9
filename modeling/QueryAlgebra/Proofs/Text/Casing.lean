import Mathlib
import QueryAlgebra.Text.Casing

/-!
# Case of ASCII texts

Full case conversion looks at tables and, for a sigma, at the characters around it. On ASCII texts
(`IsAscii`) nothing of this shows: the case of a text is that of its characters one by one
(`toList_toLower`, `toList_toUpper`), and only capital letters are changed by lower case
(`map_toLower_eq_self_iff`).
-/

namespace QueryAlgebra.Text

/-- A text of ASCII characters. -/
def IsAscii (cs : List Char) : Prop :=
  ∀ c ∈ cs, c.toNat < 128

theorem isAscii_cons {c : Char} {cs : List Char} :
    IsAscii (c :: cs) ↔ c.toNat < 128 ∧ IsAscii cs :=
  List.forall_mem_cons

/-- The upper case of a letter is found below it. -/
theorem toUpper_ascii {c : Char} (h : c.toNat < 128) : c.toUpper.toNat < 128 := by
  by_cases hc : c.isLower
  · rw [Char.toUpper_eq_of_isLower hc, Char.toNat_ofNat]
    split <;> omega
  · rwa [Char.toUpper_eq_of_not_isLower hc]

/-- There is no capital sigma in ASCII, so it does not matter what stands before a text. -/
theorem lowerFrom_ascii (afterCased : Bool) {cs : List Char} (h : IsAscii cs) :
    lowerFrom afterCased cs = cs.map Char.toLower := by
  induction cs generalizing afterCased with
  | nil => rfl
  | cons c rest ih =>
    obtain ⟨hc, hrest⟩ := isAscii_cons.mp h
    have hsigma : c ≠ 'Σ' := by
      rintro rfl
      exact absurd hc (by decide)
    rw [lowerFrom, if_neg hsigma, lowerChar_ascii hc, ih _ hrest, List.map_cons,
      List.singleton_append]

theorem flatMap_upperChar_ascii {cs : List Char} (h : IsAscii cs) :
    cs.flatMap upperChar = cs.map Char.toUpper := by
  induction cs with
  | nil => rfl
  | cons c rest ih =>
    obtain ⟨hc, hrest⟩ := isAscii_cons.mp h
    rw [List.flatMap_cons, upperChar_ascii hc, ih hrest, List.map_cons, List.singleton_append]

theorem toList_toLower {s : String} (h : IsAscii s.toList) :
    (toLower s).toList = s.toList.map Char.toLower := by
  rw [toLower, String.toList_ofList, lowerFrom_ascii false h]

theorem toList_toUpper {s : String} (h : IsAscii s.toList) :
    (toUpper s).toList = s.toList.map Char.toUpper := by
  rw [toUpper, String.toList_ofList, flatMap_upperChar_ascii h]

theorem toLower_eq_self_iff {c : Char} : c.toLower = c ↔ c.isUpper = false := by
  constructor
  · intro h
    rw [← h]
    exact Char.isUpper_toLower_eq_false c
  · intro h
    exact Char.toLower_eq_of_not_isUpper (Bool.eq_false_iff.mp h)

theorem toLower_toUpper_of_isLower {c : Char} (h : c.isLower = true) : c.toUpper.toLower = c := by
  rw [Char.toLower_toUpper_eq_toLower]
  exact Char.toLower_eq_of_not_isUpper (Char.not_isUpper_of_isLower h)

/-- Lower case keeps a text just when there are no capitals in it. -/
theorem map_toLower_eq_self_iff {cs : List Char} :
    cs.map Char.toLower = cs ↔ ∀ c ∈ cs, c.isUpper = false := by
  induction cs with
  | nil => simp
  | cons c rest ih =>
    rw [List.map_cons, List.cons.injEq, toLower_eq_self_iff, ih, List.forall_mem_cons]

end QueryAlgebra.Text
