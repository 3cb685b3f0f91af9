import QueryAlgebra.Proofs.Text.Casing
import QueryAlgebra.Record.Naming

/-!
# Rules and conventions

Other programs store records under keys of their own making, and the rules are there to meet them.
The convention they follow (`conventional?`) makes a key in one pass over the name: what is in upper
case in the end depends on whether an underscore has just been dropped (`runTogether`). The rules
take a name apart at its underscores instead and run the words together. On ASCII names both come to
the same (`pascalCase_eq_runTogether`), however the underscores stand in them.

A rule meets the convention on every ASCII name that is not made of underscores alone, with one
exception: `lowercase` does so only where the name has no capitals, since by convention it leaves a
name as it is (`apply_conventional`).
-/

namespace QueryAlgebra.NamingRule

open Text

/-- A name without its underscores, in one pass: the character behind an underscore is in upper
case, and so is the first one if `capital` says so. -/
def runTogether (capital : Bool) : List Char → List Char
  | [] => []
  | c :: rest =>
    if c = '_' then runTogether true rest
    else (if capital then c.toUpper else c) :: runTogether false rest

/-- The key that a name has by convention. In camel case the first character is in lower case, so
that a name of underscores alone has no key. -/
def conventional? (rule : NamingRule) (name : String) : Option String :=
  match rule with
  | .lower | .snake => some name
  | .upper | .screamingSnake => some (String.ofList (name.toList.map Char.toUpper))
  | .kebab => some (String.ofList (name.toList.map fun c => if c = '_' then '-' else c))
  | .pascal => some (String.ofList (runTogether true name.toList))
  | .camel =>
    match runTogether true name.toList with
    | [] => none
    | c :: rest => some (String.ofList (c.toLower :: rest))

@[simp] theorem runTogether_nil (capital : Bool) : runTogether capital [] = [] := rfl

@[simp] theorem runTogether_underscore (capital : Bool) (rest : List Char) :
    runTogether capital ('_' :: rest) = runTogether true rest := rfl

theorem runTogether_of_ne {c : Char} (hc : c ≠ '_') (capital : Bool) (rest : List Char) :
    runTogether capital (c :: rest) =
      (if capital then c.toUpper else c) :: runTogether false rest :=
  if_neg hc

/-- Something is left of a name unless it is made of underscores alone. -/
theorem runTogether_ne_nil {cs : List Char} (h : ∃ c ∈ cs, c ≠ '_') (capital : Bool) :
    runTogether capital cs ≠ [] := by
  induction cs generalizing capital with
  | nil => simp at h
  | cons c rest ih =>
    by_cases hc : c = '_'
    · -- The underscore is dropped, but it was not the character in question.
      subst hc
      have hrest : ∃ d ∈ rest, d ≠ '_' := by simpa using h
      rw [runTogether_underscore]
      exact ih hrest true
    · rw [runTogether_of_ne hc]
      exact List.cons_ne_nil _ _

theorem isAscii_runTogether {cs : List Char} (h : IsAscii cs) (capital : Bool) :
    IsAscii (runTogether capital cs) := by
  induction cs generalizing capital with
  | nil => exact h
  | cons c rest ih =>
    obtain ⟨hc, hrest⟩ := isAscii_cons.mp h
    by_cases hsep : c = '_'
    · subst hsep
      exact ih hrest true
    · rw [runTogether_of_ne hsep, isAscii_cons]
      refine ⟨?_, ih hrest false⟩
      cases capital with
      | true => exact toUpper_ascii hc
      | false => exact hc

/-- The words of a name, run together, are what one pass makes of it. Within a word the pass is in
the state of one that has started already, and its first word is not to be touched any more. -/
theorem flatMap_splitOn {cs : List Char} (h : IsAscii cs) :
    (cs.splitOn '_').flatMap (mapFirst upperChar) = runTogether true cs ∧
      ∀ {word more}, cs.splitOn '_' = word :: more →
        word ++ more.flatMap (mapFirst upperChar) = runTogether false cs := by
  induction cs with
  | nil => simp
  | cons c rest ih =>
    obtain ⟨hc, hrest⟩ := isAscii_cons.mp h
    obtain ⟨hfresh, hstarted⟩ := ih hrest
    by_cases hsep : c = '_'
    · -- An empty word is split off, and the pass starts afresh.
      subst hsep
      rw [List.splitOn_cons_eq_if_modifyHead, if_pos (beq_self_eq_true '_')]
      refine ⟨by simpa using hfresh, ?_⟩
      intro word more hsplit
      obtain ⟨rfl, rfl⟩ := List.cons.inj hsplit
      exact hfresh
    · -- The character belongs to the first word of the rest, where the pass has started.
      obtain ⟨part, more, hpart⟩ := List.exists_cons_of_ne_nil (List.splitOn_ne_nil '_' rest)
      rw [List.splitOn_cons_eq_if_modifyHead, if_neg (mt beq_iff_eq.mp hsep), hpart,
        List.modifyHead_cons, runTogether_of_ne hsep, runTogether_of_ne hsep, ← hstarted hpart]
      refine ⟨by simp [upperChar_ascii hc], ?_⟩
      intro word more' hsplit
      obtain ⟨rfl, rfl⟩ := List.cons.inj hsplit
      simp

theorem pascalCase_eq_runTogether {cs : List Char} (h : IsAscii cs) :
    pascalCase cs = runTogether true cs :=
  (flatMap_splitOn h).1

/-- In camel case only the first character of what one pass makes of a name is changed. -/
theorem camelCase_eq {cs : List Char} (h : IsAscii cs) {c : Char} {rest : List Char}
    (hcs : runTogether true cs = c :: rest) : camelCase cs = c.toLower :: rest := by
  have hc : c.toNat < 128 := by
    have hascii := isAscii_runTogether h true
    rw [hcs] at hascii
    exact (isAscii_cons.mp hascii).1
  rw [camelCase, pascalCase_eq_runTogether h, hcs, mapFirst_cons, lowerChar_ascii hc,
    List.singleton_append]

/-- On an ASCII name that is not made of underscores alone, every rule but `lowercase` gives the key
that the name has by convention. -/
theorem conventional?_eq_some_apply {name : String} (hascii : IsAscii name.toList)
    (hnamed : ∃ c ∈ name.toList, c ≠ '_') {rule : NamingRule} (hrule : rule ≠ lower) :
    conventional? rule name = some (rule.apply name) := by
  have hupper : String.ofList (name.toList.map Char.toUpper) = toUpper name := by
    rw [← toList_toUpper hascii, String.ofList_toList]
  cases rule with
  | lower => exact absurd rfl hrule
  | upper => exact congrArg some hupper
  | screamingSnake => exact congrArg some hupper
  | snake => rfl
  | kebab => rfl
  | pascal =>
    rw [conventional?, apply, pascalCase_eq_runTogether hascii]
  | camel =>
    -- The convention needs a first character, which there is.
    obtain ⟨c, rest, hpass⟩ := List.exists_cons_of_ne_nil (runTogether_ne_nil hnamed true)
    rw [conventional?, hpass, apply, camelCase_eq hascii hpass]

/-- **Rules meet the convention.** On an ASCII name that is not made of underscores alone, every
rule but `lowercase` gives the key that the name has by convention, and `lowercase` gives it just
when there are no capitals in the name. -/
theorem apply_conventional {name : String} (hascii : IsAscii name.toList)
    (hnamed : ∃ c ∈ name.toList, c ≠ '_') :
    (∀ rule, rule ≠ lower → conventional? rule name = some (rule.apply name)) ∧
      (conventional? lower name = some (lower.apply name) ↔
        ∀ c ∈ name.toList, c.isUpper = false) := by
  refine ⟨fun rule hrule => conventional?_eq_some_apply hascii hnamed hrule, ?_⟩
  rw [conventional?, apply, Option.some.injEq, ← String.toList_inj, toList_toLower hascii, eq_comm]
  exact map_toLower_eq_self_iff

/-- Underscores in front, next to each other and at the end, a word that starts with a digit, and a
capital. -/
theorem apply_conventional_sample :
    conventional? camel "__2nd__At_" = some (camel.apply "__2nd__At_") ∧
      conventional? lower "__2nd__At_" ≠ some (lower.apply "__2nd__At_") := by
  have hascii : IsAscii "__2nd__At_".toList := by simp [IsAscii]
  have hnamed : ∃ c ∈ "__2nd__At_".toList, c ≠ '_' := by simp
  have hcapital : ¬ ∀ c ∈ "__2nd__At_".toList, c.isUpper = false := by simp
  obtain ⟨hothers, hlower⟩ := apply_conventional hascii hnamed
  exact ⟨hothers camel (by decide), mt hlower.mp hcapital⟩

end QueryAlgebra.NamingRule
