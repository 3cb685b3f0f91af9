import QueryAlgebra.Proofs.Record.Options

/-!
# Attributes regrouped

The options of a member may be written in one attribute or in many, and those of one family may
stand before, behind or between those of the other. `Spells query stored attributes` says that
attributes, however they are arranged, present the options `query` and `stored`. An arrangement also
decides behind which options an attribute ends, and where a value is missing there the message says
so; otherwise it is the same option (`Setting.placed`).

The faults of all attributes are those of the options (`perm_memberFaults`), only that the
arrangement decides which of them comes first. So options are asked for in every arrangement or in
none (`ofAttributes_spelled`, `ofAttributes_regrouped`), and what they ask for is the same.
-/

namespace QueryAlgebra

/-! ### Options in their places -/

namespace Setting

/-- The option at the end of an attribute, or else before another option. It matters only if a value
is missing there. -/
def placed (atEnd : Bool) : Setting → Setting
  | unassigned name _ => unassigned name atEnd
  | followed s => followed (s.placed atEnd)
  | s => s

/-- Every option is in one of the two places already. -/
theorem placed_eq_self : (s : Setting) → s = s.placed false ∨ s = s.placed true
  | word _ => .inl rfl
  | assigned _ _ => .inl rfl
  | list _ _ => .inl rfl
  | unassigned _ true => .inr rfl
  | unassigned _ false => .inl rfl
  | followed s => (placed_eq_self s).imp (congrArg followed) (congrArg followed)
  | nameless _ => .inl rfl

@[simp] theorem placed_placed (b c : Bool) : (s : Setting) → (s.placed b).placed c = s.placed c
  | word _ => rfl
  | assigned _ _ => rfl
  | list _ _ => rfl
  | unassigned _ _ => rfl
  | followed s => congrArg followed (placed_placed b c s)
  | nameless _ => rfl

/-- An option that differs from another one only in its place is that one in some place. -/
theorem eq_placed_of_placed_eq {s t : Setting} (h : s.placed false = t.placed false) :
    s = t.placed false ∨ s = t.placed true := by
  have hplaced : ∀ b, s.placed b = t.placed b := by
    intro b
    rw [← placed_placed false b s, h, placed_placed]
  rw [← hplaced, ← hplaced]
  exact s.placed_eq_self

@[simp] theorem assigned?_placed (name : String) (b : Bool) (s : Setting) :
    (s.placed b).assigned? name = s.assigned? name := by
  cases s <;> rfl

@[simp] theorem isWord_placed (name : String) (b : Bool) (s : Setting) :
    (s.placed b).isWord name = s.isWord name := by
  cases s <;> rfl

@[simp] theorem name_placed (b : Bool) : (s : Setting) → (s.placed b).name = s.name
  | word _ => rfl
  | assigned _ _ => rfl
  | list _ _ => rfl
  | unassigned _ _ => rfl
  | followed s => s.name_placed b
  | nameless _ => rfl

@[simp] theorem nameFault?_placed (b : Bool) :
    (s : Setting) → (s.placed b).nameFault? = s.nameFault?
  | word _ => rfl
  | assigned _ _ => rfl
  | list _ _ => rfl
  | unassigned _ _ => rfl
  | followed s => s.nameFault?_placed b
  | nameless _ => rfl

@[simp] theorem aloneFault?_placed (b : Bool) (s : Setting) :
    (s.placed b).aloneFault? = s.aloneFault? := by
  cases s <;> rfl

@[simp] theorem endFault?_placed (b : Bool) (s : Setting) :
    (s.placed b).endFault? = s.endFault? := by
  cases s <;> rfl

@[simp] theorem isSome_valueFault?_placed (b : Bool) :
    (s : Setting) → (s.placed b).valueFault?.isSome = s.valueFault?.isSome
  | word _ => rfl
  | assigned _ _ => rfl
  | list _ _ => rfl
  | unassigned _ c => by cases b <;> cases c <;> rfl
  | followed s => s.isSome_valueFault?_placed b
  | nameless _ => rfl

@[simp] theorem isSome_textFault?_placed (b : Bool) :
    (s : Setting) → (s.placed b).textFault?.isSome = s.textFault?.isSome
  | word _ => rfl
  | assigned _ _ => rfl
  | list _ _ => rfl
  | unassigned _ c => by cases b <;> cases c <;> rfl
  | followed s => s.isSome_textFault?_placed b
  | nameless _ => rfl

@[simp] theorem isSome_ignoredFault?_placed (b : Bool) :
    (s : Setting) → (s.placed b).ignoredFault?.isSome = s.ignoredFault?.isSome
  | word _ => rfl
  | assigned _ _ => rfl
  | list _ _ => rfl
  | unassigned _ c => by cases b <;> cases c <;> rfl
  | followed s => s.isSome_ignoredFault?_placed b
  | nameless _ => rfl

/-- Whether an option of the `query` family is at fault does not depend on its place. -/
theorem isSome_queryFault?_placed (b : Bool) (s : Setting) :
    (s.placed b).queryFault?.isSome = s.queryFault?.isSome := by
  unfold queryFault?
  rw [nameFault?_placed, name_placed, aloneFault?_placed]
  split <;> simp

/-- Whether an option of the `serde` family is at fault does not depend on its place. -/
theorem isSome_storedFault?_placed (b : Bool) (s : Setting) :
    (s.placed b).storedFault?.isSome = s.storedFault?.isSome := by
  unfold storedFault?
  rw [nameFault?_placed, name_placed, aloneFault?_placed]
  split
  · simp
  · split <;> simp

end Setting

/-- All that can be wrong with options, wherever in attributes they stand. -/
def faultsIn (fault : Setting → Option DeclarationError) (options : List Setting) :
    List DeclarationError :=
  options.flatMap fun s => [s.placed false, s.placed true].filterMap fault

section Places

variable {fault : Setting → Option DeclarationError} {options written : List Setting}

/-- The option that is written where an option is found in an arrangement. -/
theorem exists_mem_of_map_placed_eq
    (h : written.map (Setting.placed false) = options.map (Setting.placed false)) {s : Setting}
    (hs : s ∈ written) : ∃ t ∈ options, s = t.placed false ∨ s = t.placed true := by
  have hmem : s.placed false ∈ options.map (Setting.placed false) := by
    rw [← h]
    exact List.mem_map_of_mem hs
  obtain ⟨t, ht, hplaced⟩ := List.mem_map.mp hmem
  exact ⟨t, ht, Setting.eq_placed_of_placed_eq hplaced.symm⟩

/-- What is wrong with options in an arrangement can be wrong with them. -/
theorem mem_faultsIn
    (h : written.map (Setting.placed false) = options.map (Setting.placed false))
    {e : DeclarationError} (he : e ∈ written.filterMap fault) : e ∈ faultsIn fault options := by
  obtain ⟨s, hs, hfault⟩ := List.mem_filterMap.mp he
  obtain ⟨t, ht, hplace⟩ := exists_mem_of_map_placed_eq h hs
  refine List.mem_flatMap.mpr ⟨t, ht, List.mem_filterMap.mpr ⟨s, ?_, hfault⟩⟩
  rcases hplace with rfl | rfl
  · exact List.mem_cons_self
  · exact List.mem_cons_of_mem _ List.mem_cons_self

/-- If nothing is wrong with options in an arrangement, nothing can be. -/
theorem faultsIn_eq_nil (hplace : ∀ b s, (fault (s.placed b)).isSome = (fault s).isSome)
    (h : written.map (Setting.placed false) = options.map (Setting.placed false))
    (hnone : written.filterMap fault = []) : faultsIn fault options = [] := by
  rw [faultsIn, List.flatMap_eq_nil_iff]
  intro t ht
  -- The option is there in the arrangement, in one of its places, and without a fault.
  obtain ⟨s, hs, hst⟩ := exists_mem_of_map_placed_eq h.symm ht
  have hfault : ∀ b, fault (t.placed b) = none := by
    intro b
    have hs' : (fault s).isSome = false := by
      rw [List.filterMap_eq_nil_iff.mp hnone s hs]
      rfl
    rw [← Option.isNone_iff_eq_none, ← Option.isSome_eq_false_iff, hplace]
    rcases hst with rfl | rfl
    · rw [hplace, hs']
    · rw [hplace, hs']
  rw [List.filterMap_cons_none (hfault false), List.filterMap_cons_none (hfault true),
    List.filterMap_nil]

end Places

/-! ### Attributes and the options they present -/

/-- An attribute of one of the two families has its options in parentheses. One of another family
may have any form. -/
def Attribute.InListForm (a : Attribute) : Prop :=
  a.name = "query" ∨ a.name = "serde" → ∃ settings, a.body = .list settings

/-- Attributes present the options of two families: the options of each family are the given ones in
their order, but for the places where attributes end. What attributes of other families there are,
and where, is left open. -/
structure Spells (query stored : List Setting) (attributes : List Attribute) : Prop where
  inListForm : ∀ a ∈ attributes, a.InListForm
  query_eq : (optionsOf "query" attributes).map (Setting.placed false) =
    query.map (Setting.placed false)
  stored_eq : (optionsOf "serde" attributes).map (Setting.placed false) =
    stored.map (Setting.placed false)

/-- All that can be wrong with options of the two families. -/
def faultsOf (query stored : List Setting) : List DeclarationError :=
  faultsIn Setting.queryFault? query ++ faultsIn Setting.storedFault? stored

namespace Attribute

/-- All that is wrong with the options in an attribute of a member. -/
def memberFaults (a : Attribute) : List DeclarationError :=
  if a.name = "query" then a.options.filterMap Setting.queryFault?
  else if a.name = "serde" then a.options.filterMap Setting.storedFault?
  else []

/-- The fault of an attribute in the right form is the first one of its options. -/
theorem memberFault?_eq_head? {a : Attribute} (h : a.InListForm) :
    a.memberFault? = a.memberFaults.head? := by
  have hform : a.name = "query" ∨ a.name = "serde" → a.formFault? = none := by
    intro hfamily
    obtain ⟨settings, hbody⟩ := h hfamily
    unfold formFault?
    rw [hbody]
  unfold memberFault? memberFaults
  by_cases hquery : a.name = "query"
  · rw [if_pos hquery, if_pos hquery, firstFault?, hform (.inl hquery), Option.none_or,
      List.head?_filterMap]
  rw [if_neg hquery, if_neg hquery]
  by_cases hserde : a.name = "serde"
  · rw [if_pos hserde, if_pos hserde, firstFault?, hform (.inr hserde), Option.none_or,
      List.head?_filterMap]
  · rw [if_neg hserde, if_neg hserde]
    rfl

end Attribute

/-- Attributes have the faults of their options, in an order of their own. -/
theorem perm_memberFaults (attributes : List Attribute) :
    (attributes.flatMap Attribute.memberFaults).Perm
      ((optionsOf "query" attributes).filterMap Setting.queryFault? ++
        (optionsOf "serde" attributes).filterMap Setting.storedFault?) := by
  induction attributes with
  | nil => exact List.Perm.refl []
  | cons a rest ih =>
    rw [List.flatMap_cons, optionsOf_cons, optionsOf_cons]
    unfold Attribute.memberFaults
    by_cases hquery : a.name = "query"
    · have hserde : ¬ a.name = "serde" := by rw [hquery]; decide
      -- Its faults come before all others on both sides.
      rw [if_pos hquery, if_pos hquery, if_neg hserde, List.nil_append, List.filterMap_append,
        List.append_assoc]
      exact ih.append_left _
    rw [if_neg hquery, if_neg hquery, List.nil_append]
    by_cases hserde : a.name = "serde"
    · -- Its faults have to be moved past those of the other family.
      rw [if_pos hserde, if_pos hserde, List.filterMap_append]
      exact (ih.append_left _).trans (List.perm_append_comm_assoc _ _ _)
    · rw [if_neg hserde, if_neg hserde, List.nil_append, List.nil_append]
      exact ih

/-- The first fault of attributes in the right form is the first of all their faults. -/
theorem findSome?_memberFault? {attributes : List Attribute}
    (h : ∀ a ∈ attributes, a.InListForm) :
    attributes.findSome? Attribute.memberFault? =
      (attributes.flatMap Attribute.memberFaults).head? := by
  induction attributes with
  | nil => rfl
  | cons a rest ih =>
    obtain ⟨ha, hrest⟩ := List.forall_mem_cons.mp h
    rw [List.findSome?_cons, Attribute.memberFault?_eq_head? ha, ih hrest, List.flatMap_cons,
      List.head?_append]
    cases a.memberFaults.head? <;> rfl

namespace MemberOptions

variable {query stored : List Setting}

/-- What is asked for does not depend on the places of options. -/
theorem asked_map_placed (query stored : List Setting) :
    asked (query.map (Setting.placed false)) (stored.map (Setting.placed false)) =
      asked query stored := by
  simp [asked, List.filterMap_map, List.any_map, Function.comp_def]

/-- Attributes ask for what is asked of the options they present, or end with a fault of these. -/
theorem ofAttributes_spelled {attributes : List Attribute} (h : Spells query stored attributes) :
    (faultsOf query stored = [] ∧ ofAttributes attributes = .ok (asked query stored)) ∨
      ∃ e ∈ faultsOf query stored, ofAttributes attributes = .error e := by
  have hperm := perm_memberFaults attributes
  have hasked : asked (optionsOf "query" attributes) (optionsOf "serde" attributes) =
      asked query stored := by
    rw [← asked_map_placed, h.query_eq, h.stored_eq, asked_map_placed]
  rw [ofAttributes_eq, findSome?_memberFault? h.inListForm, hasked]
  cases hfaults : attributes.flatMap Attribute.memberFaults with
  | nil =>
    rw [hfaults] at hperm
    obtain ⟨hquery, hstored⟩ := List.append_eq_nil_iff.mp hperm.symm.eq_nil
    have hnone : faultsOf query stored = [] := by
      rw [faultsOf, faultsIn_eq_nil Setting.isSome_queryFault?_placed h.query_eq hquery,
        faultsIn_eq_nil Setting.isSome_storedFault?_placed h.stored_eq hstored, List.append_nil]
    exact .inl ⟨hnone, rfl⟩
  | cons e rest =>
    rw [hfaults] at hperm
    refine .inr ⟨e, ?_, rfl⟩
    rw [faultsOf, List.mem_append]
    exact (List.mem_append.mp (hperm.subset List.mem_cons_self)).imp (mem_faultsIn h.query_eq)
      (mem_faultsIn h.stored_eq)

/-- **The grouping of options does not matter.** However two lists of attributes present the same
options, both ask for the same, or both end with one of the faults of the options. -/
theorem ofAttributes_regrouped {attributes attributes' : List Attribute}
    (h : Spells query stored attributes) (h' : Spells query stored attributes') :
    (ofAttributes attributes = .ok (asked query stored) ∧
        ofAttributes attributes' = .ok (asked query stored)) ∨
      ∃ e ∈ faultsOf query stored, ∃ e' ∈ faultsOf query stored,
        ofAttributes attributes = .error e ∧ ofAttributes attributes' = .error e' := by
  rcases ofAttributes_spelled h with ⟨hnone, hok⟩ | ⟨e, he, herror⟩
  · rcases ofAttributes_spelled h' with ⟨-, hok'⟩ | ⟨e', he', -⟩
    · exact .inl ⟨hok, hok'⟩
    · -- Where one list ends well there is no fault for the other to end with.
      rw [hnone] at he'
      exact absurd he' List.not_mem_nil
  · rcases ofAttributes_spelled h' with ⟨hnone', -⟩ | ⟨e', he', herror'⟩
    · rw [hnone'] at he
      exact absurd he List.not_mem_nil
    · exact .inr ⟨e, he, e', he', herror, herror'⟩

/-- Options of both families in one attribute each, and spread over four with a further one between
them. -/
theorem ofAttributes_regrouped_sample :
    ofAttributes [⟨"query", .list [.assigned "rename" (.text "unit"), .word "nested"]⟩,
        ⟨"serde", .list [.word "default", .word "skip"]⟩] =
      ofAttributes [⟨"serde", .list [.word "default"]⟩, ⟨"query", .list []⟩,
        ⟨"serde", .list [.word "skip"]⟩, ⟨"doc", .assigned (.text "The unit.")⟩,
        ⟨"query", .list [.assigned "rename" (.text "unit"), .word "nested"]⟩] := by
  have hjoined : Spells [.assigned "rename" (.text "unit"), .word "nested"]
      [.word "default", .word "skip"]
      [⟨"query", .list [.assigned "rename" (.text "unit"), .word "nested"]⟩,
        ⟨"serde", .list [.word "default", .word "skip"]⟩] :=
    ⟨by simp [Attribute.InListForm], rfl, rfl⟩
  have hspread : Spells [.assigned "rename" (.text "unit"), .word "nested"]
      [.word "default", .word "skip"]
      [⟨"serde", .list [.word "default"]⟩, ⟨"query", .list []⟩,
        ⟨"serde", .list [.word "skip"]⟩, ⟨"doc", .assigned (.text "The unit.")⟩,
        ⟨"query", .list [.assigned "rename" (.text "unit"), .word "nested"]⟩] :=
    ⟨by simp [Attribute.InListForm], rfl, rfl⟩
  rcases ofAttributes_regrouped hjoined hspread with ⟨hok, hok'⟩ | ⟨e, he, -⟩
  · rw [hok, hok']
  · exact absurd he List.not_mem_nil

/-- Which fault ends the reading is for the arrangement to decide. -/
example :
    ofAttributes [⟨"query", .list [.word "flatten"]⟩, ⟨"serde", .list [.list "skip" []]⟩] =
        .error .unknownOption ∧
      ofAttributes [⟨"serde", .list [.list "skip" []]⟩, ⟨"query", .list [.word "flatten"]⟩] =
        .error .expectedComma :=
  ⟨rfl, rfl⟩

end MemberOptions

end QueryAlgebra
