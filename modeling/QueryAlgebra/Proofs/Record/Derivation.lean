import QueryAlgebra.Proofs.Record.Member

/-!
# What a declaration yields

The derivation of a set of handles looks at the parameters of a declaration, its shape, the
attributes of the record and those of its members, in this order, and stops at the first thing that
is wrong. `Declaration.Yields` has one case for each way that this ends. Every declaration ends in
exactly one of them, and it is the one that the derivation ends in (`derive_eq_iff_yields`).

* `OutlineOf` — the members of the set, one for each member of the record that is not left out.
* `StatesRule` — the naming rule that the attributes of the record state, if they state one.
-/

namespace QueryAlgebra

/-! ### The members of a record -/

/-- What the members of the set are for the members of a record: each that is not left out has one,
in the same order. -/
inductive OutlineOf (rule : Option NamingRule) : List DeclaredMember → List OutlineMember → Prop
  | nil : OutlineOf rule [] []
  | leftOut {m : DeclaredMember} {rest : List DeclaredMember} {outlines : List OutlineMember}
      (hm : m.LeftOut) (hrest : OutlineOf rule rest outlines) : OutlineOf rule (m :: rest) outlines
  | kept {m : DeclaredMember} {rest : List DeclaredMember} {o : OutlineMember}
      {outlines : List OutlineMember} (hm : ¬ m.LeftOut) (ho : m.Outlines rule o)
      (hrest : OutlineOf rule rest outlines) : OutlineOf rule (m :: rest) (o :: outlines)

/-- The members of the set, as they are computed. -/
def outlinesOf (rule : Option NamingRule) (members : List DeclaredMember) : List OutlineMember :=
  (members.map fun m => if m.asked.skip then none else some (m.outline rule)).filterMap id

theorem outlinesOf_cons_of_leftOut {rule : Option NamingRule} {m : DeclaredMember}
    (h : m.LeftOut) (rest : List DeclaredMember) :
    outlinesOf rule (m :: rest) = outlinesOf rule rest := by
  simp [outlinesOf, DeclaredMember.skip_asked_iff.mpr h]

theorem outlinesOf_cons_of_not_leftOut {rule : Option NamingRule} {m : DeclaredMember}
    (h : ¬ m.LeftOut) (rest : List DeclaredMember) :
    outlinesOf rule (m :: rest) = m.outline rule :: outlinesOf rule rest := by
  simp [outlinesOf, Bool.eq_false_iff.mpr (mt DeclaredMember.skip_asked_iff.mp h)]

theorem outlinesOf_eq_iff {rule : Option NamingRule} {members : List DeclaredMember}
    {outlines : List OutlineMember} :
    outlinesOf rule members = outlines ↔ OutlineOf rule members outlines := by
  constructor
  · rintro rfl
    induction members with
    | nil => exact .nil
    | cons m rest ih =>
      by_cases h : m.LeftOut
      · rw [outlinesOf_cons_of_leftOut h]
        exact .leftOut h ih
      · rw [outlinesOf_cons_of_not_leftOut h]
        exact .kept h (DeclaredMember.outlines_iff.mp rfl) ih
  · intro h
    induction h with
    | nil => rfl
    | leftOut hm hrest ih => rw [outlinesOf_cons_of_leftOut hm, ih]
    | kept hm ho hrest ih =>
      rw [outlinesOf_cons_of_not_leftOut hm, DeclaredMember.outlines_iff.mpr ho, ih]

/-! ### The rule of a record -/

/-- The rule that the attributes of a record state: the one by the last name that they give, if they
give any. -/
def StatesRule (attributes : List Attribute) : Option NamingRule → Prop
  | none => ∀ t, .assigned "rename_all" (.text t) ∉ optionsOf "serde" attributes
  | some rule =>
    ∃ name, LastAssigned "rename_all" (optionsOf "serde" attributes) name ∧
      (name, rule) ∈ namedRules

/-- Where every text has a value, the value of the last one is the last value. -/
theorem getLast?_filterMap_of_ne_none {α β : Type} {f : α → Option β} {items : List α}
    (h : ∀ a ∈ items, f a ≠ none) : (items.filterMap f).getLast? = items.getLast?.bind f := by
  induction items using List.reverseRecOn with
  | nil => rfl
  | append_singleton items a _ =>
    obtain ⟨b, hb⟩ := Option.ne_none_iff_exists'.mp (h a (by simp))
    simp [hb]

/-- A record without a fault gives only names of rules. -/
theorem ofName?_ne_none_of_assigned {attributes : List Attribute}
    (h : recordFault? attributes = none) {name : String}
    (hname : Setting.assigned "rename_all" (.text name) ∈ optionsOf "serde" attributes) :
    NamingRule.ofName? name ≠ none := by
  obtain ⟨a, ha, hs⟩ := List.mem_flatMap.mp hname
  have hfault : a.firstFault? Setting.recordFault? = none := List.findSome?_eq_none_iff.mp h a ha
  have hoption := List.findSome?_eq_none_iff.mp (Option.or_eq_none_iff.mp hfault).2 _ hs
  intro hnone
  rw [NamingRule.ofName?_eq_none_iff] at hnone
  simp [Setting.recordFault?, Setting.nameFault?, Setting.name, Setting.valueFault?,
    Setting.ruleFault?, Setting.endFault?, hnone] at hoption

theorem askedRule_eq_iff {attributes : List Attribute} (h : recordFault? attributes = none)
    {rule : Option NamingRule} :
    askedRule (optionsOf "serde" attributes) = rule ↔ StatesRule attributes rule := by
  have hnames : ∀ name ∈ (optionsOf "serde" attributes).filterMap (Setting.assigned? "rename_all"),
      NamingRule.ofName? name ≠ none := by
    intro name hname
    obtain ⟨s, hs, hassigned⟩ := List.mem_filterMap.mp hname
    rw [Setting.assigned?_eq_some_iff.mp hassigned] at hs
    exact ofName?_ne_none_of_assigned h hs
  have hasked : askedRule (optionsOf "serde" attributes) =
      ((optionsOf "serde" attributes).filterMap (Setting.assigned? "rename_all")).getLast?.bind
        NamingRule.ofName? := by
    rw [← getLast?_filterMap_of_ne_none hnames, List.filterMap_filterMap]
    rfl
  rw [hasked]
  cases rule with
  | none =>
    rw [StatesRule, ← getLast?_assigned_eq_none_iff]
    constructor
    · intro hnone
      rw [Option.eq_none_iff_forall_ne_some]
      intro name hname
      rw [hname, Option.bind_some] at hnone
      exact hnames name (List.mem_of_getLast? hname) hnone
    · intro hnone
      rw [hnone, Option.bind_none]
  | some rule =>
    rw [StatesRule, Option.bind_eq_some_iff]
    exact exists_congr fun name =>
      and_congr getLast?_assigned_eq_some_iff NamingRule.ofName?_eq_some_iff

/-! ### The declaration -/

/-- The members that a shape has: only those of a record are named. -/
def DeclarationBody.members : DeclarationBody → Except DeclarationError (List DeclaredMember)
  | .record members => .ok members
  | .tuple | .unit => .error .unnamedMembers
  | .enumeration | .union => .error .notARecord

namespace Declaration

/-- A declaration with a parameter for a type. -/
def HasTypeParameter (d : Declaration) : Prop :=
  ∃ name, Parameter.type name ∈ d.parameters

/-- How the derivation for a declaration ends: with the first thing that is wrong, or with the
members that are not left out. -/
inductive Yields (d : Declaration) : Except DeclarationError (List OutlineMember) → Prop
  /-- A parameter for a type, whatever else is declared. -/
  | typeParameters (hparameter : d.HasTypeParameter) : Yields d (.error .typeParameters)
  /-- Not a record at all. -/
  | notARecord (hfixed : ¬ d.HasTypeParameter)
      (hbody : d.body = .enumeration ∨ d.body = .union) : Yields d (.error .notARecord)
  /-- A record whose members have no names. -/
  | unnamedMembers (hfixed : ¬ d.HasTypeParameter)
      (hbody : d.body = .tuple ∨ d.body = .unit) : Yields d (.error .unnamedMembers)
  /-- The first fault in the attributes of the record. -/
  | recordFault {members : List DeclaredMember} {e : DeclarationError}
      (hfixed : ¬ d.HasTypeParameter) (hbody : d.body = .record members)
      (hfault : recordFault? d.attributes = some e) : Yields d (.error e)
  /-- The fault of the first member that has one. -/
  | memberFault {members : List DeclaredMember} {e : DeclarationError}
      (hfixed : ¬ d.HasTypeParameter) (hbody : d.body = .record members)
      (hrecord : recordFault? d.attributes = none)
      (hfault : members.findSome? DeclaredMember.fault? = some e) : Yields d (.error e)
  /-- Nothing is wrong. -/
  | outline {members : List DeclaredMember} {rule : Option NamingRule}
      {outlines : List OutlineMember}
      (hfixed : ¬ d.HasTypeParameter) (hbody : d.body = .record members)
      (hrecord : recordFault? d.attributes = none)
      (hmembers : ∀ m ∈ members, m.fault? = none) (hrule : StatesRule d.attributes rule)
      (houtlines : OutlineOf rule members outlines) : Yields d (.ok outlines)

theorem any_parameters_iff (d : Declaration) :
    (d.parameters.any fun p => p matches .type _) = true ↔ d.HasTypeParameter := by
  rw [List.any_eq_true]
  constructor
  · rintro ⟨p, hp, htype⟩
    cases p with
    | type name => exact ⟨name, hp⟩
    | lifetime name => cases htype
    | const name => cases htype
  · rintro ⟨name, hp⟩
    exact ⟨_, hp, rfl⟩

theorem members_of_typeParameter {d : Declaration} (h : d.HasTypeParameter) :
    d.members = .error .typeParameters :=
  if_pos (d.any_parameters_iff.mpr h)

/-- Without a type parameter, only the shape of a declaration counts. -/
theorem members_of_fixed {d : Declaration} {body : DeclarationBody}
    (hfixed : ¬ d.HasTypeParameter) (hbody : d.body = body) : d.members = body.members := by
  refine (if_neg (mt d.any_parameters_iff.mp hfixed)).trans ?_
  rw [hbody]
  cases body <;> rfl

/-- The members of the set for a record: the faults of the record come first, then those of the
members. -/
theorem derive_of_members {d : Declaration} {members : List DeclaredMember}
    (h : d.members = .ok members) :
    d.derive.map FieldSetOutline.members =
      unlessFault ((recordFault? d.attributes).or (members.findSome? DeclaredMember.fault?))
        (outlinesOf (askedRule (optionsOf "serde" d.attributes)) members) := by
  unfold Declaration.derive
  rw [h, namingRule_eq]
  have hmembers := mapM_of_step
    (DeclaredMember.derive_eq (askedRule (optionsOf "serde" d.attributes))) members
  cases recordFault? d.attributes with
  | some e => rfl
  | none =>
    change Except.map _ (members.mapM _ >>= _) = _
    rw [hmembers, Option.none_or]
    cases members.findSome? DeclaredMember.fault? <;> rfl

/-- An error in the members of a declaration is one of the derivation. -/
theorem derive_of_error {d : Declaration} {e : DeclarationError} (h : d.members = .error e) :
    d.derive.map FieldSetOutline.members = .error e := by
  unfold Declaration.derive
  rw [h]
  rfl

theorem Yields.derive_eq {d : Declaration} {r : Except DeclarationError (List OutlineMember)}
    (h : d.Yields r) : d.derive.map FieldSetOutline.members = r := by
  cases h with
  | typeParameters hparameter =>
    exact derive_of_error (members_of_typeParameter hparameter)
  | notARecord hfixed hbody =>
    rcases hbody with hbody | hbody
    · exact derive_of_error (members_of_fixed hfixed hbody)
    · exact derive_of_error (members_of_fixed hfixed hbody)
  | unnamedMembers hfixed hbody =>
    rcases hbody with hbody | hbody
    · exact derive_of_error (members_of_fixed hfixed hbody)
    · exact derive_of_error (members_of_fixed hfixed hbody)
  | recordFault hfixed hbody hfault =>
    rw [derive_of_members (members_of_fixed hfixed hbody), hfault]
    rfl
  | memberFault hfixed hbody hrecord hfault =>
    rw [derive_of_members (members_of_fixed hfixed hbody), hrecord, hfault]
    rfl
  | outline hfixed hbody hrecord hmembers hrule houtlines =>
    rw [derive_of_members (members_of_fixed hfixed hbody), hrecord,
      List.findSome?_eq_none_iff.mpr hmembers, (askedRule_eq_iff hrecord).mpr hrule,
      outlinesOf_eq_iff.mpr houtlines]
    rfl

/-- There is always something to yield. -/
theorem exists_yields (d : Declaration) : ∃ r, d.Yields r := by
  by_cases hparameter : d.HasTypeParameter
  · exact ⟨_, .typeParameters hparameter⟩
  cases hbody : d.body with
  | enumeration => exact ⟨_, .notARecord hparameter (.inl hbody)⟩
  | union => exact ⟨_, .notARecord hparameter (.inr hbody)⟩
  | tuple => exact ⟨_, .unnamedMembers hparameter (.inl hbody)⟩
  | unit => exact ⟨_, .unnamedMembers hparameter (.inr hbody)⟩
  | record members =>
    cases hrecord : recordFault? d.attributes with
    | some e => exact ⟨_, .recordFault hparameter hbody hrecord⟩
    | none =>
      cases hmembers : members.findSome? DeclaredMember.fault? with
      | some e => exact ⟨_, .memberFault hparameter hbody hrecord hmembers⟩
      | none =>
        exact ⟨_, .outline hparameter hbody hrecord (List.findSome?_eq_none_iff.mp hmembers)
          ((askedRule_eq_iff hrecord).mp rfl) (outlinesOf_eq_iff.mp rfl)⟩

end Declaration

/-- **What is derived is what is yielded.** The derivation for a declaration succeeds or fails as
`Declaration.Yields` says, and nothing else is yielded. -/
theorem derive_eq_iff_yields (d : Declaration)
    (r : Except DeclarationError (List OutlineMember)) :
    d.derive.map FieldSetOutline.members = r ↔ d.Yields r := by
  constructor
  · intro h
    obtain ⟨r', hr'⟩ := d.exists_yields
    rw [hr'.derive_eq] at h
    exact h ▸ hr'
  · exact Declaration.Yields.derive_eq

/-- A rule that is not supported is not made good by a later one that is, and an option without a
bearing on keys has to be well-formed all the same. -/
example (members : List DeclaredMember) :
    (Declaration.derive
        { name := "Listing", visibility := "pub", parameters := [.lifetime "a"]
          attributes := [⟨"serde", .list [.assigned "rename_all" (.text "Train-Case")]⟩,
            ⟨"serde", .list [.assigned "rename_all" (.text "camelCase")]⟩]
          body := .record members }).map FieldSetOutline.members = .error .unsupportedRule ∧
      (Declaration.derive
        { name := "Listing", visibility := "pub", parameters := []
          attributes := [⟨"serde", .list [.word "transparent", .unassigned "default" true]⟩]
          body := .record members }).map FieldSetOutline.members =
        .error (.unexpectedEnd .expectedExpression) :=
  ⟨rfl, rfl⟩

end QueryAlgebra
