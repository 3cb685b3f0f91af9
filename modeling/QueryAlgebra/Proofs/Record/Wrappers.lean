import QueryAlgebra.Proofs.Text.Joined
import QueryAlgebra.Record.Declaration

/-!
# Wrapped types

A member may be optional, boxed or a reference, and it is queried in the same way as one that is
not. A `Wrapper` is what stands around a type then, and `t.within stack` is the type `t` within a
stack of wrappers, the first one outermost. Every type comes about in this way from a bare one,
which is what it leaves without its wrappers (`TypeExpr.Leaves`, `TypeExpr.exists_leaves`).

The classification of types looks for sequences and for records with two searches that take
wrappers off, the first one all of them and the second one all but references. What one wrapper does
to a search (`TypeExpr.sequenceElement?_around`, `TypeExpr.unwrapped_around`) tells what a stack
does, and what the searches end with is seen where the type is bare (`TypeExpr.IsBare`). So no stack
changes how a member is classified (`kind_within`).
-/

namespace QueryAlgebra

open Text

/-! ### The last segment of a name -/

/-- A text that could be a segment of a name: there are no colons and no blanks in it. -/
def IsSegment (part : String) : Prop :=
  ∀ c ∈ part.toList, c ≠ ':' ∧ c.isWhitespace = false

/-- What stands behind the last colon, or all if there is none. -/
theorem takeWhile_ne_colon {before cs : List Char} (hcs : ∀ c ∈ cs, c ≠ ':')
    (hbefore : before.reverse.takeWhile (· != ':') = []) :
    ((before ++ cs).reverse.takeWhile (· != ':')).reverse = cs := by
  have hpos : ∀ c ∈ cs.reverse, (c != ':') = true := by
    intro c hc
    exact bne_iff_ne.mpr (hcs c (List.mem_reverse.mp hc))
  rw [List.reverse_append, List.takeWhile_append_of_pos hpos, hbefore, List.append_nil,
    List.reverse_reverse]

/-- Only the last segment of a name counts, whatever modules it is found in. -/
theorem lastSegment_path (modules : List String) {part : String} (h : IsSegment part) :
    lastSegment ("::".intercalate (modules ++ [part])) = part := by
  have hblanks : part.toList.filter (fun c => !c.isWhitespace) = part.toList := by
    rw [List.filter_eq_self]
    intro c hc
    rw [(h c hc).2]
    rfl
  have hcolons : ∀ c ∈ part.toList, c ≠ ':' := fun c hc => (h c hc).1
  unfold lastSegment withoutBlanks
  rw [String.toList_ofList, ← String.toList_inj, String.toList_ofList]
  by_cases hmodules : modules = []
  · -- There is no colon at all.
    rw [hmodules, List.nil_append, String.intercalate_singleton, hblanks]
    have hnothing : ([] : List Char).reverse.takeWhile (· != ':') = [] := rfl
    exact takeWhile_ne_colon hcolons hnothing
  · -- The last colon is the one that the modules are joined with to the segment.
    rw [String.intercalate_append_of_ne_nil hmodules (List.cons_ne_nil _ []),
      String.intercalate_singleton, String.toList_append, List.filter_append, hblanks]
    refine takeWhile_ne_colon hcolons ?_
    simp [String.toList_append, List.filter_append]

/-! ### Wrappers -/

/-- What stands around a type without a bearing on how a member of it is queried. -/
inductive Wrapper where
  /-- An optional or boxed value, under any name with the right last segment. The type within is the
  first one between the brackets. -/
  | holder (name : String) (hname : lastSegment name = "Option" ∨ lastSegment name = "Box")
      (lifetimes : List String) (more : List TypeArgument)
  | reference (lifetime : Option String)

namespace Wrapper

/-- The type with this wrapper around it. -/
def around : Wrapper → TypeExpr → TypeExpr
  | .holder name _ lifetimes more, t =>
    .named name (some (lifetimes.map .lifetime ++ .type t :: more))
  | .reference lifetime, t => .reference lifetime t

/-- Whether the wrapper is a reference. -/
def IsReference : Wrapper → Prop
  | .holder .. => False
  | .reference _ => True

/-- An optional value, by a name in some module. -/
def optional (modules : List String) : Wrapper :=
  .holder ("::".intercalate (modules ++ ["Option"]))
    (.inl (lastSegment_path modules (by simp [IsSegment]))) [] []

/-- A boxed value, by a name in some module. -/
def boxed (modules : List String) : Wrapper :=
  .holder ("::".intercalate (modules ++ ["Box"]))
    (.inr (lastSegment_path modules (by simp [IsSegment]))) [] []

end Wrapper

theorem isWrapperName_iff {name : String} :
    isWrapperName name = true ↔ lastSegment name = "Option" ∨ lastSegment name = "Box" := by
  simp [isWrapperName]

theorem isSequenceName_iff {name : String} :
    isSequenceName name = true ↔
      lastSegment name ∈ ["Vec", "VecDeque", "HashSet", "BTreeSet", "LinkedList"] := by
  rw [isSequenceName, List.contains_iff_mem]

/-- No name is that of a wrapper and of a sequence. -/
theorem isSequenceName_of_isWrapperName {name : String} (h : isWrapperName name = true) :
    isSequenceName name = false := by
  unfold isSequenceName
  rcases isWrapperName_iff.mp h with hoption | hbox
  · rw [hoption]
    decide
  · rw [hbox]
    decide

/-! ### Arguments -/

section Arguments

variable {lifetimes : List String} {t : TypeExpr} {more arguments : List TypeArgument}

@[simp] theorem firstType?_lifetimes :
    firstType? (lifetimes.map .lifetime ++ .type t :: more) = some t := by
  induction lifetimes with
  | nil => rfl
  | cons lifetime rest ih => exact ih

/-- The first type among arguments has only lifetimes before it. -/
theorem exists_lifetimes (h : firstType? arguments = some t) :
    ∃ (lifetimes : List String) (more : List TypeArgument),
      arguments = lifetimes.map .lifetime ++ .type t :: more := by
  induction arguments with
  | nil => exact absurd h (by simp [firstType?])
  | cons a rest ih =>
    cases a with
    | type t' =>
      obtain rfl : t' = t := Option.some.inj h
      exact ⟨[], rest, rfl⟩
    | lifetime name =>
      obtain ⟨lifetimes, more, rfl⟩ := ih h
      exact ⟨name :: lifetimes, more, rfl⟩

theorem isSome_firstType?_iff :
    (firstType? arguments).isSome = true ↔ ∃ t, TypeArgument.type t ∈ arguments := by
  induction arguments with
  | nil => simp [firstType?]
  | cons a rest ih =>
    cases a with
    | type t => exact iff_of_true rfl ⟨t, List.mem_cons_self⟩
    | lifetime name => simpa [firstType?] using ih

theorem elementOfArgument?_eq (arguments : List TypeArgument) :
    elementOfArgument? arguments = (firstType? arguments).bind TypeExpr.sequenceElement? := by
  induction arguments with
  | nil => rfl
  | cons a rest ih =>
    cases a with
    | type t => rfl
    | lifetime name => exact ih

theorem unwrappedArgument?_eq (arguments : List TypeArgument) :
    unwrappedArgument? arguments = (firstType? arguments).map TypeExpr.unwrapped := by
  induction arguments with
  | nil => rfl
  | cons a rest ih =>
    cases a with
    | type t => rfl
    | lifetime name => exact ih

end Arguments

/-! ### Stacks of wrappers -/

namespace TypeExpr

/-- The type within a stack of wrappers, the first one outermost. -/
def within (t : TypeExpr) (stack : List Wrapper) : TypeExpr :=
  stack.foldr Wrapper.around t

@[simp] theorem within_nil (t : TypeExpr) : t.within [] = t := rfl

@[simp] theorem within_cons (t : TypeExpr) (w : Wrapper) (stack : List Wrapper) :
    t.within (w :: stack) = w.around (t.within stack) := rfl

/-- A type with no wrapper around it. -/
def IsBare (t : TypeExpr) : Prop :=
  ∀ w inner, t ≠ Wrapper.around w inner

/-- The type that is left when all wrappers around a type have been taken off. -/
def Leaves (t core : TypeExpr) : Prop :=
  core.IsBare ∧ ∃ stack, t = core.within stack

/-- An array, a slice, or one of the named sequences with a type between its brackets. -/
inductive IsSequence : TypeExpr → Prop
  | array (element : TypeExpr) (length : Nat) : IsSequence (.array element length)
  | slice (element : TypeExpr) : IsSequence (.slice element)
  | named {name : String} {arguments : List TypeArgument} {element : TypeExpr}
      (hname : lastSegment name ∈ ["Vec", "VecDeque", "HashSet", "BTreeSet", "LinkedList"])
      (helement : .type element ∈ arguments) : IsSequence (.named name (some arguments))

/-- A sequence has items of a type, which is the first one between the brackets of a named one. -/
inductive HasItems : TypeExpr → TypeExpr → Prop
  | array {element : TypeExpr} (length : Nat) : HasItems (.array element length) element
  | slice {element : TypeExpr} : HasItems (.slice element) element
  | named {name : String} {element : TypeExpr}
      (hname : lastSegment name ∈ ["Vec", "VecDeque", "HashSet", "BTreeSet", "LinkedList"])
      (lifetimes : List String) (more : List TypeArgument) :
      HasItems (.named name (some (lifetimes.map .lifetime ++ .type element :: more))) element

/-- The type that is left when all optional and boxed values around a type have been taken off. -/
def Unwraps (t record : TypeExpr) : Prop :=
  (∀ w inner, record = Wrapper.around w inner → w.IsReference) ∧
    ∃ stack : List Wrapper, (∀ w ∈ stack, ¬ w.IsReference) ∧ t = record.within stack

theorem HasItems.isSequence {t element : TypeExpr} (h : t.HasItems element) : t.IsSequence := by
  cases h with
  | array length => exact .array element length
  | slice => exact .slice element
  | named hname lifetimes more =>
    have helement : TypeArgument.type element ∈ lifetimes.map .lifetime ++ .type element :: more :=
      List.mem_append_right _ List.mem_cons_self
    exact .named hname helement

theorem isSequence_named_iff {name : String} {arguments : List TypeArgument} :
    IsSequence (.named name (some arguments)) ↔
      isSequenceName name = true ∧ (firstType? arguments).isSome = true := by
  rw [isSome_firstType?_iff, isSequenceName_iff]
  constructor
  · rintro (_ | _ | ⟨hname, helement⟩)
    exact ⟨hname, _, helement⟩
  · rintro ⟨hname, element, helement⟩
    exact .named hname helement

theorem IsSequence.isBare {t : TypeExpr} (h : t.IsSequence) : t.IsBare := by
  rintro w inner rfl
  cases w with
  | reference lifetime => exact nomatch h
  | holder name hname lifetimes more =>
    have hsequence := (isSequence_named_iff.mp h).1
    rw [isSequenceName_of_isWrapperName (isWrapperName_iff.mpr hname)] at hsequence
    exact absurd hsequence Bool.false_ne_true

theorem sizeOf_lt_around (w : Wrapper) (t : TypeExpr) : sizeOf t < sizeOf (w.around t) := by
  cases w with
  | reference lifetime =>
    simp only [Wrapper.around, reference.sizeOf_spec]
    omega
  | holder name hname lifetimes more =>
    have hmem : TypeArgument.type t ∈ lifetimes.map .lifetime ++ .type t :: more := by simp
    have hlt := List.sizeOf_lt_of_mem hmem
    simp only [TypeArgument.type.sizeOf_spec] at hlt
    simp only [Wrapper.around, named.sizeOf_spec, Option.some.sizeOf_spec]
    omega

/-- Induction that takes wrappers off, one after the other. -/
theorem peel {motive : TypeExpr → Prop} (bare : ∀ t, t.IsBare → motive t)
    (around : ∀ w t, motive t → motive (Wrapper.around w t)) (t : TypeExpr) : motive t := by
  by_cases h : t.IsBare
  · exact bare t h
  · unfold IsBare at h
    push Not at h
    obtain ⟨w, inner, hwrapped⟩ := h
    rw [hwrapped]
    exact around w inner (peel bare around inner)
termination_by sizeOf t
decreasing_by
  rw [hwrapped]
  exact sizeOf_lt_around w inner

/-- Something bare is left of every type. -/
theorem exists_leaves (t : TypeExpr) : ∃ core, t.Leaves core := by
  induction t using peel with
  | bare t hbare => exact ⟨t, hbare, [], rfl⟩
  | around w t ih =>
    obtain ⟨core, hbare, stack, rfl⟩ := ih
    exact ⟨core, hbare, w :: stack, rfl⟩

/-! ### What is found in a type -/

/-- The search for the items of a sequence takes every wrapper off. -/
theorem sequenceElement?_around (w : Wrapper) (t : TypeExpr) :
    (w.around t).sequenceElement? = t.sequenceElement? := by
  cases w with
  | reference lifetime => rfl
  | holder name hname lifetimes more =>
    rw [Wrapper.around, sequenceElement?, if_pos (isWrapperName_iff.mpr hname),
      elementOfArgument?_eq, firstType?_lifetimes]
    rfl

theorem sequenceElement?_within (t : TypeExpr) (stack : List Wrapper) :
    (t.within stack).sequenceElement? = t.sequenceElement? := by
  induction stack with
  | nil => rfl
  | cons w stack ih => rw [within_cons, sequenceElement?_around, ih]

/-- The search for a record takes all wrappers off but references. -/
theorem unwrapped_around {w : Wrapper} (h : ¬ w.IsReference) (t : TypeExpr) :
    (w.around t).unwrapped = t.unwrapped := by
  cases w with
  | reference lifetime => exact absurd trivial h
  | holder name hname lifetimes more =>
    rw [Wrapper.around, unwrapped, if_pos (isWrapperName_iff.mpr hname), unwrappedArgument?_eq,
      firstType?_lifetimes]
    rfl

theorem unwrapped_within {stack : List Wrapper} (h : ∀ w ∈ stack, ¬ w.IsReference)
    (t : TypeExpr) : (t.within stack).unwrapped = t.unwrapped := by
  induction stack with
  | nil => rfl
  | cons w stack ih =>
    obtain ⟨hw, hstack⟩ := List.forall_mem_cons.mp h
    rw [within_cons, unwrapped_around hw, ih hstack]

namespace IsBare

variable {t : TypeExpr}

/-- A wrapper's name alone does not make a wrapper: there has to be a type between the brackets. -/
theorem firstType?_eq_none {name : String} {arguments : List TypeArgument}
    (h : IsBare (.named name (some arguments))) (hname : isWrapperName name = true) :
    firstType? arguments = none := by
  cases hfirst : firstType? arguments with
  | none => rfl
  | some inner =>
    obtain ⟨lifetimes, more, rfl⟩ := exists_lifetimes hfirst
    exact absurd rfl (h (.holder name (isWrapperName_iff.mp hname) lifetimes more) inner)

theorem unwrapped_eq (h : t.IsBare) : t.unwrapped = t := by
  cases t with
  | named name arguments =>
    cases arguments with
    | none => rfl
    | some arguments =>
      rw [unwrapped]
      split
      · next hname =>
        rw [unwrappedArgument?_eq, h.firstType?_eq_none hname]
        rfl
      · rfl
  | array element length => rfl
  | slice element => rfl
  | reference lifetime referent => rfl
  | tuple items => rfl
  | parenthesized inner => rfl

/-- Of a bare type it is known from its form whether it is a sequence. -/
theorem isSome_sequenceElement?_iff (h : t.IsBare) :
    t.sequenceElement?.isSome = true ↔ t.IsSequence := by
  cases t with
  | array element length => exact iff_of_true rfl (.array element length)
  | slice element => exact iff_of_true rfl (.slice element)
  | reference lifetime referent => exact absurd rfl (h (.reference lifetime) referent)
  | tuple items => exact iff_of_false Bool.false_ne_true nofun
  | parenthesized inner => exact iff_of_false Bool.false_ne_true nofun
  | named name arguments =>
    cases arguments with
    | none => exact iff_of_false Bool.false_ne_true nofun
    | some arguments =>
      rw [isSequence_named_iff, sequenceElement?]
      by_cases hwrapper : isWrapperName name = true
      · -- The search goes on between the brackets, where there is nothing in a bare type.
        rw [if_pos hwrapper, elementOfArgument?_eq, h.firstType?_eq_none hwrapper,
          isSequenceName_of_isWrapperName hwrapper]
        simp
      · rw [if_neg hwrapper]
        split
        · next hsequence => simp [hsequence]
        · next hother => simp [hother]

/-- A bare type has the items that it is seen to have. -/
theorem sequenceElement?_eq_some_iff (h : t.IsBare) {element : TypeExpr} :
    t.sequenceElement? = some element ↔ t.HasItems element := by
  constructor
  · intro helement
    cases t with
    | array item length =>
      obtain rfl : item = element := Option.some.inj helement
      exact .array length
    | slice item =>
      obtain rfl : item = element := Option.some.inj helement
      exact .slice
    | reference lifetime referent => exact absurd rfl (h (.reference lifetime) referent)
    | tuple items => cases helement
    | parenthesized inner => cases helement
    | named name arguments =>
      cases arguments with
      | none => cases helement
      | some arguments =>
        rw [sequenceElement?] at helement
        by_cases hwrapper : isWrapperName name = true
        · rw [if_pos hwrapper, elementOfArgument?_eq, h.firstType?_eq_none hwrapper] at helement
          cases helement
        rw [if_neg hwrapper] at helement
        by_cases hsequence : isSequenceName name = true
        · rw [if_pos hsequence] at helement
          obtain ⟨lifetimes, more, rfl⟩ := exists_lifetimes helement
          exact .named (isSequenceName_iff.mp hsequence) lifetimes more
        · rw [if_neg hsequence] at helement
          cases helement
  · intro hitems
    cases hitems with
    | array length => rfl
    | slice => rfl
    | @named name _ hname lifetimes more =>
      have hsequence : isSequenceName name = true := isSequenceName_iff.mpr hname
      have hwrapper : ¬ isWrapperName name = true := by
        intro hwrapper
        rw [isSequenceName_of_isWrapperName hwrapper] at hsequence
        exact Bool.false_ne_true hsequence
      rw [sequenceElement?, if_neg hwrapper, if_pos hsequence, firstType?_lifetimes]

end IsBare

theorem Leaves.isSome_sequenceElement?_iff {t core : TypeExpr} (h : t.Leaves core) :
    t.sequenceElement?.isSome = true ↔ core.IsSequence := by
  obtain ⟨hbare, stack, rfl⟩ := h
  rw [sequenceElement?_within]
  exact hbare.isSome_sequenceElement?_iff

/-- The items of a type are those of what is left of it. -/
theorem sequenceElement?_eq_some_iff {t element : TypeExpr} :
    t.sequenceElement? = some element ↔ ∃ core, t.Leaves core ∧ core.HasItems element := by
  constructor
  · intro h
    obtain ⟨core, hbare, stack, rfl⟩ := t.exists_leaves
    rw [sequenceElement?_within, hbare.sequenceElement?_eq_some_iff] at h
    exact ⟨core, ⟨hbare, stack, rfl⟩, h⟩
  · rintro ⟨core, ⟨hbare, stack, rfl⟩, h⟩
    rw [sequenceElement?_within, hbare.sequenceElement?_eq_some_iff]
    exact h

/-- There are no items in a type that leaves no sequence. -/
theorem sequenceElement?_eq_none_iff {t : TypeExpr} :
    t.sequenceElement? = none ↔ ∃ core, t.Leaves core ∧ ¬ core.IsSequence := by
  have hnone : t.sequenceElement? = none ↔ ¬ t.sequenceElement?.isSome = true := by
    rw [Bool.not_eq_true, Option.isSome_eq_false_iff, Option.isNone_iff_eq_none]
  rw [hnone]
  constructor
  · intro h
    obtain ⟨core, hcore⟩ := t.exists_leaves
    exact ⟨core, hcore, mt hcore.isSome_sequenceElement?_iff.mpr h⟩
  · rintro ⟨core, hcore, h⟩
    exact mt hcore.isSome_sequenceElement?_iff.mp h

/-- What is searched for a record ends up without a wrapper, unless that is a reference. -/
theorem isReference_of_unwrapped_eq {t inner : TypeExpr} {w : Wrapper}
    (h : t.unwrapped = w.around inner) : w.IsReference := by
  induction t using peel with
  | bare t hbare =>
    rw [hbare.unwrapped_eq] at h
    exact absurd h (hbare w inner)
  | around w' t ih =>
    cases w' with
    | holder name hname lifetimes more =>
      have hholder : ¬ (Wrapper.holder name hname lifetimes more).IsReference := not_false
      rw [unwrapped_around hholder] at h
      exact ih h
    | reference lifetime =>
      -- A reference is left as it is.
      cases w with
      | holder name hname lifetimes more => exact TypeExpr.noConfusion h
      | reference lifetime' => trivial

/-- The search for a record takes off what can be taken off, and nothing else. -/
theorem unwrapped_eq_iff {t record : TypeExpr} : t.unwrapped = record ↔ t.Unwraps record := by
  constructor
  · rintro rfl
    refine ⟨fun w inner h => isReference_of_unwrapped_eq h, ?_⟩
    induction t using peel with
    | bare t hbare => exact ⟨[], by simp, by rw [hbare.unwrapped_eq, within_nil]⟩
    | around w t ih =>
      by_cases hw : w.IsReference
      · cases w with
        | holder name hname lifetimes more => exact hw.elim
        | reference lifetime => exact ⟨[], by simp, rfl⟩
      · obtain ⟨stack, hstack, ht⟩ := ih
        refine ⟨w :: stack, List.forall_mem_cons.mpr ⟨hw, hstack⟩, ?_⟩
        rw [within_cons, unwrapped_around hw, ← ht]
  · rintro ⟨hrecord, stack, hstack, rfl⟩
    rw [unwrapped_within hstack]
    -- What is left is bare, or it is a reference.
    by_cases hbare : record.IsBare
    · exact hbare.unwrapped_eq
    · unfold IsBare at hbare
      push Not at hbare
      obtain ⟨w, inner, rfl⟩ := hbare
      cases w with
      | holder name hname lifetimes more => exact (hrecord _ inner rfl).elim
      | reference lifetime => rfl

end TypeExpr

/-! ### Kinds of members -/

namespace MemberKind

/-- Whether a member of this kind is an array. -/
def isArray : MemberKind → Bool
  | .array | .nestedArray _ => true
  | .scalar | .nested _ => false

theorem isArray_ofType (nested : Bool) (t : TypeExpr) :
    (ofType nested t).isArray = t.sequenceElement?.isSome := by
  unfold ofType
  cases nested <;> cases t.sequenceElement? <;> rfl

theorem ofType_nested {t : TypeExpr} (h : t.sequenceElement? = none) :
    ofType true t = .nested t.unwrapped := by
  unfold ofType
  rw [h]

end MemberKind

/-- **Wrappers do not count.** A type has the items of a sequence within any stack of wrappers if it
has them without, and the same ones. So a member is an array just when what its type leaves without
its wrappers is a sequence. And a type without items gives rise to a member of the same record
within a stack of optional and boxed values, where no such wrapper is around the record any more;
the record is the type itself if there is no wrapper around it. -/
theorem kind_within (t : TypeExpr) (stack : List Wrapper) :
    (t.within stack).sequenceElement? = t.sequenceElement? ∧
      ((∃ core, t.Leaves core) ∧ ∀ core, t.Leaves core → ∀ nested,
        (MemberKind.ofType nested t).isArray = true ↔ core.IsSequence) ∧
      (t.sequenceElement? = none → (∀ w ∈ stack, ¬ w.IsReference) →
        ∃ record, MemberKind.ofType true t = .nested record ∧
          MemberKind.ofType true (t.within stack) = .nested record ∧
          (∀ w inner, record = Wrapper.around w inner → w.IsReference) ∧
          (t.IsBare → record = t)) := by
  refine ⟨t.sequenceElement?_within stack, ⟨t.exists_leaves, ?_⟩, ?_⟩
  · intro core hcore nested
    rw [MemberKind.isArray_ofType]
    exact hcore.isSome_sequenceElement?_iff
  · intro hscalar hstack
    have hscalar' : (t.within stack).sequenceElement? = none := by
      rw [TypeExpr.sequenceElement?_within, hscalar]
    refine ⟨t.unwrapped, MemberKind.ofType_nested hscalar, ?_, ?_, TypeExpr.IsBare.unwrapped_eq⟩
    · rw [MemberKind.ofType_nested hscalar', TypeExpr.unwrapped_within hstack]
    · intro w inner hrecord
      exact TypeExpr.isReference_of_unwrapped_eq hrecord

/-- A reference to an optional boxed list, and an optional boxed record. -/
theorem kind_within_sample :
    (∀ nested, (MemberKind.ofType nested
        (TypeExpr.within (.named "Vec" (some [.type (.named "String" none)]))
          [.reference (some "a"), .optional ["std", "option"], .boxed []])).isArray = true) ∧
      ∃ record, MemberKind.ofType true (.named "Review" none) = .nested record ∧
        MemberKind.ofType true
          (TypeExpr.within (.named "Review" none) [.optional [], .boxed ["std", "boxed"]]) =
          .nested record ∧
        (∀ w inner, record = Wrapper.around w inner → w.IsReference) ∧
        (TypeExpr.IsBare (.named "Review" none) → record = .named "Review" none) := by
  have hsequence : TypeExpr.IsSequence (.named "Vec" (some [.type (.named "String" none)])) :=
    .named (by decide) List.mem_cons_self
  have hstack : ∀ w ∈ [Wrapper.optional [], .boxed ["std", "boxed"]], ¬ w.IsReference := by
    simp [Wrapper.optional, Wrapper.boxed, Wrapper.IsReference]
  refine ⟨fun nested => ?_, (kind_within _ _).2.2 rfl hstack⟩
  exact ((kind_within _ []).2.1.2 _ ⟨hsequence.isBare, _, rfl⟩ nested).mpr hsequence

end QueryAlgebra
