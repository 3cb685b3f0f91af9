import QueryAlgebra.Record.Declaration
import QueryAlgebra.Proofs.Record.Convention
import QueryAlgebra.Proofs.Record.Options
import QueryAlgebra.Proofs.Record.Wrappers

/-!
# What a member of a record yields

A member of a record has a member of the set of handles, unless it is left out. What there is to say
about it is said of its declaration as it is written, without a word on how that is read:

* `DeclaredMember.fault?` — the first fault of its attributes.
* `DeclaredMember.LeftOut` — whether it is left out.
* `DeclaredMember.HasKey` — its key; `LastAssigned` finds the last name that is given for it, and
  `IsUnmarked`, `NamingRule.Renames` and `IsLowerCase` say what becomes of its own name.
* `DeclaredMember.HasKind` — its kind, by what is left of its type without its wrappers.

The derivation computes a member that all of this is true of, and there is no other
(`DeclaredMember.derive_eq`, `DeclaredMember.outlines_iff`).
-/

namespace QueryAlgebra

/-! ### Options and names -/

/-- The text is the last one among options that is assigned to a name. -/
def LastAssigned (name : String) (options : List Setting) (text : String) : Prop :=
  ∃ before after, options = before ++ .assigned name (.text text) :: after ∧
    ∀ t, Setting.assigned name (.text t) ∉ after

/-- A name without the mark `r#` that lets a keyword be a name; only one such mark is taken off. -/
def IsUnmarked (name plain : String) : Prop :=
  name = "r#" ++ plain ∨ (∀ rest, name ≠ "r#" ++ rest) ∧ plain = name

/-- A text in lower case, which in ASCII is so character by character. -/
def IsLowerCase (text lower : String) : Prop :=
  lower = Text.toLower text ∧
    (Text.IsAscii text.toList → lower.toList = text.toList.map Char.toLower)

/-- What a rule makes of a name. In ASCII that is the key by convention, unless the name is made of
underscores alone. -/
def NamingRule.Renames (rule : NamingRule) (name key : String) : Prop :=
  key = rule.apply name ∧ (rule = .lower → IsLowerCase name key) ∧
    (rule ≠ .lower → Text.IsAscii name.toList → (∃ c ∈ name.toList, c ≠ '_') →
      rule.conventional? name = some key)

theorem Setting.assigned?_eq_some_iff {name text : String} {s : Setting} :
    s.assigned? name = some text ↔ s = .assigned name (.text text) := by
  constructor
  · intro h
    unfold assigned? at h
    split at h
    · rw [Option.ite_none_right_eq_some, Option.some.injEq] at h
      rw [h.1, h.2]
    · cases h
  · rintro rfl
    exact if_pos rfl

theorem filterMap_assigned_eq_nil_iff {name : String} {options : List Setting} :
    options.filterMap (Setting.assigned? name) = [] ↔
      ∀ t, Setting.assigned name (.text t) ∉ options := by
  rw [List.filterMap_eq_nil_iff]
  constructor
  · intro h t ht
    have hnone := h _ ht
    rw [Setting.assigned?_eq_some_iff.mpr rfl] at hnone
    exact Option.some_ne_none t hnone
  · intro h s hs
    rw [Option.eq_none_iff_forall_ne_some]
    intro t ht
    rw [Setting.assigned?_eq_some_iff.mp ht] at hs
    exact h t hs

theorem getLast?_assigned_eq_none_iff {name : String} {options : List Setting} :
    (options.filterMap (Setting.assigned? name)).getLast? = none ↔
      ∀ t, Setting.assigned name (.text t) ∉ options := by
  rw [List.getLast?_eq_none_iff, filterMap_assigned_eq_nil_iff]

/-- The last text that is read is the last one that is assigned. -/
theorem getLast?_assigned_eq_some_iff {name text : String} {options : List Setting} :
    (options.filterMap (Setting.assigned? name)).getLast? = some text ↔
      LastAssigned name options text := by
  rw [List.getLast?_eq_some_iff]
  constructor
  · rintro ⟨texts, htexts⟩
    -- The options are cut before the one that the last text was read from.
    obtain ⟨before, rest, rfl, -, hrest⟩ := List.filterMap_eq_append_iff.mp htexts
    obtain ⟨between, s, after, rfl, -, hs, hafter⟩ := List.filterMap_eq_cons_iff.mp hrest
    obtain rfl := Setting.assigned?_eq_some_iff.mp hs
    exact ⟨before ++ between, after, by rw [List.append_assoc],
      filterMap_assigned_eq_nil_iff.mp hafter⟩
  · rintro ⟨before, after, rfl, hafter⟩
    refine ⟨before.filterMap (Setting.assigned? name), ?_⟩
    rw [List.filterMap_append, List.filterMap_cons_some (Setting.assigned?_eq_some_iff.mpr rfl),
      filterMap_assigned_eq_nil_iff.mpr hafter]

theorem Setting.isWord_iff {name : String} {s : Setting} :
    s.isWord name = true ↔ s = .word name := by
  cases s with
  | word n => simp [isWord]
  | _ => simp [isWord]

theorem any_isWord_iff {name : String} {options : List Setting} :
    options.any (Setting.isWord name) = true ↔ Setting.word name ∈ options := by
  simp [List.any_eq_true, Setting.isWord_iff]

theorem plainName_eq_iff {name plain : String} :
    plainName name = plain ↔ IsUnmarked name plain := by
  have hmark : ∀ rest : String, "r#" ++ rest = String.ofList ('r' :: '#' :: rest.toList) := by
    intro rest
    simp [← String.toList_inj]
  unfold plainName IsUnmarked
  split
  · next rest hname =>
    have hmarked : name = "r#" ++ String.ofList rest := by
      rw [hmark, String.toList_ofList, ← hname, String.ofList_toList]
    constructor
    · rintro rfl
      exact .inl hmarked
    · rintro (h | ⟨h, -⟩)
      · exact (String.append_right_inj _).mp (hmarked.symm.trans h)
      · exact absurd hmarked (h _)
  · next hname =>
    have hunmarked : ∀ rest, name ≠ "r#" ++ rest := by
      rintro rest rfl
      exact hname rest.toList (by rw [hmark, String.toList_ofList])
    constructor
    · rintro rfl
      exact .inr ⟨hunmarked, rfl⟩
    · rintro (h | ⟨-, h⟩)
      · exact absurd h (hunmarked plain)
      · exact h.symm

theorem isLowerCase_toLower (text : String) : IsLowerCase text (Text.toLower text) :=
  ⟨rfl, Text.toList_toLower⟩

theorem NamingRule.renames_apply (rule : NamingRule) (name : String) :
    rule.Renames name (rule.apply name) := by
  refine ⟨rfl, ?_, fun hrule hascii hnamed => conventional?_eq_some_apply hascii hnamed hrule⟩
  rintro rfl
  exact isLowerCase_toLower name

/-! ### One member -/

namespace DeclaredMember

/-- What is wrong with the attributes of a member: the first fault of one of them. -/
def fault? (m : DeclaredMember) : Option DeclarationError :=
  m.attributes.findSome? Attribute.memberFault?

/-- The options of a member that speak about queries. -/
def queryOptions (m : DeclaredMember) : List Setting :=
  optionsOf "query" m.attributes

/-- The options of a member that speak about how it is stored. -/
def storedOptions (m : DeclaredMember) : List Setting :=
  optionsOf "serde" m.attributes

/-- One of the options leaves the member out. -/
def LeftOut (m : DeclaredMember) : Prop :=
  .word "skip" ∈ m.queryOptions ∨ .word "skip" ∈ m.storedOptions ∨
    .word "skip_serializing" ∈ m.storedOptions

/-- One of the options says that the member is made of records. -/
def IsNested (m : DeclaredMember) : Prop :=
  .word "nested" ∈ m.queryOptions

/-- The key of a member: the last name given for queries, else the last name it is stored under,
else what the rule makes of its own name, else that name in lower case. -/
inductive HasKey (rule : Option NamingRule) (m : DeclaredMember) : String → Prop
  | query {key : String} (hquery : LastAssigned "rename" m.queryOptions key) : HasKey rule m key
  | stored {key : String} (hquery : ∀ t, .assigned "rename" (.text t) ∉ m.queryOptions)
      (hstored : LastAssigned "rename" m.storedOptions key) : HasKey rule m key
  | ruled {r : NamingRule} {plain key : String}
      (hquery : ∀ t, .assigned "rename" (.text t) ∉ m.queryOptions)
      (hstored : ∀ t, .assigned "rename" (.text t) ∉ m.storedOptions)
      (hrule : rule = some r) (hplain : IsUnmarked m.name plain) (hkey : r.Renames plain key) :
      HasKey rule m key
  | lower {plain key : String}
      (hquery : ∀ t, .assigned "rename" (.text t) ∉ m.queryOptions)
      (hstored : ∀ t, .assigned "rename" (.text t) ∉ m.storedOptions)
      (hrule : rule = none) (hplain : IsUnmarked m.name plain) (hlower : IsLowerCase plain key) :
      HasKey rule m key

/-- The kind of a member: its type is a sequence or not once all wrappers are taken off, and if it
is made of records, these are the items of the sequence or else what is within optional and boxed
values. -/
inductive HasKind (m : DeclaredMember) : MemberKind → Prop
  | array {core : TypeExpr} (hnested : ¬ m.IsNested) (hcore : m.type.Leaves core)
      (hsequence : core.IsSequence) : HasKind m .array
  | scalar {core : TypeExpr} (hnested : ¬ m.IsNested) (hcore : m.type.Leaves core)
      (hsequence : ¬ core.IsSequence) : HasKind m .scalar
  | nestedArray {core element : TypeExpr} (hnested : m.IsNested) (hcore : m.type.Leaves core)
      (hitems : core.HasItems element) : HasKind m (.nestedArray element)
  | nested {core record : TypeExpr} (hnested : m.IsNested) (hcore : m.type.Leaves core)
      (hsequence : ¬ core.IsSequence) (hrecord : m.type.Unwraps record) :
      HasKind m (.nested record)

/-- What the member of the set is for a member of the record. -/
structure Outlines (rule : Option NamingRule) (m : DeclaredMember) (o : OutlineMember) : Prop where
  identifier_eq : o.identifier = m.name
  hasKey : m.HasKey rule o.segment
  hasKind : m.HasKind o.kind

/-! What the derivation makes of a member -/

/-- What the options of a member ask for. -/
def asked (m : DeclaredMember) : MemberOptions :=
  .asked m.queryOptions m.storedOptions

/-- The member of the set, as it is computed. -/
def outline (rule : Option NamingRule) (m : DeclaredMember) : OutlineMember where
  identifier := m.name
  segment := m.asked.segment rule (plainName m.name)
  kind := .ofType m.asked.nested m.type

variable {rule : Option NamingRule} {m : DeclaredMember}

theorem skip_asked_iff : m.asked.skip = true ↔ m.LeftOut := by
  have hstored : (m.storedOptions.any fun s => s.isWord "skip" || s.isWord "skip_serializing") =
      true ↔ .word "skip" ∈ m.storedOptions ∨ .word "skip_serializing" ∈ m.storedOptions := by
    simp [List.any_eq_true, Setting.isWord_iff, and_or_left, exists_or]
  exact Bool.or_eq_true_iff.trans (or_congr any_isWord_iff hstored)

theorem nested_asked_iff : m.asked.nested = true ↔ m.IsNested :=
  any_isWord_iff

/-- The key that is computed is the one that a member has. -/
theorem segment_asked_iff {key : String} :
    m.asked.segment rule (plainName m.name) = key ↔ m.HasKey rule key := by
  constructor
  · rintro rfl
    unfold MemberOptions.segment
    cases hquery : m.asked.queryName with
    | some name => exact .query (getLast?_assigned_eq_some_iff.mp hquery)
    | none =>
      have hquery' := getLast?_assigned_eq_none_iff.mp hquery
      cases hstored : m.asked.storedName with
      | some name => exact .stored hquery' (getLast?_assigned_eq_some_iff.mp hstored)
      | none =>
        have hstored' := getLast?_assigned_eq_none_iff.mp hstored
        have hplain : IsUnmarked m.name (plainName m.name) := plainName_eq_iff.mp rfl
        cases rule with
        | some r => exact .ruled hquery' hstored' rfl hplain (r.renames_apply _)
        | none => exact .lower hquery' hstored' rfl hplain (isLowerCase_toLower _)
  · intro h
    unfold MemberOptions.segment
    cases h with
    | query hquery =>
      have hname : m.asked.queryName = some key := getLast?_assigned_eq_some_iff.mpr hquery
      rw [hname]
      rfl
    | stored hquery hstored =>
      have hname : m.asked.queryName = none := getLast?_assigned_eq_none_iff.mpr hquery
      have hname' : m.asked.storedName = some key := getLast?_assigned_eq_some_iff.mpr hstored
      rw [hname, hname']
      rfl
    | ruled hquery hstored hrule hplain hkey =>
      have hname : m.asked.queryName = none := getLast?_assigned_eq_none_iff.mpr hquery
      have hname' : m.asked.storedName = none := getLast?_assigned_eq_none_iff.mpr hstored
      rw [hname, hname', hrule, plainName_eq_iff.mpr hplain, hkey.1]
      rfl
    | lower hquery hstored hrule hplain hlower =>
      have hname : m.asked.queryName = none := getLast?_assigned_eq_none_iff.mpr hquery
      have hname' : m.asked.storedName = none := getLast?_assigned_eq_none_iff.mpr hstored
      rw [hname, hname', hrule, plainName_eq_iff.mpr hplain, hlower.1]
      rfl

/-- The kind that is computed is the one that a member has. -/
theorem ofType_asked_iff {kind : MemberKind} :
    MemberKind.ofType m.asked.nested m.type = kind ↔ m.HasKind kind := by
  constructor
  · rintro rfl
    unfold MemberKind.ofType
    cases hnested : m.asked.nested with
    | true =>
      have hnested' := nested_asked_iff.mp hnested
      cases helement : m.type.sequenceElement? with
      | some element =>
        obtain ⟨core, hcore, hitems⟩ := TypeExpr.sequenceElement?_eq_some_iff.mp helement
        exact .nestedArray hnested' hcore hitems
      | none =>
        obtain ⟨core, hcore, hsequence⟩ := TypeExpr.sequenceElement?_eq_none_iff.mp helement
        exact .nested hnested' hcore hsequence (TypeExpr.unwrapped_eq_iff.mp rfl)
    | false =>
      have hnested' : ¬ m.IsNested := by
        rw [← nested_asked_iff, hnested]
        exact Bool.false_ne_true
      cases helement : m.type.sequenceElement? with
      | some element =>
        obtain ⟨core, hcore, hitems⟩ := TypeExpr.sequenceElement?_eq_some_iff.mp helement
        exact .array hnested' hcore hitems.isSequence
      | none =>
        obtain ⟨core, hcore, hsequence⟩ := TypeExpr.sequenceElement?_eq_none_iff.mp helement
        exact .scalar hnested' hcore hsequence
  · intro h
    unfold MemberKind.ofType
    cases h with
    | array hnested hcore hsequence =>
      have helement : m.type.sequenceElement?.isSome = true :=
        hcore.isSome_sequenceElement?_iff.mpr hsequence
      obtain ⟨element, helement'⟩ := Option.isSome_iff_exists.mp helement
      rw [Bool.eq_false_iff.mpr (mt nested_asked_iff.mp hnested), helement']
    | scalar hnested hcore hsequence =>
      have helement : m.type.sequenceElement? = none :=
        TypeExpr.sequenceElement?_eq_none_iff.mpr ⟨_, hcore, hsequence⟩
      rw [Bool.eq_false_iff.mpr (mt nested_asked_iff.mp hnested), helement]
    | nestedArray hnested hcore hitems =>
      have helement := TypeExpr.sequenceElement?_eq_some_iff.mpr ⟨_, hcore, hitems⟩
      rw [nested_asked_iff.mpr hnested, helement]
    | nested hnested hcore hsequence hrecord =>
      have helement : m.type.sequenceElement? = none :=
        TypeExpr.sequenceElement?_eq_none_iff.mpr ⟨_, hcore, hsequence⟩
      rw [nested_asked_iff.mpr hnested, helement, TypeExpr.unwrapped_eq_iff.mpr hrecord]

theorem outlines_iff {o : OutlineMember} : m.outline rule = o ↔ m.Outlines rule o := by
  constructor
  · rintro rfl
    exact ⟨rfl, segment_asked_iff.mp rfl, ofType_asked_iff.mp rfl⟩
  · obtain ⟨identifier, segment, kind⟩ := o
    rintro ⟨hidentifier, hkey, hkind⟩
    rw [outline, segment_asked_iff.mpr hkey, ofType_asked_iff.mpr hkind, ← hidentifier]

/-- A member without a fault is outlined, unless it is left out. -/
theorem derive_eq (rule : Option NamingRule) (m : DeclaredMember) :
    m.derive rule =
      unlessFault m.fault? (if m.asked.skip then none else some (m.outline rule)) := by
  unfold DeclaredMember.derive
  rw [MemberOptions.ofAttributes_eq]
  change (unlessFault m.fault? m.asked >>= _) = _
  cases m.fault? with
  | some e => rfl
  | none =>
    cases hskip : m.asked.skip with
    | true => exact if_pos hskip
    | false => exact if_neg (Bool.eq_false_iff.mp hskip)

end DeclaredMember

end QueryAlgebra
