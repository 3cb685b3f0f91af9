import QueryAlgebra.Proofs.Record.Faults

/-!
# What attributes ask for

Attributes are read option by option, and the first option that is malformed ends the reading. What
comes out is said here without a word on the reading, of the options of each family in order
(`optionsOf`):

* `Attribute.memberFault?`, `recordFault?` — what is wrong with an attribute of a member and with
  those of a record, if something is. An attribute whose options are not in parentheses is wrong
  itself; in another, the first malformed option is.
* `MemberOptions.asked` — what options without a fault ask for: of several names the last one of
  each family counts, and one option that leaves the member out is enough.
* `askedRule` — the rule that the last `rename_all` states.

The reading of attributes ends with the first fault among them, or with all that they ask for
(`ofAttributes_eq`, `namingRule_eq`). Both are runs of steps that either find a fault or go on to
what one more option asks for (`foldlM_of_step`).
-/

namespace QueryAlgebra

/-! ### Attributes -/

namespace Attribute

/-- The options of an attribute. -/
def options (a : Attribute) : List Setting :=
  match a.body with
  | .list settings => settings
  | _ => []

/-- What is wrong with the form of an attribute: its options are not in parentheses. -/
def formFault? (a : Attribute) : Option DeclarationError :=
  match a.body with
  | .list _ => none
  | .empty => some (.expectedArguments a.name)
  | .assigned _ => some (.expectedParentheses a.name)

/-- What is wrong with an attribute of a family: its form, or else its first malformed option. -/
def firstFault? (fault : Setting → Option DeclarationError) (a : Attribute) :
    Option DeclarationError :=
  a.formFault?.or (a.options.findSome? fault)

/-- What is wrong with an attribute of a member. One of another family is not looked at. -/
def memberFault? (a : Attribute) : Option DeclarationError :=
  if a.name = "query" then a.firstFault? Setting.queryFault?
  else if a.name = "serde" then a.firstFault? Setting.storedFault?
  else none

theorem settings_eq (a : Attribute) : a.settings = unlessFault a.formFault? a.options := by
  obtain ⟨name, body⟩ := a
  cases body <;> rfl

end Attribute

/-- The options of all attributes of a family, in order. -/
def optionsOf (family : String) (attributes : List Attribute) : List Setting :=
  (attributes.filter fun a => a.name = family).flatMap Attribute.options

theorem optionsOf_append (family : String) (attributes attributes' : List Attribute) :
    optionsOf family (attributes ++ attributes') =
      optionsOf family attributes ++ optionsOf family attributes' := by
  rw [optionsOf, List.filter_append, List.flatMap_append]
  rfl

theorem optionsOf_singleton (family : String) (a : Attribute) :
    optionsOf family [a] = if a.name = family then a.options else [] := by
  unfold optionsOf
  by_cases h : a.name = family
  · simp [h]
  · simp [h]

theorem optionsOf_append_singleton (family : String) (attributes : List Attribute)
    (a : Attribute) :
    optionsOf family (attributes ++ [a]) =
      optionsOf family attributes ++ if a.name = family then a.options else [] := by
  rw [optionsOf_append, optionsOf_singleton]

theorem optionsOf_cons (family : String) (a : Attribute) (attributes : List Attribute) :
    optionsOf family (a :: attributes) =
      (if a.name = family then a.options else []) ++ optionsOf family attributes := by
  rw [← List.singleton_append, optionsOf_append, optionsOf_singleton]

/-! ### The options of a member -/

/-- What options ask of a member. -/
def MemberOptions.asked (query stored : List Setting) : MemberOptions where
  queryName := (query.filterMap (Setting.assigned? "rename")).getLast?
  storedName := (stored.filterMap (Setting.assigned? "rename")).getLast?
  nested := query.any (Setting.isWord "nested")
  skip := query.any (Setting.isWord "skip") ||
    stored.any fun s => s.isWord "skip" || s.isWord "skip_serializing"

namespace MemberOptions

/-- What one more option of the `query` family asks for. -/
theorem asked_query (query stored : List Setting) (s : Setting) :
    asked (query ++ [s]) stored =
      { asked query stored with
        queryName := (s.assigned? "rename").or (asked query stored).queryName
        nested := (asked query stored).nested || s.isWord "nested"
        skip := (asked query stored).skip || s.isWord "skip" } := by
  simp [asked, Bool.or_right_comm]

/-- What one more option of the `serde` family asks for. -/
theorem asked_stored (query stored : List Setting) (s : Setting) :
    asked query (stored ++ [s]) =
      { asked query stored with
        storedName := (s.assigned? "rename").or (asked query stored).storedName
        skip := (asked query stored).skip ||
          (s.isWord "skip" || s.isWord "skip_serializing") } := by
  simp [asked, Bool.or_assoc]

/-- One more option of the `query` family. -/
theorem readQuery_asked (query stored : List Setting) (s : Setting) :
    (asked query stored).readQuery s =
      unlessFault s.queryFault? (asked (query ++ [s]) stored) := by
  rw [asked_query]
  generalize asked query stored = o
  unfold readQuery Setting.queryFault?
  rw [s.name?_eq]
  refine unlessFault_bind fun _ => ?_
  by_cases hrename : s.name = "rename"
  · have hnested : s.isWord "nested" = false := Setting.isWord_of_ne (by rw [hrename]; decide)
    have hskip : s.isWord "skip" = false := Setting.isWord_of_ne (by rw [hrename]; decide)
    rw [if_pos hrename, if_pos hrename, hnested, hskip, Bool.or_false, Bool.or_false,
      s.text?_bind_eq]
    refine unlessFault_congr fun hnone => ?_
    obtain ⟨htext, hend⟩ := Option.or_eq_none_iff.mp hnone
    rw [← hrename, Setting.assigned?_eq_some htext hend]
    rfl
  rw [if_neg hrename, if_neg hrename, Setting.assigned?_of_ne hrename, Option.none_or]
  by_cases hnested : s.name = "nested"
  · have hskip : s.isWord "skip" = false := Setting.isWord_of_ne (by rw [hnested]; decide)
    rw [if_pos hnested, if_pos (Or.inl hnested), hskip, Bool.or_false]
    refine Setting.alone_eq fun hword => ?_
    rw [hnested] at hword
    rw [hword, Bool.or_true]
  rw [if_neg hnested, Setting.isWord_of_ne hnested, Bool.or_false]
  by_cases hskip : s.name = "skip"
  · rw [if_pos hskip, if_pos (Or.inr hskip)]
    refine Setting.alone_eq fun hword => ?_
    rw [hskip] at hword
    rw [hword, Bool.or_true]
  · rw [if_neg hskip, if_neg (not_or_intro hnested hskip)]
    rfl

/-- One more option of the `serde` family. -/
theorem readStored_asked (query stored : List Setting) (s : Setting) :
    (asked query stored).readStored s =
      unlessFault s.storedFault? (asked query (stored ++ [s])) := by
  rw [asked_stored]
  generalize asked query stored = o
  unfold readStored Setting.storedFault?
  rw [s.name?_eq]
  refine unlessFault_bind fun _ => ?_
  by_cases hrename : s.name = "rename"
  · have hskip : s.isWord "skip" = false := Setting.isWord_of_ne (by rw [hrename]; decide)
    have hskip' : s.isWord "skip_serializing" = false :=
      Setting.isWord_of_ne (by rw [hrename]; decide)
    have hother : ¬ (s.name = "skip" ∨ s.name = "skip_serializing") := by rw [hrename]; decide
    rw [if_pos hrename, hskip, hskip', Bool.or_false, Bool.or_false]
    by_cases hequals : s.hasEquals = true
    · rw [if_pos ⟨hrename, hequals⟩, s.text?_bind_eq, ← Setting.textFault?_eq hequals]
      refine unlessFault_congr fun hnone => ?_
      obtain ⟨htext, hend⟩ := Option.or_eq_none_iff.mp hnone
      rw [← hrename, Setting.assigned?_eq_some htext hend]
      rfl
    · -- A name without an equals sign is about something else.
      have hbare : s.hasEquals = false := Bool.eq_false_iff.mpr hequals
      obtain ⟨hvalue, -, hignored⟩ := Setting.valueFault?_eq_none hbare
      rw [if_neg fun h => hequals h.2, if_neg hother, s.passedOver_eq, hvalue, hignored,
        Setting.assigned?_eq_none hbare, Option.none_or, Option.none_or]
  rw [if_neg fun h => hrename h.1, if_neg hrename, Setting.assigned?_of_ne hrename,
    Option.none_or]
  by_cases hskip : s.name = "skip" ∨ s.name = "skip_serializing"
  · rw [if_pos hskip, if_pos hskip]
    refine Setting.alone_eq fun hword => ?_
    have hany : (s.isWord "skip" || s.isWord "skip_serializing") = true := by
      rcases hskip with h | h
      · rw [h] at hword
        rw [hword, Bool.true_or]
      · rw [h] at hword
        rw [hword, Bool.or_true]
    rw [hany, Bool.or_true]
  · obtain ⟨hone, hother⟩ := not_or.mp hskip
    rw [if_neg hskip, if_neg hskip, Setting.isWord_of_ne hone, Setting.isWord_of_ne hother,
      Bool.or_false, Bool.or_false]
    exact s.passedOver_eq o

/-- One more attribute. -/
theorem readAttribute_asked (attributes : List Attribute) (a : Attribute) :
    (asked (optionsOf "query" attributes) (optionsOf "serde" attributes)).readAttribute a =
      unlessFault a.memberFault? (asked (optionsOf "query" (attributes ++ [a]))
        (optionsOf "serde" (attributes ++ [a]))) := by
  rw [optionsOf_append_singleton, optionsOf_append_singleton]
  generalize optionsOf "query" attributes = query
  generalize optionsOf "serde" attributes = stored
  unfold readAttribute Attribute.memberFault?
  rw [a.settings_eq]
  by_cases hquery : a.name = "query"
  · have hserde : ¬ a.name = "serde" := by rw [hquery]; decide
    have hrun : a.options.foldlM readQuery (asked query stored) =
        unlessFault (a.options.findSome? Setting.queryFault?) (asked (query ++ a.options) stored) :=
      foldlM_of_step (fun read s => readQuery_asked read stored s) query a.options
    rw [if_pos hquery, if_pos hquery, if_pos hquery, if_neg hserde, List.append_nil]
    exact unlessFault_bind fun _ => hrun
  rw [if_neg hquery, if_neg hquery, if_neg hquery, List.append_nil]
  by_cases hserde : a.name = "serde"
  · have hrun : a.options.foldlM readStored (asked query stored) =
        unlessFault (a.options.findSome? Setting.storedFault?)
          (asked query (stored ++ a.options)) :=
      foldlM_of_step (fun read s => readStored_asked query read s) stored a.options
    rw [if_pos hserde, if_pos hserde, if_pos hserde]
    exact unlessFault_bind fun _ => hrun
  · -- An attribute of another family asks for nothing.
    rw [if_neg hserde, if_neg hserde, if_neg hserde, List.append_nil]
    rfl

/-- The attributes of a member ask for what their options do, unless one of them is at fault. -/
theorem ofAttributes_eq (attributes : List Attribute) :
    ofAttributes attributes = unlessFault (attributes.findSome? Attribute.memberFault?)
      (asked (optionsOf "query" attributes) (optionsOf "serde" attributes)) :=
  foldlM_of_step readAttribute_asked [] attributes

end MemberOptions

/-! ### The rule of a record -/

/-- The rule that an option of a record states, if it states one. -/
def Setting.rule? (s : Setting) : Option NamingRule :=
  (s.assigned? "rename_all").bind NamingRule.ofName?

/-- The rule that the options of a record ask for: the last one that is stated. -/
def askedRule (settings : List Setting) : Option NamingRule :=
  (settings.filterMap Setting.rule?).getLast?

/-- What is wrong with the attributes of a record: the first fault in those of `serde`. -/
def recordFault? (attributes : List Attribute) : Option DeclarationError :=
  (attributes.filter fun a => a.name = "serde").findSome?
    (Attribute.firstFault? Setting.recordFault?)

/-- One more option of a record. -/
theorem readRule_askedRule (settings : List Setting) (s : Setting) :
    readRule (askedRule settings) s =
      unlessFault s.recordFault? (askedRule (settings ++ [s])) := by
  have hnext : askedRule (settings ++ [s]) = s.rule?.or (askedRule settings) := by
    rw [askedRule, List.filterMap_append, List.getLast?_append, askedRule]
    cases h : s.rule? <;> simp [h]
  rw [hnext]
  generalize askedRule settings = rule
  unfold readRule Setting.recordFault? Setting.rule?
  rw [s.name?_eq]
  refine unlessFault_bind fun _ => ?_
  by_cases hrule : s.name = "rename_all"
  · rw [if_pos hrule]
    by_cases hequals : s.hasEquals = true
    · rw [if_pos ⟨hrule, hequals⟩, s.text?_eq, ← Setting.textFault?_eq hequals]
      refine unlessFault_bind fun htext => ?_
      rw [Setting.ruleFault?_eq htext]
      -- Not every text is the name of a rule.
      cases hname : NamingRule.ofName? s.value with
      | none =>
        rw [if_neg (NamingRule.ofName?_eq_none_iff.mp hname)]
        rfl
      | some named =>
        have hmem : s.value ∈ namedRules.map Prod.fst :=
          List.mem_map.mpr ⟨_, NamingRule.ofName?_eq_some_iff.mp hname, rfl⟩
        rw [if_pos hmem, Option.none_or]
        refine (s.ended_eq _).trans (unlessFault_congr fun hend => ?_)
        rw [← hrule, Setting.assigned?_eq_some htext hend, Option.bind_some, hname]
        rfl
    · have hbare : s.hasEquals = false := Bool.eq_false_iff.mpr hequals
      obtain ⟨hvalue, hfault, hignored⟩ := Setting.valueFault?_eq_none hbare
      rw [if_neg fun h => hequals h.2, s.passedOver_eq, hvalue, hfault, hignored,
        Setting.assigned?_eq_none hbare, Option.none_or, Option.none_or]
      rfl
  · rw [if_neg fun h => hrule h.1, if_neg hrule, Setting.assigned?_of_ne hrule]
    exact s.passedOver_eq rule

/-- The attributes of a record state the rule that their options ask for, unless one of them is at
fault. -/
theorem namingRule_eq (attributes : List Attribute) :
    namingRule attributes =
      unlessFault (recordFault? attributes) (askedRule (optionsOf "serde" attributes)) := by
  have hstep (read : List Attribute) (a : Attribute) :
      (a.settings >>= fun settings =>
          settings.foldlM readRule (askedRule (read.flatMap Attribute.options))) =
        unlessFault (a.firstFault? Setting.recordFault?)
          (askedRule ((read ++ [a]).flatMap Attribute.options)) := by
    rw [a.settings_eq, List.flatMap_append, List.flatMap_singleton]
    exact unlessFault_bind fun _ => foldlM_of_step readRule_askedRule _ a.options
  have hrun (attributes : List Attribute) :
      attributes.foldlM (fun rule a => a.settings >>= fun settings => settings.foldlM readRule rule)
          none =
        unlessFault (attributes.findSome? (Attribute.firstFault? Setting.recordFault?))
          (askedRule (attributes.flatMap Attribute.options)) :=
    @foldlM_of_step _ _ _ (fun read => askedRule (read.flatMap Attribute.options)) _ _ hstep []
      attributes
  exact hrun _

end QueryAlgebra
