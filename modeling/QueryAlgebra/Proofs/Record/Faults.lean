import Mathlib.Data.List.Basic
import QueryAlgebra.Record.Options

/-!
# What is wrong with an option

An option is read from left to right: its name, what stands behind the name, and the end, where a
comma must follow. The first thing on the way that is malformed ends the reading. What that is
depends on the family, which says what may stand behind which name:

* `Setting.queryFault?` — of an option that speaks about queries.
* `Setting.storedFault?`, `Setting.recordFault?` — of one that speaks about how a member is stored,
  or a record.

All of them are said of the written form, and every step of a reading is shown to find the fault
that there is (`Setting.name?_eq`, `Setting.text?_eq`, `Setting.ended_eq`, `Setting.alone_eq`,
`Setting.passedOver_eq`). A reading is a run of steps that either find a fault or go on to what one
more item asks for, so it ends with the first fault or with all that is asked for
(`foldlM_of_step`).
-/

namespace QueryAlgebra

/-! ### Runs that end with the first fault -/

section Faults

variable {ε α β σ : Type}

/-- The result, unless there is a fault. -/
def unlessFault (fault : Option ε) (result : α) : Except ε α :=
  match fault with
  | some e => .error e
  | none => .ok result

@[simp] theorem unlessFault_some (e : ε) (result : α) :
    unlessFault (some e) result = .error e := rfl

@[simp] theorem unlessFault_none (result : α) :
    unlessFault (none : Option ε) result = .ok result := rfl

/-- A result counts only if there is no fault. -/
theorem unlessFault_congr {fault : Option ε} {result result' : α}
    (h : fault = none → result = result') :
    unlessFault fault result = unlessFault fault result' := by
  cases fault with
  | none => exact congrArg Except.ok (h rfl)
  | some e => rfl

/-- A fault of the first step comes before one of the next, which is not made then. -/
theorem unlessFault_bind {fault fault' : Option ε} {result : α} {result' : β}
    {next : α → Except ε β} (h : fault = none → next result = unlessFault fault' result') :
    (unlessFault fault result >>= next) = unlessFault (fault.or fault') result' := by
  cases fault with
  | none => exact h rfl
  | some e => rfl

/-- If one step brings the state from what has been read to what is read with one more item, unless
the item is at fault, then a run brings it to all that there is to read, unless one of the items is.
The first of these is the fault of the run. -/
theorem foldlM_of_step {state : List α → σ} {step : σ → α → Except ε σ} {fault : α → Option ε}
    (h : ∀ read a, step (state read) a = unlessFault (fault a) (state (read ++ [a])))
    (read items : List α) :
    items.foldlM step (state read) =
      unlessFault (items.findSome? fault) (state (read ++ items)) := by
  induction items generalizing read with
  | nil =>
    rw [List.append_nil]
    rfl
  | cons a rest ih =>
    rw [List.foldlM_cons, h, List.findSome?_cons]
    cases fault a with
    | some e => rfl
    | none =>
      have happ : read ++ a :: rest = read ++ [a] ++ rest := List.append_cons read a rest
      rw [happ]
      exact ih (read ++ [a])

/-- A list is mapped as a whole, unless one of its members is at fault. -/
theorem mapM_of_step {f : α → Except ε β} {fault : α → Option ε} {value : α → β}
    (h : ∀ a, f a = unlessFault (fault a) (value a)) (items : List α) :
    items.mapM f = unlessFault (items.findSome? fault) (items.map value) := by
  induction items with
  | nil => rfl
  | cons a rest ih =>
    rw [List.mapM_cons, h, ih, List.findSome?_cons]
    cases fault a with
    | some e => rfl
    | none =>
      cases rest.findSome? fault with
      | some e => rfl
      | none => rfl

end Faults

/-! ### Names of rules -/

/-- The names of the supported rules, each with the rule that goes by it. -/
def namedRules : List (String × NamingRule) :=
  [("lowercase", .lower), ("UPPERCASE", .upper), ("snake_case", .snake),
    ("SCREAMING_SNAKE_CASE", .screamingSnake), ("camelCase", .camel), ("PascalCase", .pascal),
    ("kebab-case", .kebab)]

theorem NamingRule.ofName?_eq_some_iff {name : String} {rule : NamingRule} :
    ofName? name = some rule ↔ (name, rule) ∈ namedRules := by
  constructor
  · intro h
    unfold ofName? at h
    split at h <;> cases h <;> decide
  · intro h
    simp only [namedRules, List.mem_cons, Prod.mk.injEq, List.not_mem_nil, or_false] at h
    rcases h with ⟨rfl, rfl⟩ | ⟨rfl, rfl⟩ | ⟨rfl, rfl⟩ | ⟨rfl, rfl⟩ | ⟨rfl, rfl⟩ | ⟨rfl, rfl⟩ |
      ⟨rfl, rfl⟩ <;> rfl

theorem NamingRule.ofName?_eq_none_iff {name : String} :
    ofName? name = none ↔ name ∉ namedRules.map Prod.fst := by
  rw [Option.eq_none_iff_forall_ne_some, List.mem_map]
  constructor
  · rintro h ⟨⟨_, rule⟩, hmem, rfl⟩
    exact h rule (ofName?_eq_some_iff.mpr hmem)
  · intro h rule hrule
    exact h ⟨(name, rule), ofName?_eq_some_iff.mp hrule, rfl⟩

/-! ### Options -/

namespace Setting

/-- The name of an option; something without a name has an empty one. -/
def name : Setting → String
  | word name => name
  | assigned name _ => name
  | list name _ => name
  | unassigned name _ => name
  | followed s => s.name
  | nameless _ => ""

/-- The text that an option with this name is assigned, if it is. -/
def assigned? (name : String) : Setting → Option String
  | assigned n (.text value) => if n = name then some value else none
  | _ => none

/-- Whether an option is this name alone. -/
def isWord (name : String) : Setting → Bool
  | word n => n = name
  | _ => false

theorem assigned?_of_ne {name : String} {s : Setting} (h : s.name ≠ name) :
    s.assigned? name = none := by
  unfold assigned?
  split
  · exact if_neg h
  · rfl

theorem isWord_of_ne {name : String} {s : Setting} (h : s.name ≠ name) :
    s.isWord name = false := by
  unfold isWord
  split
  · exact decide_eq_false h
  · rfl

/-! What is wrong with an option, step by step from left to right: its name, what stands behind the
name, and the end. -/

/-- What is wrong with the name of an option. -/
def nameFault? : Setting → Option DeclarationError
  | followed s => s.nameFault?
  | nameless literal => some (.expectedName literal)
  | _ => none

/-- What is wrong with the value of an option where that must be a text, if there is one. -/
def valueFault? : Setting → Option DeclarationError
  | assigned _ (.text _) => none
  | assigned _ _ => some .expectedText
  | unassigned _ true => some (.unexpectedEnd .expectedText)
  | unassigned _ false => some .expectedText
  | followed s => s.valueFault?
  | _ => none

/-- What is wrong with the value of an option that must have one, which must be a text. -/
def textFault? : Setting → Option DeclarationError
  | word _ => some .expectedEquals
  | list _ _ => some .expectedEquals
  | followed s => s.textFault?
  | nameless _ => some .expectedEquals
  | s => s.valueFault?

/-- What is wrong with the value of an option that may have any or none. -/
def ignoredFault? : Setting → Option DeclarationError
  | unassigned _ true => some (.unexpectedEnd .expectedExpression)
  | unassigned _ false => some .expectedExpression
  | followed s => s.ignoredFault?
  | _ => none

/-- What is wrong with the value of an option as the name of a rule. -/
def ruleFault? : Setting → Option DeclarationError
  | assigned _ (.text name) =>
    if name ∈ namedRules.map Prod.fst then none else some .unsupportedRule
  | followed s => s.ruleFault?
  | _ => none

/-- What is wrong with an option that has to be a name alone. -/
def aloneFault? : Setting → Option DeclarationError
  | word _ => none
  | _ => some .expectedComma

/-- What is wrong behind an option. -/
def endFault? : Setting → Option DeclarationError
  | followed _ => some .expectedComma
  | _ => none

/-- What is wrong with an option of the `query` family. -/
def queryFault? (s : Setting) : Option DeclarationError :=
  s.nameFault?.or <|
    if s.name = "rename" then s.textFault?.or s.endFault?
    else if s.name = "nested" ∨ s.name = "skip" then s.aloneFault?
    else some .unknownOption

/-- What is wrong with an option of the `serde` family, on a member. -/
def storedFault? (s : Setting) : Option DeclarationError :=
  s.nameFault?.or <|
    if s.name = "rename" then s.valueFault?.or s.endFault?
    else if s.name = "skip" ∨ s.name = "skip_serializing" then s.aloneFault?
    else s.ignoredFault?.or s.endFault?

/-- What is wrong with an option of the `serde` family, on a record. -/
def recordFault? (s : Setting) : Option DeclarationError :=
  s.nameFault?.or <|
    if s.name = "rename_all" then s.valueFault?.or (s.ruleFault?.or s.endFault?)
    else s.ignoredFault?.or s.endFault?

/-! Every step of a reading finds the fault that there is. -/

theorem name?_eq : (s : Setting) → s.name? = unlessFault s.nameFault? s.name
  | word _ => rfl
  | assigned _ _ => rfl
  | list _ _ => rfl
  | unassigned _ _ => rfl
  | followed s => s.name?_eq
  | nameless _ => rfl

/-- The text that an option is assigned, empty if it is assigned none. -/
def value : Setting → String
  | assigned _ (.text value) => value
  | followed s => s.value
  | _ => ""

theorem text?_eq : (s : Setting) → s.text? = unlessFault s.textFault? s.value
  | word _ => rfl
  | assigned _ (.text _) => rfl
  | assigned _ (.integer _) => rfl
  | assigned _ (.boolean _) => rfl
  | assigned _ .expression => rfl
  | list _ _ => rfl
  | unassigned _ true => rfl
  | unassigned _ false => rfl
  | followed s => s.text?_eq
  | nameless _ => rfl

theorem ignored_eq : (s : Setting) → s.ignored = unlessFault s.ignoredFault? ()
  | word _ => rfl
  | assigned _ _ => rfl
  | list _ _ => rfl
  | unassigned _ true => rfl
  | unassigned _ false => rfl
  | followed s => s.ignored_eq
  | nameless _ => rfl

theorem ended_eq {α : Type} (s : Setting) (result : α) :
    s.ended result = unlessFault s.endFault? result := by
  cases s <;> rfl

theorem passedOver_eq {α : Type} (s : Setting) (result : α) :
    s.passedOver result = unlessFault (s.ignoredFault?.or s.endFault?) result := by
  rw [passedOver, ignored_eq]
  exact unlessFault_bind fun _ => s.ended_eq result

theorem text?_bind_eq {α : Type} (s : Setting) (result : String → α) :
    (s.text? >>= fun text => s.ended (result text)) =
      unlessFault (s.textFault?.or s.endFault?) (result s.value) := by
  rw [text?_eq]
  exact unlessFault_bind fun _ => s.ended_eq (result s.value)

/-- Only a word stands alone, so what comes of it needs to be right for a word only. -/
theorem alone_eq {α : Type} {s : Setting} {result result' : α}
    (h : s.isWord s.name = true → result = result') :
    s.alone result = unlessFault s.aloneFault? result' := by
  cases s with
  | word n =>
    have hword : (word n).isWord n = true := decide_eq_true rfl
    exact congrArg Except.ok (h hword)
  | _ => rfl

/-- Behind an equals sign there must be a value. -/
theorem textFault?_eq : {s : Setting} → s.hasEquals = true → s.textFault? = s.valueFault?
  | assigned _ _, _ => rfl
  | unassigned _ _, _ => rfl
  | followed s, h => @textFault?_eq s h

/-- Without an equals sign there is no value to be wrong. -/
theorem valueFault?_eq_none : {s : Setting} → s.hasEquals = false →
    s.valueFault? = none ∧ s.ruleFault? = none ∧ s.ignoredFault? = none
  | word _, _ => ⟨rfl, rfl, rfl⟩
  | list _ _, _ => ⟨rfl, rfl, rfl⟩
  | followed s, h => @valueFault?_eq_none s h
  | nameless _, _ => ⟨rfl, rfl, rfl⟩

theorem assigned?_eq_none {s : Setting} (h : s.hasEquals = false) (name : String) :
    s.assigned? name = none := by
  cases s with
  | assigned n value => cases h
  | _ => rfl

/-- Whether a text is the name of a rule is asked only if there is one. -/
theorem ruleFault?_eq : {s : Setting} → s.textFault? = none →
    s.ruleFault? = if s.value ∈ namedRules.map Prod.fst then none else some .unsupportedRule
  | assigned _ (.text _), _ => rfl
  | unassigned _ true, h => nomatch h
  | unassigned _ false, h => nomatch h
  | followed s, h => @ruleFault?_eq s h

/-- A text behind an equals sign, with nothing behind it, is what the option is assigned. -/
theorem assigned?_eq_some {s : Setting} (htext : s.textFault? = none) (hend : s.endFault? = none) :
    s.assigned? s.name = some s.value := by
  cases s with
  | assigned n value =>
    cases value with
    | text t => exact if_pos rfl
    | integer i => cases htext
    | boolean b => cases htext
    | expression => cases htext
  | unassigned n atEnd => cases atEnd <;> cases htext
  | followed s => cases hend
  | word n => cases htext
  | list n settings => cases htext
  | nameless literal => cases htext

end Setting

end QueryAlgebra
