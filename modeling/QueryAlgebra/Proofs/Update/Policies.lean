import Mathlib.Data.List.Basic
import QueryAlgebra.Proofs.Update.Collection

/-!
# Lenient and strict documents

The two ways to write an update as a document differ in what becomes of payloads, and in nothing
else. The strict one succeeds exactly on updates without payloads, with the lenient document, and
fails with the first payload otherwise; the lenient one is the strict one of the update from which
the payloads are removed (`Update.withoutPayloads`). All of this is `tryToDocument_agrees`.

Removing the payloads keeps the directives, so it keeps the groups that a collection ends with
(`directives_withoutPayloads`, `payloads_withoutPayloads`).
-/

namespace QueryAlgebra

/-! ### Removing payloads -/

mutual

/-- What is left of an update without its payloads; of a payload nothing is. -/
def Update.recognized? : Update → Option Update
  | .directive d => some (.directive d)
  | .combined us => some (.combined (recognizedOf us))
  | .unrecognized _ => none

/-- What is left of updates without their payloads, in order. -/
def recognizedOf : List Update → List Update
  | [] => []
  | u :: rest => u.recognized?.toList ++ recognizedOf rest

end

/-- The update without its payloads. If it is a payload itself, no updates at all are left. -/
def Update.withoutPayloads (u : Update) : Update :=
  u.recognized?.getD (.combined [])

theorem directivesOf_eq_flatMap (us : List Update) :
    directivesOf us = us.flatMap Update.directives := by
  induction us with
  | nil => rfl
  | cons u rest ih => rw [directivesOf, List.flatMap_cons, ih]

theorem payloadsOf_eq_flatMap (us : List Update) :
    payloadsOf us = us.flatMap Update.payloads := by
  induction us with
  | nil => rfl
  | cons u rest ih => rw [payloadsOf, List.flatMap_cons, ih]

theorem recognizedOf_eq_flatMap (us : List Update) :
    recognizedOf us = us.flatMap fun u => u.recognized?.toList := by
  induction us with
  | nil => rfl
  | cons u rest ih => rw [recognizedOf, List.flatMap_cons, ih]

/-- What is left of an update has its directives. -/
theorem directives_recognized? (u : Update) :
    u.recognized?.toList.flatMap Update.directives = u.directives := by
  induction u using Update.induct with
  | directive d => rfl
  | combined us ih =>
    rw [Update.recognized?, Option.toList_some, List.flatMap_singleton, Update.directives,
      Update.directives, directivesOf_eq_flatMap, directivesOf_eq_flatMap, recognizedOf_eq_flatMap,
      List.flatMap_assoc]
    exact List.flatMap_congr ih
  | unrecognized v => rfl

/-- What is left of an update has no payload. -/
theorem payloads_recognized? (u : Update) :
    u.recognized?.toList.flatMap Update.payloads = [] := by
  induction u using Update.induct with
  | directive d => rfl
  | combined us ih =>
    rw [Update.recognized?, Option.toList_some, List.flatMap_singleton, Update.payloads,
      payloadsOf_eq_flatMap, recognizedOf_eq_flatMap, List.flatMap_assoc]
    exact List.flatMap_eq_nil_iff.mpr ih
  | unrecognized v => rfl

/-- The leaves of what is left: none, if nothing is. -/
theorem leaves_withoutPayloads {α : Type} {leaves : Update → List α}
    (h : leaves (.combined []) = []) (u : Update) :
    leaves u.withoutPayloads = u.recognized?.toList.flatMap leaves := by
  rw [Update.withoutPayloads]
  cases u.recognized? with
  | none => exact h
  | some w => exact (List.append_nil _).symm

theorem directives_withoutPayloads (u : Update) : u.withoutPayloads.directives = u.directives :=
  (leaves_withoutPayloads rfl u).trans (directives_recognized? u)

theorem payloads_withoutPayloads (u : Update) : u.withoutPayloads.payloads = [] :=
  (leaves_withoutPayloads rfl u).trans (payloads_recognized? u)

/-! ### The two documents -/

/-- Without payloads the strict document is the lenient one. -/
theorem tryToDocument_of_payloads_eq_nil {u : Update} (h : u.payloads = []) :
    u.tryToDocument.value = .ok u.toDocument.value := by
  rw [Update.tryToDocument_eq, Update.value_toDocument, h]
  rfl

/-- The first payload is the cause of failure, wherever it stands. -/
theorem tryToDocument_of_payloads_eq_cons {u : Update} {v : Value} {rest : List Value}
    (h : u.payloads = v :: rest) :
    u.tryToDocument.value = .error (.unrecognizedUpdate v.render) := by
  rw [Update.tryToDocument_eq, h]
  rfl

/-- Payloads that are removed and payloads that are left out make the same document. -/
theorem toDocument_withoutPayloads (u : Update) :
    u.withoutPayloads.toDocument.value = u.toDocument.value := by
  rw [Update.value_toDocument, Update.value_toDocument, directives_withoutPayloads]

/-- **The strict and the lenient document agree.** The strict one exists exactly for updates without
payloads and is the lenient one then; else the failure shows the first payload. The lenient one is
always the strict one of what is left without payloads, and is always that of a collection that
succeeded, never the empty document in place of a failed one. -/
theorem tryToDocument_agrees (u : Update) :
    (∀ document, u.tryToDocument.value = .ok document ↔
        u.payloads = [] ∧ document = u.toDocument.value) ∧
      (∀ e, u.tryToDocument.value = .error e ↔
        ∃ v, u.payloads.head? = some v ∧ e = .unrecognizedUpdate v.render ∧
          e.detail = v.render) ∧
      u.withoutPayloads.tryToDocument.value = .ok u.toDocument.value ∧
      ∃ document, (u.lower .skip).value = .ok document ∧ u.toDocument.value = document := by
  refine ⟨fun document => ?_, fun e => ?_, ?_, ?_⟩
  · -- Whether there is a first payload decides between success and failure.
    cases h : u.payloads with
    | nil =>
      rw [tryToDocument_of_payloads_eq_nil h, Except.ok.injEq]
      exact ⟨fun he => ⟨rfl, he.symm⟩, fun he => he.2.symm⟩
    | cons v rest =>
      rw [tryToDocument_of_payloads_eq_cons h]
      constructor
      · intro he
        cases he
      · rintro ⟨hp, -⟩
        cases hp
  · cases h : u.payloads with
    | nil =>
      rw [tryToDocument_of_payloads_eq_nil h]
      constructor
      · intro he
        cases he
      · rintro ⟨v, hv, -⟩
        cases hv
    | cons v rest =>
      rw [tryToDocument_of_payloads_eq_cons h, Except.error.injEq, List.head?_cons]
      constructor
      · rintro rfl
        exact ⟨v, rfl, rfl, rfl⟩
      · rintro ⟨w, hw, rfl, -⟩
        rw [Option.some.inj hw]
  · rw [tryToDocument_of_payloads_eq_nil (payloads_withoutPayloads u), toDocument_withoutPayloads]
  · exact ⟨(groupsOf u.directives).toDocument, u.lower_skip, u.value_toDocument⟩

end QueryAlgebra
