import QueryAlgebra.Proofs.Update.Grouping
import QueryAlgebra.Proofs.Update.Policies

/-!
# What is reported of an update

A payload has no place in an update document, so the lenient forms of an update leave it out and say
so. What they report is read off the leaves of the tree from left to right, directives and payloads
together:

* `Update.leaves` — the leaves; `filterMap_directive?_leaves` and `filterMap_payload?_leaves` find
  the directives and the payloads among them.
* `Leaf.lines` — what is reported of a leaf: one warning of a payload, and nothing of a directive.
* `toDocument_reports` — every lenient form, the conversion into a document included, reports what
  is to be said of its leaves, then the document. The strict document reports nothing.

So each leaf shows once, a directive in the document and a payload in a warning.
-/

namespace QueryAlgebra

/-! ### Leaves -/

/-- A leaf of an update. -/
inductive Leaf where
  | directive (directive : Directive)
  | payload (payload : Value)

namespace Leaf

/-- The directive that a leaf is, if it is one. -/
def directive? : Leaf → Option Directive
  | .directive d => some d
  | .payload _ => none

/-- The payload that a leaf is, if it is one. -/
def payload? : Leaf → Option Value
  | .directive _ => none
  | .payload v => some v

end Leaf

mutual

/-- The leaves of an update from left to right. -/
def Update.leaves : Update → List Leaf
  | .directive d => [.directive d]
  | .combined us => leavesOf us
  | .unrecognized v => [.payload v]

/-- The leaves of updates, in order. -/
def leavesOf : List Update → List Leaf
  | [] => []
  | u :: rest => u.leaves ++ leavesOf rest

end

theorem leavesOf_eq_flatMap (us : List Update) : leavesOf us = us.flatMap Update.leaves := by
  induction us with
  | nil => rfl
  | cons u rest ih => rw [leavesOf, List.flatMap_cons, ih]

/-- What is read off a tree leaf by leaf is read off its leaves. -/
theorem filterMap_leaves {α : Type} {read : Leaf → Option α} {part : Update → List α}
    (directive : ∀ d, part (.directive d) = (read (.directive d)).toList)
    (payload : ∀ v, part (.unrecognized v) = (read (.payload v)).toList)
    (combined : ∀ us, part (.combined us) = us.flatMap part) (u : Update) :
    u.leaves.filterMap read = part u := by
  have hone : ∀ leaf, [leaf].filterMap read = (read leaf).toList := by
    intro leaf
    cases h : read leaf with
    | none => simp [h]
    | some a => simp [h]
  induction u using Update.induct with
  | directive d => rw [Update.leaves, hone, directive]
  | combined us ih =>
    rw [Update.leaves, leavesOf_eq_flatMap, List.filterMap_flatMap, combined]
    exact List.flatMap_congr ih
  | unrecognized v => rw [Update.leaves, hone, payload]

theorem filterMap_directive?_leaves (u : Update) :
    u.leaves.filterMap Leaf.directive? = u.directives :=
  filterMap_leaves (fun _ => rfl) (fun _ => rfl) directivesOf_eq_flatMap u

theorem filterMap_payload?_leaves (u : Update) :
    u.leaves.filterMap Leaf.payload? = u.payloads :=
  filterMap_leaves (fun _ => rfl) (fun _ => rfl) payloadsOf_eq_flatMap u

/-! ### Reports -/

/-- A line of a log: how important it is, what it says, and its named details. -/
structure LogLine where
  level : Level
  message : String
  fields : List (String × String)

/-- The line that shows an event. -/
def Event.line (e : Event) : LogLine :=
  ⟨e.level, e.message, e.fields⟩

/-- What is reported of a leaf that is met: a payload is shown in a warning. -/
def Leaf.lines : Leaf → List LogLine
  | .directive _ => []
  | .payload v =>
    [⟨.warn, "skipping update payload that is not an update operator", [("payload", v.render)]⟩]

/-- The last line: the document is shown. -/
def Document.line (document : Document) : LogLine :=
  ⟨.trace, "serialized update expression", [("update", document.render)]⟩

/-- Warnings of payloads are what is reported of leaves. -/
theorem map_line_payloadSkipped (leaves : List Leaf) :
    (leaves.filterMap Leaf.payload?).map (fun v => (Event.payloadSkipped v).line) =
      leaves.flatMap Leaf.lines := by
  induction leaves with
  | nil => rfl
  | cons leaf rest ih =>
    rw [List.flatMap_cons, ← ih]
    -- A directive adds nothing to either side, a payload one line to both.
    cases leaf with
    | directive d => rfl
    | payload v => rfl

/-- **Every payload that is left out is reported, once and in order**, and nothing else is but the
document that is returned: the lines of a serialization are those of the leaves from left to right,
of which directives have none, and then that of the document. What is left is the grouping of the
directives among the leaves. Every lenient form serializes once, and so does the conversion of an
update into a document; the strict document does not report anything, whether there is one or
not. -/
theorem toDocument_reports (u : Update) :
    u.toDocument.events.map Event.line =
        u.leaves.flatMap Leaf.lines ++ [Document.line u.toDocument.value] ∧
      u.toDocument.value.IsGrouping (u.leaves.filterMap Leaf.directive?) ∧
      u.toText.events = u.toDocument.events ∧ u.toBytes.events = u.toDocument.events ∧
      u.toValue.events = u.toDocument.events ∧
      (Document.ofUpdate u).value = u.toDocument.value ∧
      (Document.ofUpdate u).events = u.toDocument.events ∧ u.tryToDocument.events = [] := by
  refine ⟨?lines, ?grouping, ?text, ?bytes, ?value, rfl, rfl, ?strict⟩
  case lines =>
    have hevents : u.toDocument.events =
        u.payloads.map .payloadSkipped ++ [.updateSerialized u.toDocument.value] := by
      rw [u.toDocument_eq]
    rw [hevents, List.map_append, List.map_map, ← map_line_payloadSkipped,
      filterMap_payload?_leaves]
    rfl
  case grouping =>
    rw [filterMap_directive?_leaves, u.value_toDocument]
    exact isGrouping_groupsOf u.directives
  case text => exact Logged.events_map _ _
  case bytes => exact Logged.events_map _ _
  case value => exact Logged.events_map _ _
  case strict => rw [u.tryToDocument_eq]

/-- Two payloads around directives. -/
example :
    (Update.combined [.unrecognized (.int32 1), .directive ⟨.set, ⟨"a"⟩, .int32 2⟩,
        .combined [.unrecognized (.array [])]]).toDocument.events =
      [.payloadSkipped (.int32 1), .payloadSkipped (.array []),
        .updateSerialized [("$set", .document [("a", .int32 2)])]] := rfl

end QueryAlgebra
