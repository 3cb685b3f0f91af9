import QueryAlgebra.Path
import QueryAlgebra.Value.Equality
import QueryAlgebra.Vocabulary

/-!
# Updates

An update is a tree of directives, each of which does one thing to the value at one path. Besides
directives a tree may hold payloads that are none, which have no place in an update document.

* `Directive`, `Update` — the leaves and the trees.
* `Update.and` — one new node over its arguments in order.
* `Update.directives`, `Update.payloads` — the leaves of either sort, from left to right.
-/

namespace QueryAlgebra

/-- One thing done to the value at one path. -/
structure Directive where
  kind : UpdateKind
  path : Path
  value : Value

/-- A change of documents. -/
inductive Update where
  | directive (directive : Directive)
  /-- The updates are applied together. -/
  | combined (updates : List Update)
  /-- A payload that is no directive. -/
  | unrecognized (payload : Value)

namespace Update

/-- An update and the updates after it, together. -/
def and (u : Update) (more : List Update) : Update :=
  .combined (u :: more)

end Update

mutual

/-- The directives of an update from left to right. -/
def Update.directives : Update → List Directive
  | .directive d => [d]
  | .combined us => directivesOf us
  | .unrecognized _ => []

/-- The directives of updates, in order. -/
def directivesOf : List Update → List Directive
  | [] => []
  | u :: rest => u.directives ++ directivesOf rest

end

mutual

/-- The payloads of an update that are no directives, from left to right. -/
def Update.payloads : Update → List Value
  | .directive _ => []
  | .combined us => payloadsOf us
  | .unrecognized v => [v]

/-- The payloads of updates that are no directives, in order. -/
def payloadsOf : List Update → List Value
  | [] => []
  | u :: rest => u.payloads ++ payloadsOf rest

end

/-! ### Equality of content -/

/-- Whether two directives do the same, values compared by content. -/
def Directive.sameContent (d e : Directive) : Bool :=
  d.kind == e.kind && d.path == e.path && d.value.sameContent e.value

mutual

/-- Whether two updates are the same tree, values compared by content. -/
def Update.sameContent : Update → Update → Bool
  | .directive d, u => match u with | .directive e => d.sameContent e | _ => false
  | .combined us, u => match u with | .combined ws => sameUpdates us ws | _ => false
  | .unrecognized v, u => match u with | .unrecognized w => v.sameContent w | _ => false

/-- Whether two lists of updates are the same, one by one. -/
def sameUpdates : List Update → List Update → Bool
  | [], [] => true
  | u :: us, w :: ws => u.sameContent w && sameUpdates us ws
  | _, _ => false

end

end QueryAlgebra
