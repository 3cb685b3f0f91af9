import QueryAlgebra.Filter.Lowering
import QueryAlgebra.Update.Basic

/-!
# Updates as documents

An update document has one entry per kind of update, which lists the paths that this kind of update
changes. So the directives of an update are collected from left to right into groups: a group stands
where its kind first occurs, a path stands in its group where it first occurs there, and the last
value written to a path within a group counts.

* `Update.collect` — the collection, under a policy for payloads that are no directives: they are
  left out with a warning, or the first one ends the collection with a failure that shows it.
* `Update.toDocument` — the lenient document; `toText`, `toBytes` and `toValue` are built from it.
* `Update.tryToDocument` — the strict document.
-/

namespace QueryAlgebra

/-- The directives of an update, grouped. -/
abbrev Groups := List (UpdateKind × Document)

namespace Groups

/-- The groups with one more directive. -/
def add (groups : Groups) (d : Directive) : Groups :=
  Assoc.alter d.kind (fun fields => Assoc.insert (fields.getD []) d.path.text d.value) groups

/-- The groups as an update document. -/
def toDocument (groups : Groups) : Document :=
  groups.map fun (kind, fields) => (kind.symbol, .document fields)

end Groups

/-- What becomes of a payload that is no directive. -/
inductive Policy
  /-- It is left out, with a warning. -/
  | skip
  /-- The update is refused. -/
  | reject
deriving DecidableEq

mutual

/-- The groups after the directives of an update. -/
def Update.collect (policy : Policy) : Update → Groups → Logged (Except QueryError Groups)
  | .directive d, groups => pure (.ok (groups.add d))
  | .combined us, groups => collectAll policy us groups
  | .unrecognized payload, groups =>
    match policy with
    | .skip => ⟨.ok groups, [.payloadSkipped payload]⟩
    | .reject => pure (.error (.unrecognizedUpdate payload.render))

/-- The groups after the directives of updates in order; a failure ends the collection. -/
def collectAll (policy : Policy) : List Update → Groups → Logged (Except QueryError Groups)
  | [], groups => pure (.ok groups)
  | u :: rest, groups => do
    match ← u.collect policy groups with
    | .ok groups => collectAll policy rest groups
    | .error e => pure (.error e)

end

namespace Update

/-- The document of an update under a policy. -/
def lower (policy : Policy) (u : Update) : Logged (Except QueryError Document) :=
  Except.map Groups.toDocument <$> u.collect policy []

/-- The document of an update without the payloads that are no directives. -/
def toDocument (u : Update) : Logged Document := do
  let document := (← u.lower .skip).toOption.getD []
  Logged.report (.updateSerialized document)
  return document

/-- The document of an update all of whose leaves are directives. -/
def tryToDocument (u : Update) : Logged (Except QueryError Document) :=
  u.lower .reject

/-- The readable text of an update. -/
def toText (u : Update) : Logged String :=
  Document.render <$> u.toDocument

/-- The encoding of an update. -/
def toBytes (u : Update) : Logged (Except QueryError (List UInt8)) :=
  Document.toBytes <$> u.toDocument

/-- The value that a reader of extended JSON takes the document of an update for. -/
def toValue (u : Update) : Logged Value :=
  Document.interpret <$> u.toDocument

end Update

/-- An update converted to a document, whether the update is kept or given up for it. -/
def Document.ofUpdate (u : Update) : Logged Document :=
  u.toDocument

end QueryAlgebra
