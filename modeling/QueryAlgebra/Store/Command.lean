import QueryAlgebra.Update.Lowering
import QueryAlgebra.Value.Received

/-!
# Commands and replies

What a store asks of its server, and what the server may answer.

* `Command` — the commands; `Command.count` and `Command.copy` are the two that run a pipeline.
* `Command.nulKey?` — the first key of a command that cannot be encoded, which keeps it from being
  sent.
* `Reply` — the answers, and the readers of the answer to each command.
* `Command.transmitted`, `Reply.transmitted` — what arrives at the other end; `Command.answer` is
  what comes back of a command.
-/

namespace QueryAlgebra

/-- A command to the server. -/
inductive Command where
  | find (database collection : String) (filter : Document)
  | aggregate (database collection : String) (pipeline : List Document)
  | update (database collection : String) (filter changes : Document) (many : Bool)
  | drop (database collection : String)

namespace Command

/-- The documents in a command, in the order in which they are sent. -/
def documents : Command → List Document
  | .find _ _ filter => [filter]
  | .aggregate _ _ pipeline => pipeline
  | .update _ _ filter changes _ => [filter, changes]
  | .drop _ _ => []

/-- The first key in the documents of a command that cannot be encoded. -/
def nulKey? (c : Command) : Option String :=
  c.documents.findSome? Document.nulKey?

/-- The command as it arrives. -/
def transmitted : Command → Command
  | .find database collection filter => .find database collection (Document.transmitted filter)
  | .aggregate database collection pipeline =>
    .aggregate database collection (pipeline.map Document.transmitted)
  | .update database collection filter changes many =>
    .update database collection (Document.transmitted filter) (Document.transmitted changes) many
  | .drop database collection => .drop database collection

/-- Counts the documents that match a filter: a group of all of them adds up one for each. -/
def count (database collection : String) (filter : Document) : Command :=
  .aggregate database collection
    [[("$match", .document filter)],
      [("$group", .document [("_id", .int32 1), ("n", .document [("$sum", .int32 1)])])]]

/-- Copies all documents of a collection to another one, in place of what is there. -/
def copy (database source target : String) : Command :=
  .aggregate database source [[("$match", .document [])], [("$out", .string target)]]

end Command

/-- An answer of the server. -/
inductive Reply where
  /-- What a command has found, which should be documents. -/
  | documents (results : List Value)
  | counts (matched modified : Int)
  | failure (code : Int) (message : String)

/-- How many documents an update found, and how many of them it changed. -/
structure UpdateCounts where
  matched : Nat
  modified : Nat
deriving DecidableEq

namespace Reply

/-- The answer as it arrives. -/
def transmitted : Reply → Reply
  | .documents results => .documents (transmittedItems results)
  | r => r

/-- The cause of failure of a command that got this answer in place of the one it asks for. -/
def refusal : Reply → QueryError
  | .failure _ message => .backend message
  | _ => .backend "unexpected reply"

/-- Results, each decoded; one that cannot be decoded fails the whole. -/
def decodedValues {α : Type} (decode : Value → Option α) : Reply → Except QueryError (List α)
  | .documents results =>
    match results.mapM decode with
    | some decoded => .ok decoded
    | none => .error (.backend "invalid document")
  | r => .error r.refusal

/-- Documents, each decoded. -/
def decoded {α : Type} (decode : Document → Option α) : Reply → Except QueryError (List α) :=
  decodedValues fun
    | .document d => decode d
    | _ => none

/-- The count in a result: the natural number under `n`, or the first of an array. -/
def countOf? : Value → Option Nat
  | .document d => (Assoc.get? d "n").bind Value.count?
  | .array (n :: _) => n.count?
  | _ => none

/-- The count in the last result, and zero where there is none. -/
def counted (r : Reply) : Except QueryError Nat := do
  return (← r.decodedValues countOf?).getLast?.getD 0

/-- The counts of an update. -/
def updateCounts : Reply → Except QueryError UpdateCounts
  | .counts matched modified =>
    match matched.toNat?, modified.toNat? with
    | some matched, some modified => .ok ⟨matched, modified⟩
    | _, _ => .error (.backend "invalid count")
  | r => .error r.refusal

/-- Documents, of which nothing is wanted but that they can be received. -/
def acknowledged (r : Reply) : Except QueryError Unit := do
  let _ ← r.decoded Document.received?

/-- The code of a failure for want of the collection. -/
def missingCollection : Int := 26

/-- The answer to a command that drops a collection: a collection that is not there counts as
dropped. -/
def dropped : Reply → Except QueryError Unit
  | .failure code message =>
    if code = missingCollection then .ok () else .error (Reply.failure code message).refusal
  | _ => .ok ()

end Reply

/-- What comes back of a command: the answer of the server, or a failure if the command cannot be
encoded and so does not reach it. -/
def Command.answer (server : Command → Reply) (c : Command) : Except QueryError Reply :=
  match c.nulKey? with
  | some key => .error (.backend (QueryError.nulInKey key).detail)
  | none => .ok (server c.transmitted).transmitted

end QueryAlgebra
