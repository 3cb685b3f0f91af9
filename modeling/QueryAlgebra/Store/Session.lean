import QueryAlgebra.Store.Address
import QueryAlgebra.Store.Command

/-!
# Working with a store

A store is a database on some servers. Each of its operations writes filters and updates as
documents, reports what it is about to do, makes at most one request and reads the answer. Updates
are written strictly: one that cannot be written in full, or that does nothing, is refused before
any request.

The server is a function from commands to replies, so that what an operation asks for and what it
makes of the answer are both part of its result.

* `Exchange` — what was requested and what came of it; `Exchange.sent` is what the server saw.
* `Store.find`, `Store.count`, `Store.update`, `Store.copy`, `Store.drop` — the operations.
-/

namespace QueryAlgebra

/-- What an operation asked for, and what came of it. -/
structure Exchange (α : Type) where
  /-- The commands that the operation made. -/
  requested : List Command
  result : Except QueryError α

/-- A database on some servers. -/
structure Store where
  hosts : List Host
  database : String

namespace Exchange

variable {α : Type}

/-- Nothing is requested. -/
def refused (e : QueryError) : Exchange α :=
  ⟨[], .error e⟩

/-- A command is requested, and what comes back of it is read. -/
def run (server : Command → Reply) (c : Command) (read : Reply → Except QueryError α) :
    Exchange α :=
  ⟨[c], c.answer server >>= read⟩

/-- The commands that went to the server, which are those that could be encoded. -/
def sent (exchange : Exchange α) : List Command :=
  exchange.requested.filter fun c => c.nulKey?.isNone

end Exchange

namespace Store

/-- The store at a connection string. No server is asked yet. -/
def connect (address database : String) : Except QueryError Store := do
  return ⟨← hostsOfAddress address, database⟩

/-- The document of an update that is to be sent: written strictly, and not empty. -/
def updateDocument (u : Update) : Logged (Except QueryError Document) := do
  match ← u.tryToDocument with
  | .error e => return .error e
  | .ok [] => return .error .emptyUpdate
  | .ok changes => return .ok changes

variable {α : Type}

/-- The documents that match a filter, decoded. -/
def find (s : Store) (server : Command → Reply) (decode : Document → Option α) (collection : String)
    (f : Filter) : Logged (Exchange (List α)) := do
  let filter ← f.toDocument
  Logged.report (.find collection filter)
  return .run server (.find s.database collection filter) (Reply.decoded decode)

/-- The number of documents that match a filter. -/
def count (s : Store) (server : Command → Reply) (collection : String) (f : Filter) :
    Logged (Exchange Nat) := do
  let filter ← f.toDocument
  Logged.report (.count collection filter)
  return .run server (.count s.database collection filter) Reply.counted

/-- Applies an update to the first document that matches a filter, or to every one. -/
def update (s : Store) (server : Command → Reply) (many : Bool) (collection : String) (f : Filter)
    (u : Update) : Logged (Exchange UpdateCounts) := do
  let filter ← f.toDocument
  match ← updateDocument u with
  | .error e => return .refused e
  | .ok changes =>
    Logged.report (.update many collection filter changes)
    return .run server (.update s.database collection filter changes many) Reply.updateCounts

/-- Copies a collection to another one, in place of what is there. -/
def copy (s : Store) (server : Command → Reply) (source target : String) :
    Logged (Exchange Unit) := do
  Logged.report (.copy source target)
  return .run server (.copy s.database source target) Reply.acknowledged

/-- Drops a collection. -/
def drop (s : Store) (server : Command → Reply) (collection : String) : Logged (Exchange Unit) :=
  return .run server (.drop s.database collection) Reply.dropped

end Store

/-- The text under a key of a document. -/
def Document.text? (d : Document) (key : String) : Option String :=
  (Assoc.get? d key).bind Value.text?

end QueryAlgebra
