import QueryAlgebra.Text.Quoted

/-!
# What can go wrong

* `ErrorKind` — the five kinds of failure, each with the heading of its messages.
* `QueryError` — the causes. `QueryError.kind` files a cause under its kind and `QueryError.message`
  is its full text.
-/

namespace QueryAlgebra

/-- The kinds of failure. -/
inductive ErrorKind
  | serialization
  | deserialization
  | unrecognizedUpdate
  | initialization
  | backend
deriving DecidableEq

namespace ErrorKind

/-- What stands before the details of a failure. -/
def heading : ErrorKind → String
  | .serialization => "Serialization error"
  | .deserialization => "Deserialization error"
  | .unrecognizedUpdate => "Unrecognized update payload"
  | .initialization => "Initialization error"
  | .backend => "Backend error"

/-- The message of a failure with the given details. -/
def message (kind : ErrorKind) (detail : String) : String :=
  kind.heading ++ ": " ++ detail

end ErrorKind

/-- The causes of failure. -/
inductive QueryError where
  /-- A key contains a NUL, so the document cannot be encoded. -/
  | nulInKey (key : String)
  /-- A text is not JSON. -/
  | malformedJson
  /-- An update does nothing. -/
  | emptyUpdate
  /-- An update carries a payload that is no update directive; the text shows it. -/
  | unrecognizedUpdate (payload : String)
  /-- A connection string names no server. -/
  | invalidAddress (address : String)
  /-- The server, or what connects to it, did not do what it was asked. -/
  | backend (detail : String)

namespace QueryError

/-- The kind of a failure. -/
def kind : QueryError → ErrorKind
  | .nulInKey _ => .serialization
  | .malformedJson => .serialization
  | .emptyUpdate => .serialization
  | .unrecognizedUpdate _ => .unrecognizedUpdate
  | .invalidAddress _ => .initialization
  | .backend _ => .backend

/-- The details of a failure. -/
def detail : QueryError → String
  | .nulInKey key =>
    "BSON error. Kind: Malformed BSON bytes. Message: cstring with interior null: " ++
      Text.quote key ++ "."
  | .malformedJson => "malformed JSON"
  | .emptyUpdate => "update expression contains no update operators"
  | .unrecognizedUpdate payload => payload
  | .invalidAddress address => "invalid connection string " ++ Text.quote address
  | .backend detail => detail

/-- The message of a failure. -/
def message (e : QueryError) : String :=
  e.kind.message e.detail

end QueryError

end QueryAlgebra
