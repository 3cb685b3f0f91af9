import QueryAlgebra.Field
import QueryAlgebra.Record.Declaration

/-!
# Sets of handles

A record with its keys and kinds is a scheme of paths: rooted at a path, or at the top of a
document, it gives a handle for every member. Embedded records give sets of handles in turn. An
array of records gives the handles on its items in general, without a position, and can be rooted
again at any one item.

* `Member`, `Shape` — the scheme of a record.
* `Handle` — what a member is reached by; `rootedAt` makes the handles of all members.
* `Handle.step?`, `Handle.reach?` — access from a handle onwards.
* `schemeOf?` — the scheme of a declared record, given those of the records it refers to.
-/

namespace QueryAlgebra

mutual

/-- A member of a record: its name, its key and its shape. -/
inductive Member where
  | mk (name segment : String) (shape : Shape)

/-- How a member is laid out in a document. -/
inductive Shape where
  | scalar
  | array
  | nested (members : List Member)
  | elements (members : List Member)

end

/-- What a member is reached by. -/
inductive Handle where
  | field (field : Field)
  | array (array : ArrayField)
  | set (handles : List (String × Handle))
  /-- An array of records: the handle on the whole, the handles on its items in general, and the
  scheme of its items, which gives the handles on any one of them. -/
  | elements (array : ArrayField) (handles : List (String × Handle)) (scheme : List Member)

mutual

/-- The handle on what stands at a path. -/
def Shape.handle : Shape → Path → Handle
  | .scalar, path => .field ⟨path⟩
  | .array, path => .array ⟨path⟩
  | .nested members, path => .set (rootedAt (some path) members)
  | .elements members, path => .elements ⟨path⟩ (rootedAt (some path) members) members

/-- The handles on the members of a record at a root, in order. -/
def rootedAt (root : Option Path) : List Member → List (String × Handle)
  | [] => []
  | .mk name segment shape :: rest =>
    (name, shape.handle (Path.join root segment)) :: rootedAt root rest

end

/-- A step from one handle to the next. -/
inductive Access
  /-- A member, of a record or of the items of an array in general. -/
  | member (name : String)
  /-- One item of an array. -/
  | item (position : Nat)
  /-- An array of records as a whole. -/
  | whole
deriving DecidableEq

namespace Handle

/-- The handle one step further, where there is one. -/
def step? : Handle → Access → Option Handle
  | .set handles, .member name => Assoc.get? handles name
  | .elements _ handles _, .member name => Assoc.get? handles name
  | .elements a _ scheme, .item position =>
    some (.set (rootedAt (some (a.path.index position)) scheme))
  | .elements a _ _, .whole => some (.array a)
  | .array a, .item position => some (.field (a.elementNo position))
  | _, _ => none

/-- The handle at the end of a chain of steps. -/
def reach? : Handle → List Access → Option Handle
  | h, [] => some h
  | h, a :: rest => (h.step? a).bind fun next => next.reach? rest

@[simp] theorem reach?_nil (h : Handle) : h.reach? [] = some h := rfl

@[simp] theorem reach?_cons (h : Handle) (a : Access) (rest : List Access) :
    h.reach? (a :: rest) = (h.step? a).bind fun next => next.reach? rest := rfl

end Handle

/-! ### From declarations -/

/-- The scheme of the record that a type names. -/
def referredTo? (known : List (String × List Member)) : TypeExpr → Option (List Member)
  | .named name none => Assoc.get? known (lastSegment name)
  | _ => none

/-- The shape of a member of the given kind. -/
def MemberKind.shape? (known : List (String × List Member)) : MemberKind → Option Shape
  | .scalar => some .scalar
  | .array => some .array
  | .nested type => (referredTo? known type).map .nested
  | .nestedArray element => (referredTo? known element).map .elements

/-- The scheme of a declared record; none where the declaration has an error or refers to a record
that is not known. -/
def schemeOf? (known : List (String × List Member)) (d : Declaration) : Option (List Member) := do
  let outline ← d.derive.toOption
  outline.members.mapM fun m =>
    (m.kind.shape? known).map fun shape => .mk (plainName m.identifier) m.segment shape

/-- The schemes of declared records by name. Each may refer to those before it. -/
def schemesOf? (declarations : List Declaration) : Option (List (String × List Member)) :=
  declarations.foldlM (fun known d => do
    let members ← schemeOf? known d
    return known ++ [(plainName d.name, members)]) []

end QueryAlgebra
