import QueryAlgebra.Record.Options
import QueryAlgebra.Record.TypeExpr

/-!
# Record declarations and their field sets

From the declaration of a record a set of handles is derived, one for each member that is not left
out. This module says for which declarations that is possible and what the set looks like.

* `Declaration` — a declared type: a record with named members, or one of the shapes that have none.
* `FieldSetOutline` — the derived set: its name and what goes with it, and its members with their
  keys and kinds.
* `Declaration.derive` — the outline of a declaration, or the first error in it.
-/

namespace QueryAlgebra

/-- A parameter of a declared type. -/
inductive Parameter
  | lifetime (name : String)
  | type (name : String)
  | const (name : String)

/-- A member of a declared record. -/
structure DeclaredMember where
  name : String
  type : TypeExpr
  attributes : List Attribute

/-- What a type is declared as. -/
inductive DeclarationBody where
  | record (members : List DeclaredMember)
  | tuple
  | unit
  | enumeration
  | union

/-- The declaration of a type. -/
structure Declaration where
  name : String
  visibility : String
  parameters : List Parameter
  attributes : List Attribute
  body : DeclarationBody

/-- How a member is queried. -/
inductive MemberKind where
  | scalar
  | array
  /-- A record of its own. -/
  | nested (type : TypeExpr)
  /-- An array of records. -/
  | nestedArray (element : TypeExpr)

/-- A member of a derived set. -/
structure OutlineMember where
  identifier : String
  segment : String
  kind : MemberKind

/-- What a derived member says about itself. -/
def OutlineMember.documentation (m : OutlineMember) : String :=
  "Handle for `" ++ m.segment ++ "`."

/-- A derived set of handles. -/
structure FieldSetOutline where
  name : String
  visibility : String
  documentation : String
  parameters : String
  recordType : String
  members : List OutlineMember

/-- A name without the mark that lets a keyword be a name. -/
def plainName (name : String) : String :=
  match name.toList with
  | 'r' :: '#' :: rest => String.ofList rest
  | _ => name

/-- The kind of a member: a nested sequence is an array of records, a nested type with its wrappers
off is a record, and of the others a sequence is an array. -/
def MemberKind.ofType (nested : Bool) (type : TypeExpr) : MemberKind :=
  match nested, type.sequenceElement? with
  | true, some element => .nestedArray element
  | true, none => .nested type.unwrapped
  | false, some _ => .array
  | false, none => .scalar

/-- The derived member of a declared one, unless it is left out. -/
def DeclaredMember.derive (rule : Option NamingRule) (m : DeclaredMember) :
    Except DeclarationError (Option OutlineMember) := do
  let options ← MemberOptions.ofAttributes m.attributes
  if options.skip then return none
  return some
    { identifier := m.name
      segment := options.segment rule (plainName m.name)
      kind := MemberKind.ofType options.nested m.type }

namespace Parameter

/-- A parameter is lifetime or not; lifetimes are written first. -/
def isLifetime : Parameter → Bool
  | .lifetime _ => true
  | _ => false

/-- How a parameter is declared. -/
def declared : Parameter → String
  | .lifetime name => "'" ++ name
  | .type name => name
  | .const name => "const" ++ name ++ ":usize"

/-- How a parameter is used. -/
def used : Parameter → String
  | .lifetime name => "'" ++ name
  | .type name => name
  | .const name => name

/-- Parameters between angle brackets, lifetimes before the others; nothing where there are none. A
parameter keeps the comma that stood behind it, so that one that is moved away from the end of the
list takes a comma to the end. -/
def bracketed (text : Parameter → String) (parameters : List Parameter) : String :=
  let last := parameters.length - 1
  let indexed := parameters.zipIdx
  let lifetimes := indexed.filter (·.1.isLifetime)
  let others := indexed.filter (!·.1.isLifetime)
  let written (p : Parameter × Nat) : String := text p.1 ++ (if p.2 < last then "," else "")
  let between := match lifetimes.getLast? with
    | some (_, position) => if position < last ∨ others.isEmpty then "" else ","
    | none => ""
  if parameters.isEmpty then ""
  else
    "<" ++ String.join (lifetimes.map written) ++ between ++ String.join (others.map written) ++ ">"

end Parameter

/-- The members of a record, which a set can be derived for only if they are named and of fixed
types. -/
def Declaration.members (d : Declaration) : Except DeclarationError (List DeclaredMember) :=
  if d.parameters.any fun p => p matches .type _ then .error .typeParameters
  else match d.body with
    | .record members => .ok members
    | .tuple => .error .unnamedMembers
    | .unit => .error .unnamedMembers
    | .enumeration => .error .notARecord
    | .union => .error .notARecord

/-- The set of handles of a declaration. -/
def Declaration.derive (d : Declaration) : Except DeclarationError FieldSetOutline := do
  let members ← d.members
  let rule ← namingRule d.attributes
  let derived ← members.mapM (DeclaredMember.derive rule)
  return {
    name := plainName d.name ++ "Fields"
    visibility := withoutBlanks d.visibility
    documentation := "Query field handles for [`" ++ d.name ++ "`]."
    parameters := Parameter.bracketed Parameter.declared d.parameters
    recordType := d.name ++ Parameter.bracketed Parameter.used d.parameters
    members := derived.filterMap id }

end QueryAlgebra
