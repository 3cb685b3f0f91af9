/-!
# Types of record members

The type a member is declared with decides how it is queried: an array, an embedded record, an array
of records or a scalar. Types are known by their written form only, so that a sequence or a wrapper
is told by the last segment of its name.

* `TypeExpr` — a written type; `TypeExpr.text` writes it without white space.
* `TypeExpr.unwrapped` — the type within optional and boxed values.
* `TypeExpr.sequenceElement?` — the item type of a sequence, seen through wrappers and references.
-/

namespace QueryAlgebra

mutual

/-- A type as it is written. -/
inductive TypeExpr where
  /-- A name, and the arguments in angle brackets if there are any brackets. -/
  | named (name : String) (arguments : Option (List TypeArgument))
  | array (element : TypeExpr) (length : Nat)
  | slice (element : TypeExpr)
  | reference (lifetime : Option String) (referent : TypeExpr)
  | tuple (items : List TypeExpr)
  | parenthesized (inner : TypeExpr)

/-- What stands between the angle brackets of a type. -/
inductive TypeArgument where
  | lifetime (name : String)
  | type (type : TypeExpr)

end

/-- A text without its white space. -/
def withoutBlanks (s : String) : String :=
  String.ofList (s.toList.filter fun c => !c.isWhitespace)

/-- The last segment of a name whose segments stand between double colons. -/
def lastSegment (name : String) : String :=
  String.ofList ((withoutBlanks name).toList.reverse.takeWhile (· != ':')).reverse

mutual

/-- The written form of a type, without white space. -/
def TypeExpr.text : TypeExpr → String
  | .named name none => withoutBlanks name
  | .named name (some arguments) =>
    withoutBlanks name ++ "<" ++ ",".intercalate (argumentTexts arguments) ++ ">"
  | .array element length => "[" ++ element.text ++ ";" ++ Nat.repr length ++ "]"
  | .slice element => "[" ++ element.text ++ "]"
  | .reference none referent => "&" ++ referent.text
  | .reference (some lifetime) referent => "&'" ++ lifetime ++ referent.text
  | .tuple items => "(" ++ String.join ((itemTexts items).map (· ++ ",")) ++ ")"
  | .parenthesized inner => "(" ++ inner.text ++ ")"

/-- The written forms of arguments. -/
def argumentTexts : List TypeArgument → List String
  | [] => []
  | a :: rest => a.text :: argumentTexts rest

/-- The written form of an argument. -/
def TypeArgument.text : TypeArgument → String
  | .lifetime name => "'" ++ name
  | .type type => type.text

/-- The written forms of the items of a tuple. -/
def itemTexts : List TypeExpr → List String
  | [] => []
  | t :: rest => t.text :: itemTexts rest

end

/-! ### Classification -/

/-- Whether a name is that of a wrapper, which changes nothing about how a member is queried. -/
def isWrapperName (name : String) : Bool :=
  ["Option", "Box"].contains (lastSegment name)

/-- Whether a name is that of a sequence. -/
def isSequenceName (name : String) : Bool :=
  ["Vec", "VecDeque", "HashSet", "BTreeSet", "LinkedList"].contains (lastSegment name)

/-- The first type among arguments. -/
def firstType? : List TypeArgument → Option TypeExpr
  | [] => none
  | .type t :: _ => some t
  | .lifetime _ :: rest => firstType? rest

mutual

/-- The type that remains when all wrappers around it are taken off. A wrapper without a type
between its brackets stays. -/
def TypeExpr.unwrapped : TypeExpr → TypeExpr
  | .named name (some arguments) =>
    if isWrapperName name then (unwrappedArgument? arguments).getD (.named name (some arguments))
    else .named name (some arguments)
  | t => t

/-- The first type among arguments, unwrapped. -/
def unwrappedArgument? : List TypeArgument → Option TypeExpr
  | [] => none
  | .type t :: _ => some t.unwrapped
  | .lifetime _ :: rest => unwrappedArgument? rest

end

mutual

/-- The item type of a sequence: an array, a slice, or a named sequence with a type between its
brackets, with any wrappers and references around it. -/
def TypeExpr.sequenceElement? : TypeExpr → Option TypeExpr
  | .array element _ => some element
  | .slice element => some element
  | .reference _ referent => referent.sequenceElement?
  | .named name (some arguments) =>
    if isWrapperName name then elementOfArgument? arguments
    else if isSequenceName name then firstType? arguments
    else none
  | _ => none

/-- The item type of the first type among arguments. -/
def elementOfArgument? : List TypeArgument → Option TypeExpr
  | [] => none
  | .type t :: _ => t.sequenceElement?
  | .lifetime _ :: rest => elementOfArgument? rest

end

end QueryAlgebra
