import QueryAlgebra.Record.Naming

/-!
# Options of records and members

Records and their members carry attributes, lists of options. Two families matter: `query`, which
speaks about queries, and `serde`, which speaks about how records are stored and whose options
mostly have no bearing here.

* `Attribute`, `Setting`, `Literal` — attributes as they are written.
* `MemberOptions.ofAttributes` — what the attributes of a member ask for; the first malformed option
  is an error.
* `namingRule` — the rule that the attributes of a record state.
* `MemberOptions.segment` — the key of a member, explicit names before rules.
-/

namespace QueryAlgebra

/-- A value of an option. -/
inductive Literal
  | text (value : String)
  | integer (value : Int)
  | boolean (value : Bool)
  /-- An expression that is no literal and does not begin with a text. -/
  | expression

/-- One option within an attribute. The last three forms are malformed, whatever the name of the
option is. -/
inductive Setting where
  /-- A name alone. -/
  | word (name : String)
  /-- A name, an equals sign and a value. -/
  | assigned (name : String) (value : Literal)
  /-- A name and further options in parentheses. -/
  | list (name : String) (settings : List Setting)
  /-- A name and an equals sign with no value behind it, before a comma or at the end of the
  attribute. -/
  | unassigned (name : String) (atEnd : Bool)
  /-- An option with something behind it, before the comma, that does not belong to it. -/
  | followed (setting : Setting)
  /-- A literal, or else a sign, where the name of an option should be. -/
  | nameless (literal : Bool)

/-- What follows the name of an attribute. -/
inductive AttributeBody where
  | empty
  | assigned (value : Literal)
  | list (settings : List Setting)

/-- An attribute of a record or a member. -/
structure Attribute where
  name : String
  body : AttributeBody

/-- What can be wrong with the declaration of a record. -/
inductive DeclarationError
  | typeParameters
  | unnamedMembers
  | notARecord
  | unsupportedRule
  | unknownOption
  | expectedArguments (owner : String)
  | expectedParentheses (owner : String)
  | expectedEquals
  | expectedText
  | expectedExpression
  | expectedComma
  | expectedName (literal : Bool)
  /-- The attribute ends where something is expected. -/
  | unexpectedEnd (expected : DeclarationError)
deriving DecidableEq

/-- The message of an error. -/
def DeclarationError.message : DeclarationError → String
  | .typeParameters => "QueryFields cannot be derived for structs with type parameters"
  | .unnamedMembers => "QueryFields requires a struct with named fields"
  | .notARecord => "QueryFields can only be derived for structs"
  | .unsupportedRule => "unsupported rename_all rule"
  | .unknownOption => "expected `rename = \"...\"`, `nested` or `skip`"
  | .expectedArguments owner =>
    "expected attribute arguments in parentheses: #[" ++ owner ++ "(...)]"
  | .expectedParentheses owner => "expected parentheses: #[" ++ owner ++ "(...)]"
  | .expectedEquals => "expected `=`"
  | .expectedText => "expected string literal"
  | .expectedExpression => "expected an expression"
  | .expectedComma => "expected `,`"
  | .expectedName true => "unexpected literal in nested attribute, expected ident"
  | .expectedName false => "unexpected token in nested attribute, expected ident"
  | .unexpectedEnd expected => "unexpected end of input, " ++ expected.message

/-- The options in an attribute, which must be in parentheses. -/
def Attribute.settings (a : Attribute) : Except DeclarationError (List Setting) :=
  match a.body with
  | .list settings => .ok settings
  | .empty => .error (.expectedArguments a.name)
  | .assigned _ => .error (.expectedParentheses a.name)

/-- The text of a literal, which must be one. -/
def Literal.text? : Literal → Except DeclarationError String
  | .text value => .ok value
  | _ => .error .expectedText

namespace Setting

/-- The name of an option, which must have one. -/
def name? : Setting → Except DeclarationError String
  | word name => .ok name
  | assigned name _ => .ok name
  | list name _ => .ok name
  | unassigned name _ => .ok name
  | followed s => s.name?
  | nameless literal => .error (.expectedName literal)

/-- Whether an equals sign stands behind the name of an option. -/
def hasEquals : Setting → Bool
  | assigned _ _ => true
  | unassigned _ _ => true
  | followed s => s.hasEquals
  | _ => false

/-- What is wrong where a value is missing. -/
def missing (atEnd : Bool) (expected : DeclarationError) : DeclarationError :=
  if atEnd then .unexpectedEnd expected else expected

/-- The text that an option is assigned, which must be one. -/
def text? : Setting → Except DeclarationError String
  | assigned _ value => value.text?
  | unassigned _ atEnd => .error (missing atEnd .expectedText)
  | followed s => s.text?
  | _ => .error .expectedEquals

/-- An option that has been read up to its end, where a comma must follow. -/
def ended {α : Type} (s : Setting) (result : α) : Except DeclarationError α :=
  match s with
  | followed _ => .error .expectedComma
  | _ => .ok result

/-- An option that is a name alone; anything behind the name is an error. -/
def alone {α : Type} (s : Setting) (result : α) : Except DeclarationError α :=
  match s with
  | word _ => .ok result
  | _ => .error .expectedComma

/-- Whatever stands behind the name of an option that is passed over; where a value is announced
there must be one. -/
def ignored : Setting → Except DeclarationError Unit
  | unassigned _ atEnd => .error (missing atEnd .expectedExpression)
  | followed s => s.ignored
  | _ => .ok ()

/-- An option that is passed over. -/
def passedOver {α : Type} (s : Setting) (result : α) : Except DeclarationError α := do
  s.ignored
  s.ended result

end Setting

/-! ### Options of a member -/

/-- What the attributes of a member ask for. -/
structure MemberOptions where
  /-- The key for queries. -/
  queryName : Option String := none
  /-- The key under which the member is stored. -/
  storedName : Option String := none
  /-- Whether the member is a record of its own, or a sequence of records. -/
  nested : Bool := false
  /-- Whether the member is left out. -/
  skip : Bool := false
deriving DecidableEq

namespace MemberOptions

/-- One more option of the `query` family; of several names the last one counts. -/
def readQuery (o : MemberOptions) (s : Setting) : Except DeclarationError MemberOptions := do
  let name ← s.name?
  if name = "rename" then
    let key ← s.text?
    s.ended { o with queryName := some key }
  else if name = "nested" then s.alone { o with nested := true }
  else if name = "skip" then s.alone { o with skip := true }
  else .error .unknownOption

/-- One more option of the `serde` family; options without a bearing on queries are passed over. -/
def readStored (o : MemberOptions) (s : Setting) : Except DeclarationError MemberOptions := do
  let name ← s.name?
  if name = "rename" ∧ s.hasEquals then
    let key ← s.text?
    s.ended { o with storedName := some key }
  else if name = "skip" ∨ name = "skip_serializing" then s.alone { o with skip := true }
  else s.passedOver o

/-- One more attribute; those of other families are passed over. -/
def readAttribute (o : MemberOptions) (a : Attribute) : Except DeclarationError MemberOptions := do
  if a.name = "query" then (← a.settings).foldlM readQuery o
  else if a.name = "serde" then (← a.settings).foldlM readStored o
  else return o

/-- What the attributes of a member ask for. -/
def ofAttributes (attributes : List Attribute) : Except DeclarationError MemberOptions :=
  attributes.foldlM readAttribute {}

/-- The key of a member: the name given for queries, else the name it is stored under, else what the
rule makes of the member's own name, else that name in lower case. -/
def segment (o : MemberOptions) (rule : Option NamingRule) (name : String) : String :=
  match o.queryName.or o.storedName, rule with
  | some key, _ => key
  | none, some rule => rule.apply name
  | none, none => Text.toLower name

end MemberOptions

/-! ### The rule of a record -/

/-- The rule after one more option of the `serde` family; other options are passed over. -/
def readRule (rule : Option NamingRule) (s : Setting) :
    Except DeclarationError (Option NamingRule) := do
  let name ← s.name?
  if name = "rename_all" ∧ s.hasEquals then
    match NamingRule.ofName? (← s.text?) with
    | some rule => s.ended (some rule)
    | none => .error .unsupportedRule
  else s.passedOver rule

/-- The naming rule that the attributes of a record state; of several the last one counts. -/
def namingRule (attributes : List Attribute) : Except DeclarationError (Option NamingRule) :=
  (attributes.filter (·.name = "serde")).foldlM
    (fun rule a => do (← a.settings).foldlM readRule rule) none

end QueryAlgebra
