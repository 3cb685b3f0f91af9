import QueryAlgebra.Text.Casing

/-!
# Naming rules

How the name of a member becomes the key under which it is stored. A record may state one rule for
all its members; without a rule the key is the name in lower case.

* `NamingRule` — the rules, `NamingRule.ofName?` finding one by the name it goes by.
* `NamingRule.apply` — the key of a member name.
-/

namespace QueryAlgebra

open Text

/-- A rule from names of members to keys. -/
inductive NamingRule
  | lower
  | upper
  | snake
  | screamingSnake
  | camel
  | pascal
  | kebab
deriving DecidableEq

namespace NamingRule

/-- The rule with the given name; each name shows what the rule does. -/
def ofName? : String → Option NamingRule
  | "lowercase" => some .lower
  | "UPPERCASE" => some .upper
  | "snake_case" => some .snake
  | "SCREAMING_SNAKE_CASE" => some .screamingSnake
  | "camelCase" => some .camel
  | "PascalCase" => some .pascal
  | "kebab-case" => some .kebab
  | _ => none

/-- The words of a name, which stand between its underscores. -/
def words (name : List Char) : List (List Char) :=
  name.splitOn '_'

/-- The words of a name run together, each with its first character in upper case. -/
def pascalCase (name : List Char) : List Char :=
  (words name).flatMap (mapFirst upperChar)

/-- The words of a name run together, each but the first with its first character in upper case. -/
def camelCase (name : List Char) : List Char :=
  mapFirst lowerChar (pascalCase name)

/-- The key of a member name. -/
def apply : NamingRule → String → String
  | .lower, name => toLower name
  | .upper, name => toUpper name
  | .snake, name => name
  | .screamingSnake, name => toUpper name
  | .camel, name => String.ofList (camelCase name.toList)
  | .pascal, name => String.ofList (pascalCase name.toList)
  | .kebab, name => String.ofList (name.toList.map fun c => if c = '_' then '-' else c)

end NamingRule

end QueryAlgebra
