import QueryAlgebra.Path
import QueryAlgebra.Value.Basic
import QueryAlgebra.Vocabulary

/-!
# Filters

A filter is a tree of conditions on documents. Its leaves ask something of the value at one path:
that it equals a value, or that one or several operators hold of it. Its inner nodes join whole
filters by a connective. Operators nest as well: an operand may hold further operators, and the
operand of an element match may hold filters on the element.

* `Filter`, `Operator`, `Operand` — the trees.
* `Filter.and`, `Filter.or`, `Filter.nor` — combination. Each makes exactly one new node over its
  arguments in order and never merges the nodes below it.
* `Filter.path?` — the path of a leaf.
-/

namespace QueryAlgebra

mutual

/-- A condition on documents. -/
inductive Filter where
  /-- The value at the path is this one. -/
  | equals (path : Path) (value : Value)
  /-- The operator holds of the value at the path. -/
  | operator (path : Path) (operator : Operator)
  /-- All the operators hold of the value at the path. -/
  | operators (path : Path) (operators : List Operator)
  /-- The filters, of which there is at least one, hold as the connective says. -/
  | logical (connective : Connective) (first : Filter) (more : List Filter)

/-- A question about a value. -/
inductive Operator where
  | mk (comparison : Comparison) (operand : Operand)

/-- What an operator compares with. -/
inductive Operand where
  | value (value : Value)
  | operators (operators : List Operator)
  | filters (filters : List Filter)

end

namespace Operator

/-- What the operator asks. -/
def comparison : Operator → Comparison
  | .mk c _ => c

/-- What the operator compares with. -/
def operand : Operator → Operand
  | .mk _ o => o

/-- The symbol that stands for the operator. -/
def symbol (o : Operator) : String :=
  o.comparison.symbol

@[simp] theorem comparison_mk (c : Comparison) (o : Operand) :
    (Operator.mk c o).comparison = c := rfl

@[simp] theorem operand_mk (c : Comparison) (o : Operand) : (Operator.mk c o).operand = o := rfl

@[simp] theorem symbol_mk (c : Comparison) (o : Operand) :
    (Operator.mk c o).symbol = c.symbol := rfl

/-! ### The operators by name -/

def eq (v : Value) : Operator := .mk .eq (.value v)

def ne (v : Value) : Operator := .mk .ne (.value v)

def gt (v : Value) : Operator := .mk .gt (.value v)

def gte (v : Value) : Operator := .mk .gte (.value v)

def lt (v : Value) : Operator := .mk .lt (.value v)

def lte (v : Value) : Operator := .mk .lte (.value v)

/-- The value is one of these. -/
def oneOf (vs : List Value) : Operator := .mk .oneOf (.value (.array vs))

/-- The value is none of these. -/
def noneOf (vs : List Value) : Operator := .mk .noneOf (.value (.array vs))

/-- There is a value. -/
def present : Operator := .mk .existence (.value (.bool true))

/-- There is no value. -/
def absent : Operator := .mk .existence (.value (.bool false))

/-- The array contains all of these. -/
def all (vs : List Value) : Operator := .mk .all (.value (.array vs))

/-- The array has this many items. -/
def size (n : Int32) : Operator := .mk .size (.value (.int32 n))

/-- The text matches the regular expression. -/
def pattern (p : String) : Operator := .mk .pattern (.value (.string p))

/-- The flags of the regular expression beside it. -/
def patternFlags (flags : String) : Operator := .mk .patternFlags (.value (.string flags))

/-- The operator does not hold. -/
def not (o : Operator) : Operator := .mk .not (.operators [o])

/-- Some item of the array satisfies all the operators. -/
def elemMatch (os : List Operator) : Operator := .mk .elemMatch (.operators os)

/-- Some item of the array satisfies all the filters. -/
def elemMatchFilters (fs : List Filter) : Operator := .mk .elemMatch (.filters fs)

end Operator

namespace Filter

/-- The path of a leaf; a combination has none. -/
def path? : Filter → Option Path
  | .equals path _ => some path
  | .operator path _ => some path
  | .operators path _ => some path
  | .logical _ _ _ => none

/-- All of them hold. -/
def and (f : Filter) (more : List Filter) : Filter := .logical .and f more

/-- One of them holds. -/
def or (f : Filter) (more : List Filter) : Filter := .logical .or f more

/-- None of them holds. -/
def nor (f : Filter) (more : List Filter) : Filter := .logical .nor f more

end Filter

end QueryAlgebra
