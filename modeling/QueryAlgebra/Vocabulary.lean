/-!
# The vocabulary of queries and updates

The closed sets of words that queries and updates are made of, each with the symbol that stands for
it in a document.

* `Comparison` — what an operator asks of the value at a path.
* `Connective` — how whole conditions are combined.
* `UpdateKind` — what an update does to the value at a path.
* `PatternFlag` — how a regular expression is matched.
-/

namespace QueryAlgebra

/-- What an operator asks of the value at a path. -/
inductive Comparison
  | eq
  | ne
  | gt
  | gte
  | lt
  | lte
  | oneOf
  | noneOf
  | existence
  | all
  | size
  | elemMatch
  | pattern
  | patternFlags
  | not
deriving DecidableEq

/-- The symbol that stands for an operator. -/
def Comparison.symbol : Comparison → String
  | .eq => "$eq"
  | .ne => "$ne"
  | .gt => "$gt"
  | .gte => "$gte"
  | .lt => "$lt"
  | .lte => "$lte"
  | .oneOf => "$in"
  | .noneOf => "$nin"
  | .existence => "$exists"
  | .all => "$all"
  | .size => "$size"
  | .elemMatch => "$elemMatch"
  | .pattern => "$regex"
  | .patternFlags => "$options"
  | .not => "$not"

/-- How conditions are combined. -/
inductive Connective
  | and
  | or
  | nor
deriving DecidableEq

/-- The symbol that stands for a connective. -/
def Connective.symbol : Connective → String
  | .and => "$and"
  | .or => "$or"
  | .nor => "$nor"

/-- What an update does to the value at a path. -/
inductive UpdateKind
  | set
  | inc
  | min
  | max
  | mul
  | rename
  | unset
  | currentDate
deriving DecidableEq

/-- The symbol that stands for a kind of update. -/
def UpdateKind.symbol : UpdateKind → String
  | .set => "$set"
  | .inc => "$inc"
  | .min => "$min"
  | .max => "$max"
  | .mul => "$mul"
  | .rename => "$rename"
  | .unset => "$unset"
  | .currentDate => "$currentDate"

/-- How a regular expression is matched. -/
inductive PatternFlag
  /-- Letters match in either case. -/
  | caseInsensitive
  /-- The anchors match at every line. -/
  | multiline
  /-- White space and comments in the pattern are left out. -/
  | extended
  /-- A dot matches a line break too. -/
  | dotAll
deriving DecidableEq

/-- The letter that stands for a flag. -/
def PatternFlag.letter : PatternFlag → Char
  | .caseInsensitive => 'i'
  | .multiline => 'm'
  | .extended => 'x'
  | .dotAll => 's'

end QueryAlgebra
