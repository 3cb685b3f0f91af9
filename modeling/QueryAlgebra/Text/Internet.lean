import QueryAlgebra.Text.Numeral

/-!
# Written internet addresses

Which texts are addresses of version 4, four decimal numbers with points between them, and of
version 6, eight hexadecimal groups with colons between them, where two colons in a row stand for
one or more groups of zeros and the last two groups may be written as an address of version 4.
-/

namespace QueryAlgebra.Text

/-- Whether a text is a number of at most three digits below 256, without a zero before it. -/
def isOctet (cs : List Char) : Bool :=
  match natOfDigits? 10 cs with
  | some n => cs.length ≤ 3 && n < 256 && (cs.length = 1 || cs.head? != some '0')
  | none => false

/-- Whether a text is an address of version 4. -/
def isAddress4 (cs : List Char) : Bool :=
  let parts := cs.splitOn '.'
  parts.length = 4 && parts.all isOctet

/-- Whether a text is one to four hexadecimal digits. -/
def isGroup (cs : List Char) : Bool :=
  cs.length ≤ 4 && (natOfDigits? 16 cs).isSome

/-- The number of groups between colons, the last of which may be an address of version 4 where
`mixed` says so and then counts as two; no number if some part is no group. -/
def groupCount? (mixed : Bool) : List (List Char) → Option Nat
  | [] => some 0
  | [part] => if isGroup part then some 1 else if mixed && isAddress4 part then some 2 else none
  | part :: rest => if isGroup part then (groupCount? mixed rest).map (· + 1) else none

/-- The number of groups in a text, which may be empty. -/
def groupsIn? (mixed : Bool) (cs : List Char) : Option Nat :=
  if cs.isEmpty then some 0 else groupCount? mixed (cs.splitOn ':')

/-- A text cut at the first two colons in a row. -/
def splitAtGap : List Char → Option (List Char × List Char)
  | ':' :: ':' :: rest => some ([], rest)
  | [] => none
  | c :: rest => (splitAtGap rest).map fun (before, after) => (c :: before, after)

/-- Whether a text is an address of version 6. -/
def isAddress6 (cs : List Char) : Bool :=
  match splitAtGap cs with
  | none => groupsIn? true cs == some 8
  | some (before, after) =>
    match groupsIn? false before, groupsIn? true after with
    | some m, some n => m + n ≤ 7
    | _, _ => false

end QueryAlgebra.Text
