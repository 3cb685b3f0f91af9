import QueryAlgebra.Error
import QueryAlgebra.Number.Reading

/-!
# Recognizing JSON

Whether a text is one JSON value, with white space around it. The text is read character by
character by a machine that knows what may come next and which containers are open, so recognition
is a fold over the text and always ends.

Beyond the grammar three things are refused: numbers beyond the doubles, escapes for half of a
surrogate pair, and containers nested deeper than `Json.maxDepth`.

* `Json.Mode`, `Json.State`, `Json.step` — the machine.
* `Json.isJson`, `Json.check` — recognition of a whole text.
-/

namespace QueryAlgebra.Json

/-- How many containers may be open at once. -/
def maxDepth : Nat := 127

/-- An open container. -/
inductive Container
  | array
  | object
deriving DecidableEq

/-- How far a number has been read. -/
inductive Part
  | sign
  | zero
  | whole
  | point
  | fraction
  | mark
  | markSign
  | power
deriving DecidableEq

/-- The largest power of ten among the doubles. -/
def maxPower : Int := 308

/-- Whether a coefficient times a power of ten is beyond the doubles when it is worked out in
doubles: the coefficient and the power are rounded first, and their product again, so that a number
just below the limit may be beyond it too. A negative power makes nothing larger. -/
def overflows (coefficient : Nat) (exponent : Int) : Bool :=
  if coefficient = 0 ∨ exponent ≤ 0 then false
  else if maxPower < exponent then true
  else
    let x := Binary64.ofFraction false coefficient 1
    let y := Binary64.ofFraction false (Nat.pow 10 exponent.toNat) 1
    (Binary64.product x y).isInfinite

/-- A number read so far: the digits of the mantissa that fit into sixty-four bits, the power of ten
that their places give them, and the power of ten that is written. Once a digit does not fit, no
digit of its part of the mantissa is taken any more (`isFull`). -/
structure Numeral where
  part : Part
  coefficient : Nat := 0
  shift : Int := 0
  isFull : Bool := false
  powerNegative : Bool := false
  power : Nat := 0

namespace Numeral

/-- Whether a digit is taken. -/
def takes (n : Numeral) (d : Nat) : Bool :=
  !n.isFull && n.coefficient * 10 + d < UInt64.size

/-- One more digit before the point; one that is not taken still makes the number ten times as
large. -/
def wholeDigit (n : Numeral) (part : Part) (d : Nat) : Numeral :=
  if n.takes d then { n with part, coefficient := n.coefficient * 10 + d }
  else { n with part, shift := n.shift + 1, isFull := true }

/-- One more digit behind the point; one that is not taken does not count. -/
def fractionDigit (n : Numeral) (d : Nat) : Numeral :=
  if n.takes d then
    { n with part := .fraction, coefficient := n.coefficient * 10 + d, shift := n.shift - 1 }
  else { n with part := .fraction, isFull := true }

/-- The number with one more character, if that character continues it. -/
def next? (n : Numeral) (c : Char) : Option Numeral :=
  match n.part, Text.digitValue? 10 c with
  | .sign, some d => some (n.wholeDigit (if d = 0 then .zero else .whole) d)
  | .whole, some d => some (n.wholeDigit .whole d)
  | .point, some d => some (n.fractionDigit d)
  | .fraction, some d => some (n.fractionDigit d)
  | .mark, some d => some { n with part := .power, power := d }
  | .markSign, some d => some { n with part := .power, power := d }
  | .power, some d => some { n with power := n.power * 10 + d }
  | part, none =>
    if c = '.' ∧ (part = .zero ∨ part = .whole) then
      some { n with part := .point, isFull := false }
    else if (c = 'e' ∨ c = 'E') ∧ (part = .zero ∨ part = .whole ∨ part = .fraction) then
      some { n with part := .mark }
    else if (c = '+' ∨ c = '-') ∧ part = .mark then
      some { n with part := .markSign, powerNegative := c == '-' }
    else none
  | _, _ => none

/-- The power of ten that the digits are multiplied by. -/
def exponent (n : Numeral) : Int :=
  n.shift + (if n.powerNegative then -(n.power : Int) else n.power)

/-- Whether the number may end here, and is within the doubles. -/
def isComplete (n : Numeral) : Bool :=
  (n.part == .zero || n.part == .whole || n.part == .fraction || n.part == .power) &&
    !overflows n.coefficient n.exponent

end Numeral

/-- What may come next. -/
inductive Mode where
  /-- A value. -/
  | value
  /-- The first item of an array, or its end. -/
  | firstItem
  /-- The first key of an object, or its end. -/
  | firstKey
  /-- A further key of an object. -/
  | key
  /-- The colon behind a key. -/
  | colon
  /-- What follows a complete value. -/
  | done
  /-- The inside of a string. -/
  | text (isKey : Bool)
  /-- The character behind a backslash. -/
  | escape (isKey : Bool)
  /-- The hexadecimal digits of a code unit: how many are missing, the unit so far, and whether it
  has to be the second half of a surrogate pair. -/
  | codeUnit (isKey : Bool) (missing unit : Nat) (second : Bool)
  /-- The backslash, or after it the letter, that starts the second half of a surrogate pair. -/
  | secondHalf (isKey backslash : Bool)
  /-- The remaining letters of a literal. -/
  | word (rest : List Char)
  /-- The inside of a number. -/
  | number (n : Numeral)

/-- The machine: what may come next, and the open containers from the innermost out. -/
structure State where
  mode : Mode
  stack : List Container

/-- White space between tokens. -/
def isBlank (c : Char) : Bool :=
  c == ' ' || c == '\t' || c == '\n' || c == '\r'

/-- The state after an opening bracket. -/
def opened (container : Container) (mode : Mode) (stack : List Container) : Option State :=
  if stack.length < maxDepth then some ⟨mode, container :: stack⟩ else none

/-- The state after the first character of a value. -/
def startValue (c : Char) (stack : List Container) : Option State :=
  match c with
  | '[' => opened .array .firstItem stack
  | '\x7b' => opened .object .firstKey stack
  | '"' => some ⟨.text false, stack⟩
  | 't' => some ⟨.word ['r', 'u', 'e'], stack⟩
  | 'f' => some ⟨.word ['a', 'l', 's', 'e'], stack⟩
  | 'n' => some ⟨.word ['u', 'l', 'l'], stack⟩
  | '-' => some ⟨.number { part := .sign }, stack⟩
  | _ => (Numeral.next? { part := .sign } c).map fun n => ⟨.number n, stack⟩

/-- The state after a character behind a complete value. -/
def afterValue (c : Char) (stack : List Container) : Option State :=
  if isBlank c then some ⟨.done, stack⟩
  else match c, stack with
    | ',', .array :: _ => some ⟨.value, stack⟩
    | ']', .array :: rest => some ⟨.done, rest⟩
    | ',', .object :: _ => some ⟨.key, stack⟩
    | '\x7d', .object :: rest => some ⟨.done, rest⟩
    | _, _ => none

/-- The state after the end of a string. -/
def afterText (isKey : Bool) (stack : List Container) : State :=
  ⟨if isKey then .colon else .done, stack⟩

/-- The mode after the last digit of a code unit. -/
def afterCodeUnit? (isKey : Bool) (unit : Nat) (second : Bool) : Option Mode :=
  if second then (if 0xDC00 ≤ unit ∧ unit < 0xE000 then some (.text isKey) else none)
  else if 0xD800 ≤ unit ∧ unit < 0xDC00 then some (.secondHalf isKey false)
  else if 0xDC00 ≤ unit ∧ unit < 0xE000 then none
  else some (.text isKey)

/-- The state after one more character, if the text can still become JSON. -/
def step (s : State) (c : Char) : Option State :=
  match s.mode with
  | .value => if isBlank c then some s else startValue c s.stack
  | .firstItem =>
    if isBlank c then some s
    else if c = ']' then some ⟨.done, s.stack.drop 1⟩
    else startValue c s.stack
  | .firstKey =>
    if isBlank c then some s
    else if c = '\x7d' then some ⟨.done, s.stack.drop 1⟩
    else if c = '"' then some ⟨.text true, s.stack⟩
    else none
  | .key =>
    if isBlank c then some s else if c = '"' then some ⟨.text true, s.stack⟩ else none
  | .colon => if isBlank c then some s else if c = ':' then some ⟨.value, s.stack⟩ else none
  | .done => afterValue c s.stack
  | .text isKey =>
    if c = '"' then some (afterText isKey s.stack)
    else if c = '\\' then some ⟨.escape isKey, s.stack⟩
    else if c.toNat < 32 then none
    else some s
  | .escape isKey =>
    if c = 'u' then some ⟨.codeUnit isKey 4 0 false, s.stack⟩
    else if ['"', '\\', '/', 'b', 'f', 'n', 'r', 't'].contains c then some ⟨.text isKey, s.stack⟩
    else none
  | .codeUnit isKey missing unit second =>
    (Text.digitValue? 16 c).bind fun d =>
      if missing ≤ 1 then
        (afterCodeUnit? isKey (unit * 16 + d) second).map fun mode => ⟨mode, s.stack⟩
      else some ⟨.codeUnit isKey (missing - 1) (unit * 16 + d) second, s.stack⟩
  | .secondHalf isKey false => if c = '\\' then some ⟨.secondHalf isKey true, s.stack⟩ else none
  | .secondHalf isKey true => if c = 'u' then some ⟨.codeUnit isKey 4 0 true, s.stack⟩ else none
  | .word [] => none
  | .word (expected :: rest) =>
    if c = expected then some ⟨if rest.isEmpty then .done else .word rest, s.stack⟩ else none
  | .number n =>
    match n.next? c with
    | some n => some ⟨.number n, s.stack⟩
    | none => if n.isComplete then afterValue c s.stack else none

/-- Whether the text may end here. -/
def State.isFinal (s : State) : Bool :=
  s.stack.isEmpty &&
    match s.mode with
    | .done => true
    | .number n => n.isComplete
    | _ => false

/-- Whether a text is one JSON value. -/
def isJson (text : String) : Bool :=
  match text.toList.foldlM step ⟨.value, []⟩ with
  | some s => s.isFinal
  | none => false

/-- Succeeds on JSON texts alone. -/
def check (text : String) : Except QueryError Unit :=
  if isJson text then .ok () else .error .malformedJson

end QueryAlgebra.Json
