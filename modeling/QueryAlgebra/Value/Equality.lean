import QueryAlgebra.Value.Basic

/-!
# Equality of content

Two values have the same content (`Value.sameContent`) when they are of one type and agree as data:
documents as maps, whatever the order of their keys, arrays item by item, doubles as numbers. It is
coarser than identity on documents and on the two zeros, and no relation of equivalence, because a
NaN differs from itself.
-/

namespace QueryAlgebra

mutual

/-- Whether two values have the same content. -/
def Value.sameContent : Value → Value → Bool
  | .null, w => match w with | .null => true | _ => false
  | .bool a, w => match w with | .bool b => a == b | _ => false
  | .int32 a, w => match w with | .int32 b => a == b | _ => false
  | .int64 a, w => match w with | .int64 b => a == b | _ => false
  | .double a, w => match w with | .double b => a.sameNumber b | _ => false
  | .decimal a, w => match w with | .decimal b => a == b | _ => false
  | .string a, w => match w with | .string b => a == b | _ => false
  | .array as, w => match w with | .array bs => sameItems as bs | _ => false
  | .document as, w =>
    match w with
    | .document bs => as.length == bs.length && sameEntries as bs
    | _ => false
  | .objectId a, w => match w with | .objectId b => a == b | _ => false
  | .dateTime a, w => match w with | .dateTime b => a == b | _ => false
  | .binary s a, w => match w with | .binary t b => s == t && a == b | _ => false
  | .regex p o, w => match w with | .regex q r => p == q && o == r | _ => false
  | .timestamp t i, w => match w with | .timestamp u j => t == u && i == j | _ => false
  | .code a, w => match w with | .code b => a == b | _ => false
  | .codeWithScope a as, w =>
    match w with
    | .codeWithScope b bs => a == b && as.length == bs.length && sameEntries as bs
    | _ => false
  | .symbol a, w => match w with | .symbol b => a == b | _ => false
  | .undefined, w => match w with | .undefined => true | _ => false
  | .minKey, w => match w with | .minKey => true | _ => false
  | .maxKey, w => match w with | .maxKey => true | _ => false
  | .dbPointer c a, w => match w with | .dbPointer d b => c == d && a == b | _ => false

/-- Whether two arrays agree item by item. -/
def sameItems : List Value → List Value → Bool
  | [], [] => true
  | a :: as, b :: bs => a.sameContent b && sameItems as bs
  | _, _ => false

/-- Whether every entry of the first document is in the second one. -/
def sameEntries : List (String × Value) → List (String × Value) → Bool
  | [], _ => true
  | (k, a) :: rest, bs =>
    (match Assoc.get? bs k with | some b => a.sameContent b | none => false) && sameEntries rest bs

end

end QueryAlgebra
