import QueryAlgebra.Text.CaseContext
import QueryAlgebra.Text.CaseMap

/-!
# Upper and lower case of whole texts

Full case conversion, character by character except for the capital sigma, whose lower case at the
end of a word is the final form.

* `lowerChar`, `upperChar` — one character, whose image may be several characters long.
* `toLower`, `toUpper` — a whole text.

ASCII letters are decided without the tables (`lowerChar_ascii`, `upperChar_ascii`), which is all
that plain identifiers need.
-/

namespace QueryAlgebra.Text

/-- Full case conversion of one character: ASCII by rule, the listed expansions first among the
rest, and then the runs. -/
def mapCase (ascii : Char → Char) (expansions : List (Nat × List Nat)) (runs : List CaseRun)
    (c : Char) : List Char :=
  if c.toNat < 128 then [ascii c]
  else match expansions.lookup c.toNat with
    | some image => image.map Char.ofNat
    | none => [Char.ofNat (shiftedBy runs c.toNat)]

/-- The lower case of one character, standing alone. -/
def lowerChar (c : Char) : List Char :=
  mapCase Char.toLower lowerExpansions lowerRuns c

/-- The upper case of one character. -/
def upperChar (c : Char) : List Char :=
  mapCase Char.toUpper upperExpansions upperRuns c

@[simp] theorem lowerChar_ascii {c : Char} (h : c.toNat < 128) : lowerChar c = [c.toLower] := by
  simp [lowerChar, mapCase, h]

@[simp] theorem upperChar_ascii {c : Char} (h : c.toNat < 128) : upperChar c = [c.toUpper] := by
  simp [upperChar, mapCase, h]

/-- Whether the first character that case does not ignore is a cased letter. -/
def startsCased (cs : List Char) : Bool :=
  match cs.dropWhile isCaseIgnorable with
  | [] => false
  | c :: _ => isCased c

/-- The lower case of the characters that follow a part of a text; `afterCased` says whether the
last character of that part that case does not ignore is a cased letter. A capital sigma is final
when a cased letter stands before it and none after it. -/
def lowerFrom (afterCased : Bool) : List Char → List Char
  | [] => []
  | c :: rest =>
    let image :=
      if c = 'Σ' then (if afterCased && !startsCased rest then ['ς'] else ['σ']) else lowerChar c
    image ++ lowerFrom (if isCaseIgnorable c then afterCased else isCased c) rest

/-- The lower case of a text. -/
def toLower (s : String) : String :=
  String.ofList (lowerFrom false s.toList)

/-- The upper case of a text. -/
def toUpper (s : String) : String :=
  String.ofList (s.toList.flatMap upperChar)

/-- A text with its first character replaced by the image `f` gives it. -/
def mapFirst (f : Char → List Char) : List Char → List Char
  | [] => []
  | c :: rest => f c ++ rest

@[simp] theorem mapFirst_nil (f : Char → List Char) : mapFirst f [] = [] := rfl

@[simp] theorem mapFirst_cons (f : Char → List Char) (c : Char) (rest : List Char) :
    mapFirst f (c :: rest) = f c ++ rest := rfl

end QueryAlgebra.Text
