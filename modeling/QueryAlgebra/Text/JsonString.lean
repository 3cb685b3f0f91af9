import QueryAlgebra.Text.Numeral

/-!
# Writing JSON

Strings and objects of compact JSON text. A string escapes the quote, the backslash and the control
characters below the space, with the short escapes where JSON has them; everything else stands
literally.
-/

namespace QueryAlgebra.Text

/-- How a character is written in a JSON string. -/
def jsonChar (c : Char) : String :=
  if c = '"' then "\\\""
  else if c = '\\' then "\\\\"
  else if c = '\x08' then "\\b"
  else if c = '\x0c' then "\\f"
  else if c = '\n' then "\\n"
  else if c = '\r' then "\\r"
  else if c = '\t' then "\\t"
  else if c.toNat < 32 then "\\u" ++ paddedHexadecimal 4 c.toNat
  else String.ofList [c]

/-- A text as a JSON string. -/
def jsonString (s : String) : String :=
  "\"" ++ String.join (s.toList.map jsonChar) ++ "\""

/-- A JSON array of items that are JSON text. -/
def jsonArray (items : List String) : String :=
  "[" ++ ",".intercalate items ++ "]"

/-- A JSON object of members whose values are JSON text. -/
def jsonObject (members : List (String × String)) : String :=
  "\x7b" ++ ",".intercalate (members.map fun (k, v) => jsonString k ++ ":" ++ v) ++ "\x7d"

end QueryAlgebra.Text
