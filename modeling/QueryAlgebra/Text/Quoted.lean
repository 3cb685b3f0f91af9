import QueryAlgebra.Text.GraphemeExtend
import QueryAlgebra.Text.Numeral
import QueryAlgebra.Text.Unprintable

/-!
# Quoted texts

The quoted form of a text, safe to put on one line and to read back: double quotes around it, a
backslash before a quote or a backslash, short escapes for line feed, carriage return, tab and NUL,
and the code point in hexadecimal for every other character that has no glyph of its own.

* `escapeChar` — the written form of one character, which depends on that character alone.
* `quote` — the written form of a text.
-/

namespace QueryAlgebra.Text

/-- A code point in braces, `\u` before them. -/
def escapeCodePoint (c : Char) : List Char :=
  '\\' :: 'u' :: '\x7b' :: (hexadecimal c.toNat).toList ++ ['\x7d']

/-- How a character is written between quotes. -/
def escapeChar (c : Char) : List Char :=
  if c = '"' then ['\\', '"']
  else if c = '\\' then ['\\', '\\']
  else if c = '\n' then ['\\', 'n']
  else if c = '\r' then ['\\', 'r']
  else if c = '\t' then ['\\', 't']
  else if c = '\x00' then ['\\', '0']
  else if isGraphemeExtend c || !isPrintable c then escapeCodePoint c
  else [c]

/-- A text between quotes. -/
def quote (s : String) : String :=
  String.ofList ('"' :: (s.toList.flatMap escapeChar ++ ['"']))

theorem toList_quote (s : String) :
    (quote s).toList = '"' :: (s.toList.flatMap escapeChar ++ ['"']) := by
  simp [quote]

end QueryAlgebra.Text
