import ConstraintSearch.Text.Extending
import ConstraintSearch.Text.Unprintable

/-!
Text between quotation marks, with escapes for what could not be seen or would end it early.
-/

namespace ConstraintSearch.Text

def codePointEscape (c : Char) : String :=
  "\\u\x7b" ++ String.ofList (Nat.toDigits 16 c.toNat) ++ "\x7d"

/-- The form of one character between the given marks; the other kind of mark stays bare. -/
def escapeChar (mark c : Char) : String :=
  if c = '\x00' then "\\0"
  else if c = '\t' then "\\t"
  else if c = '\r' then "\\r"
  else if c = '\n' then "\\n"
  else if c = '\\' || c = mark then "\\" ++ c.toString
  else if isExtending c || isUnprintable c then codePointEscape c
  else c.toString

def quoteString (text : String) : String :=
  "\"" ++ String.join (text.toList.map (escapeChar '"')) ++ "\""

def quoteChar (c : Char) : String := "'" ++ escapeChar '\x27' c ++ "'"

end ConstraintSearch.Text
