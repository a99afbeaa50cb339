import ConstraintSearch.Decimal.Layout
import ConstraintSearch.Json.Value

/-!
Writing JSON, either without blanks or with one item to a line.
-/

namespace ConstraintSearch.Json

/-- Controls are escaped, by a letter where there is one. -/
def escapeChar (c : Char) : String :=
  if c = '"' then "\\\""
  else if c = '\\' then "\\\\"
  else if c = '\n' then "\\n"
  else if c = '\r' then "\\r"
  else if c = '\t' then "\\t"
  else if c = '\x08' then "\\b"
  else if c = '\x0c' then "\\f"
  else if c.toNat < 0x20 then
    "\\u" ++ Text.pad .right '0' 4 (String.ofList (Nat.toDigits 16 c.toNat))
  else c.toString

def quote (s : String) : String := "\"" ++ String.join (s.toList.map escapeChar) ++ "\""

/-- A string that stands for no text is written as an empty one. -/
def quoteSome (s : Option String) : String := quote (s.getD "")

/-- Positional down to five places and below ten to the sixteenth, with a point in every
number. -/
def numberLayout : Decimal.Layout := ⟨some (-4, 16), true, .toEven⟩

/-- A number; what is not finite is null. -/
def ofBinary64 (x : Binary64) : Json :=
  if x.isFinite then .number (Decimal.text numberLayout x) else .null

mutual

def compact : Json → String
  | .null => "null"
  | .bool value => if value then "true" else "false"
  | .number text => text
  | .string text => quoteSome text
  | .array items => "[" ++ ",".intercalate (compactItems items) ++ "]"
  | .object fields => "\x7b" ++ ",".intercalate (compactFields fields) ++ "\x7d"

def compactItems : List Json → List String
  | [] => []
  | item :: rest => compact item :: compactItems rest

def compactFields : List (Option String × Json) → List String
  | [] => []
  | (name, value) :: rest => (quoteSome name ++ ":" ++ compact value) :: compactFields rest

end

def lineStart (depth : Nat) : String := "\n" ++ Text.repeated ' ' (2 * depth)

/-- Items between marks, each on a line of its own; nothing between them if there are none. -/
def enclose (opening closing : String) (depth : Nat) (items : List String) : String :=
  if items.isEmpty then opening ++ closing
  else
    let line := lineStart (depth + 1)
    opening ++ line ++ ("," ++ line).intercalate items ++ lineStart depth ++ closing

mutual

def prettyAt (depth : Nat) : Json → String
  | .null => "null"
  | .bool value => if value then "true" else "false"
  | .number text => text
  | .string text => quoteSome text
  | .array items => enclose "[" "]" depth (prettyItems (depth + 1) items)
  | .object fields => enclose "\x7b" "\x7d" depth (prettyFields (depth + 1) fields)

def prettyItems (depth : Nat) : List Json → List String
  | [] => []
  | item :: rest => prettyAt depth item :: prettyItems depth rest

def prettyFields (depth : Nat) : List (Option String × Json) → List String
  | [] => []
  | (name, value) :: rest =>
    (quoteSome name ++ ": " ++ prettyAt depth value) :: prettyFields depth rest

end

def pretty : Json → String := prettyAt 0

end ConstraintSearch.Json
