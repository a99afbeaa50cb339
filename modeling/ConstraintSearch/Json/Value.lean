/-!
JSON values. Numbers keep their text, so that nothing is lost before it is known what they are
read as.
-/

namespace ConstraintSearch

/-- A string is none when its escapes name half of a surrogate pair, which is well formed but
stands for no text. Fields keep their order and may come more than once. -/
inductive Json where
  | null
  | bool (value : Bool)
  | number (text : String)
  | string (text : Option String)
  | array (items : List Json)
  | object (fields : List (Option String × Json))
deriving Inhabited

namespace Json

def text (s : String) : Json := .string (some s)

def natural (n : Nat) : Json := .number (toString n)

def integer (n : Int) : Json := .number (toString n)

def record (fields : List (String × Json)) : Json :=
  .object (fields.map fun (name, value) => (some name, value))

/-- Nothing is null. -/
def ofOption {α : Type} (encode : α → Json) : Option α → Json
  | some value => encode value
  | none => .null

end Json

end ConstraintSearch
