import ConstraintSearch.Decimal.Scaled
import ConstraintSearch.Json.Value

/-!
Reading typed data out of JSON: records with named fields, numbers and names.
-/

namespace ConstraintSearch.Json

/-- The values of all fields of one name, in order. -/
def named (name : String) (fields : List (Option String × Json)) : List Json :=
  fields.filterMap fun (key, value) => if key = some name then some value else none

/-- The fields of a record, by name from an object or by place from an array. Fields with other
names are ignored, but none of the record's own may come twice, and an array may be too short but
not too long. -/
def recordFields? (names : List String) : Json → Option (List (Option Json))
  | .object fields =>
    if fields.any fun (key, _) => key.isNone then none
    else names.mapM fun name =>
      match named name fields with
      | [] => some none
      | [value] => some (some value)
      | _ => none
  | .array items =>
    if names.length < items.length then none
    else some (names.zipIdx.map fun (_, place) => items[place]?)
  | _ => none

def binary64? : Json → Option Binary64
  | .number text => Decimal.readScaled? text
  | _ => none

def naturalLimit : Nat := Nat.pow 2 64

def natural? : Json → Option Nat
  | .number text => Decimal.readNatural? naturalLimit text
  | _ => none

/-- A name, written as a string or as the only field of an object, with null for its value. -/
def name? : Json → Option String
  | .string text => text
  | .object [(name, .null)] => name
  | _ => none

def fieldOr {α : Type} (decode : Json → Option α) (default : α) : Option Json → Option α
  | some value => decode value
  | none => some default

end ConstraintSearch.Json
