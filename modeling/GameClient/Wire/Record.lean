import GameClient.Json.Basic

/-!
# Wire forms

How the values that cross the border of the client are written as JSON, and read. A record is
written as an object. It is read from an object, whose fields may come in any order and among fields
of other names, or from an array of its fields in their order. A field that is given twice is
refused; a field that is missing is refused too, unless it has a default value.
-/

namespace GameClient

/-- Types whose values have a wire form. -/
class Wire (α : Type) where
  /-- The wire form of a value. -/
  encode : α → Json
  /-- The value that a JSON value stands for. -/
  decode? : Json → Option α

export Wire (encode decode?)

namespace Wire

instance : Wire String := ⟨Json.string, Json.toText?⟩

instance : Wire UInt64 := ⟨Json.ofWord, Json.toWord?⟩

def decodeItems? {α : Type} [Wire α] : List Json → Option (List α)
  | [] => some []
  | item :: items =>
    match decode? item, decodeItems? items with
    | some a, some as => some (a :: as)
    | _, _ => none

instance {α : Type} [Wire α] : Wire (List α) where
  encode xs := .array (xs.map encode)
  decode? value := value.toItems?.bind decodeItems?

instance : Wire (Option String) where
  encode := Json.ofText?
  decode?
    | .null => some none
    | .string s => some (some s)
    | _ => none

/-! ### Records -/

/-- What becomes of the items of an array beyond the fields of a record. -/
inductive Surplus where
  | refused
  | skipped
  deriving DecidableEq, Repr

/-- The value of a field in an object, if it is there; `none` if it is there twice. -/
def single? (name : String) (fields : List (String × Json)) : Option (Option Json) :=
  match fields.filter fun field => field.1 == name with
  | [] => some none
  | [field] => some (some field.2)
  | _ => none

def singles? (fields : List (String × Json)) : List String → Option (List (Option Json))
  | [] => some []
  | name :: names =>
    match single? name fields, singles? fields names with
    | some value, some values => some (value :: values)
    | _, _ => none

/-- The values of the fields of a record, of which an array has to give all. -/
def record? (names : List String) : Json → Option (List (Option Json))
  | .object fields => singles? fields names
  | .array items => if items.length = names.length then some (items.map some) else none
  | _ => none

/-- The values of the fields of a record, of which an array may give the first ones. -/
def defaulted? (surplus : Surplus) (names : List String) : Json → Option (List (Option Json))
  | .object fields => singles? fields names
  | .array items =>
    if items.length ≤ names.length ∨ surplus = .skipped then
      some ((List.range names.length).map fun i => items[i]?)
    else none
  | _ => none

/-- The value of a field that has to be there. -/
def required? {α : Type} [Wire α] (field : Option Json) : Option α := field.bind decode?

/-- The value of a field that may be missing. -/
def optional? {α : Type} [Wire α] (default : α) : Option Json → Option α
  | none => some default
  | some value => decode? value

/-- The name of a variant without content: a text, or an object with the one field of that name,
whose value is null. -/
def unitVariant? : Json → Option String
  | .string name => some name
  | .object [(name, .null)] => some name
  | _ => none

end Wire

end GameClient
