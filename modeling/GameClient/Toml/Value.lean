import GameClient.Json.Basic

/-!
# Values of configuration files

The values that a TOML text can hold, and what a decoder makes of them. A date or time counts as a
record whose only field is its text, and a floating-point number as something that no field can be
read from.
-/

namespace GameClient.Toml

inductive Value where
  | string (value : String)
  | integer (value : Int)
  | float (text : String)
  | boolean (value : Bool)
  | dateTime (text : String)
  | array (items : List Value)
  | table (entries : List (String × Value))

namespace Value

mutual

/-- The value as a decoder sees it. -/
def toJson : Value → Json
  | string s => .string s
  | integer n => .ofInt n
  | float _ => .unreadable
  | boolean b => .bool b
  | dateTime text => .object [("date-time", .string text)]
  | array items => .array (itemsToJson items)
  | table entries => .object (entriesToJson entries)

def itemsToJson : List Value → List Json
  | [] => []
  | item :: items => item.toJson :: itemsToJson items

def entriesToJson : List (String × Value) → List (String × Json)
  | [] => []
  | (key, value) :: entries => (key, value.toJson) :: entriesToJson entries

end

end Value

end GameClient.Toml
