import GameClient.Text.Quoted

/-!
# Inspection text

One line that shows the structure of a value: constructors by name, fields by name and value,
texts in quotes. It is what a developer sees in a log; secrets are left out by the instance of the
type that holds them.
-/

namespace GameClient.Text

/-- Types whose values have an inspection text. -/
class Inspect (α : Type) where
  /-- The inspection text of a value. -/
  inspect : α → String

export Inspect (inspect)

def commaSeparated (parts : List String) : String := ", ".intercalate parts

def inspectField (field : String × String) : String := field.1 ++ ": " ++ field.2

/-- A record: its name, and its fields between braces. -/
def inspectRecord (name : String) (fields : List (String × String)) : String :=
  name ++ " \x7b " ++ commaSeparated (fields.map inspectField) ++ " \x7d"

/-- A record of which only some fields are shown. -/
def inspectOpenRecord (name : String) (fields : List (String × String)) : String :=
  name ++ " \x7b " ++ commaSeparated (fields.map inspectField) ++ ", .. \x7d"

/-- A constructor applied to one value. -/
def inspectWrapped (name value : String) : String := name ++ "(" ++ value ++ ")"

def inspectList (items : List String) : String := "[" ++ commaSeparated items ++ "]"

def inspectTable (entries : List (String × String)) : String :=
  "\x7b" ++ commaSeparated (entries.map inspectField) ++ "\x7d"

instance : Inspect String := ⟨quoted⟩

instance : Inspect Bool := ⟨fun b => if b then "true" else "false"⟩

instance : Inspect Nat := ⟨Nat.repr⟩

instance : Inspect Int := ⟨fun n => if n < 0 then "-" ++ n.natAbs.repr else n.natAbs.repr⟩

instance : Inspect UInt32 := ⟨fun n => n.toNat.repr⟩

instance : Inspect UInt64 := ⟨fun n => n.toNat.repr⟩

instance {α : Type} [Inspect α] : Inspect (Option α) where
  inspect
    | none => "None"
    | some a => inspectWrapped "Some" (inspect a)

instance {α : Type} [Inspect α] : Inspect (List α) := ⟨fun xs => inspectList (xs.map inspect)⟩

end GameClient.Text
