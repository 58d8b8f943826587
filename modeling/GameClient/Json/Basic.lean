import GameClient.Decimal.Binary64

/-!
# JSON values

The data that crosses the border of the client: requests and snapshots from the host, answers to
it, and the forms that the backend describes and the host fills in. An object keeps its fields in
the order of the text, with repetitions, so that a decoder can refuse what is given twice.
-/

namespace GameClient

namespace Json

/-- A JSON number: a whole one is exact, any other is a floating-point number. -/
inductive Number where
  | whole (value : Int)
  | real (value : Binary64)
  deriving DecidableEq, Repr

end Json

inductive Json where
  | null
  | bool (value : Bool)
  | number (value : Json.Number)
  | string (value : String)
  | array (items : List Json)
  | object (fields : List (String × Json))
  /-- A well-formed part of a text that no value can hold: a number beyond the floating-point
  range, half a surrogate pair, or a part nested too deep. It may be skipped but not read. -/
  | unreadable
  deriving Repr

namespace Json

instance : Inhabited Json := ⟨.null⟩

def ofInt (n : Int) : Json := .number (.whole n)

def ofNat (n : Nat) : Json := .ofInt n

def ofWord (n : UInt64) : Json := .ofNat n.toNat

/-- A text, or null. -/
def ofText? (text : Option String) : Json := (text.map Json.string).getD .null

def isObject : Json → Bool
  | .object _ => true
  | _ => false

/-- The value of a field, of several the last one's. -/
def field? (name : String) : Json → Option Json
  | .object fields => (fields.reverse.find? fun f => f.1 == name).map Prod.snd
  | _ => none

def toInt? : Json → Option Int
  | .number (.whole n) => some n
  | _ => none

def toWord? (value : Json) : Option UInt64 :=
  match value.toInt? with
  | some n => if 0 ≤ n ∧ n < 18446744073709551616 then some (UInt64.ofNat n.toNat) else none
  | none => none

def toText? : Json → Option String
  | .string s => some s
  | _ => none

def toBool? : Json → Option Bool
  | .bool b => some b
  | _ => none

def toItems? : Json → Option (List Json)
  | .array items => some items
  | _ => none

@[simp] theorem toText?_string (s : String) : (Json.string s).toText? = some s := rfl

@[simp] theorem toWord?_ofWord (n : UInt64) : (ofWord n).toWord? = some n := by
  have h : n.toNat < 18446744073709551616 := n.toNat_lt
  simp only [ofWord, ofNat, ofInt, toWord?, toInt?]
  rw [if_pos (by omega)]
  simp

end Json

end GameClient
