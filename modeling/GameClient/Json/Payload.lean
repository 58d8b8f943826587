import GameClient.Json.Writer
import GameClient.Text.Inspect

/-!
# Payloads

JSON that the client hands on and never looks into: the schema of a form, and the data filled into
it. A payload is in normal form: the fields of each object stand in the order of their names, and
each name stands once. `normalize?` brings a value into that form, and fails only where a part of it
is unreadable; of a field that is given more than once the last value stays.
-/

namespace GameClient

namespace Json

/-! ### The normal form -/

/-- The names of the fields increase. -/
def increasing : List (String × Json) → Bool
  | (a, _) :: (b, y) :: rest => a < b && increasing ((b, y) :: rest)
  | _ => true

mutual

/-- The value is in normal form. -/
def isNormal : Json → Bool
  | .array items => itemsNormal items
  | .object fields => increasing fields && fieldsNormal fields
  | .unreadable => false
  | _ => true

def itemsNormal : List Json → Bool
  | [] => true
  | item :: items => isNormal item && itemsNormal items

def fieldsNormal : List (String × Json) → Bool
  | [] => true
  | (_, value) :: fields => isNormal value && fieldsNormal fields

end

/-- Puts a field in its place among fields in order, unless its name is there already. -/
def insertField (name : String) (value : Json) : List (String × Json) → List (String × Json)
  | [] => [(name, value)]
  | (other, old) :: rest =>
    if name < other then (name, value) :: (other, old) :: rest
    else if name = other then (other, old) :: rest
    else (other, old) :: insertField name value rest

mutual

def normalize? : Json → Option Json
  | .array items => (normalizeItems? items).map .array
  | .object fields => (normalizeFields? fields).map .object
  | .unreadable => none
  | value => some value

def normalizeItems? : List Json → Option (List Json)
  | [] => some []
  | item :: items =>
    match normalize? item, normalizeItems? items with
    | some item, some items => some (item :: items)
    | _, _ => none

/-- The fields of an object in order, with normal values. -/
def normalizeFields? : List (String × Json) → Option (List (String × Json))
  | [] => some []
  | (name, value) :: fields =>
    match normalize? value, normalizeFields? fields with
    | some value, some fields => some (insertField name value fields)
    | _, _ => none

end

/-! ### The normal form is normal -/

theorem lt_of_not_lt_of_ne {a b : String} (h : ¬ a < b) (hne : a ≠ b) : b < a := by
  rcases String.le_total a b with hab | hba
  · exact absurd (String.le_antisymm hab (String.not_lt.mp h)) hne
  · exact String.not_le.mp fun hab => hne (String.le_antisymm hab hba)

/-- What stands in front after an insertion: the new field or the old first one. -/
theorem increasing_cons_insertField {front : String} {x : Json} {name : String} {value : Json}
    {fields : List (String × Json)} (hlt : front < name)
    (h : increasing ((front, x) :: fields) = true) :
    increasing ((front, x) :: insertField name value fields) = true := by
  induction fields generalizing front x with
  | nil => simp [insertField, increasing, hlt]
  | cons field rest ih =>
      obtain ⟨other, old⟩ := field
      simp only [increasing, Bool.and_eq_true, decide_eq_true_eq] at h
      simp only [insertField]
      split
      · rename_i hno
        simp [increasing, hlt, hno, h.2]
      · split
        · simp [increasing, h.1, h.2]
        · rename_i hno hne
          have := ih (lt_of_not_lt_of_ne hno hne) h.2
          cases hrest : insertField name value rest with
          | nil => simp [increasing, h.1]
          | cons second rest' =>
              rw [hrest] at this
              rw [increasing]
              simp only [Bool.and_eq_true, decide_eq_true_eq]
              exact ⟨h.1, this⟩

theorem increasing_insertField {name : String} {value : Json} {fields : List (String × Json)}
    (h : increasing fields = true) : increasing (insertField name value fields) = true := by
  cases fields with
  | nil => rfl
  | cons field rest =>
      obtain ⟨other, old⟩ := field
      simp only [insertField]
      split
      · rename_i hno
        simp [increasing, hno, h]
      · split
        · exact h
        · rename_i hno hne
          exact increasing_cons_insertField (lt_of_not_lt_of_ne hno hne) h

theorem fieldsNormal_insertField {name : String} {value : Json} {fields : List (String × Json)}
    (hv : isNormal value = true) (h : fieldsNormal fields = true) :
    fieldsNormal (insertField name value fields) = true := by
  induction fields with
  | nil => simp [insertField, fieldsNormal, hv]
  | cons field rest ih =>
      obtain ⟨other, old⟩ := field
      simp only [fieldsNormal, Bool.and_eq_true] at h
      simp only [insertField]
      split
      · simp [fieldsNormal, hv, h.1, h.2]
      · split
        · simp [fieldsNormal, h.1, h.2]
        · simp [fieldsNormal, h.1, ih h.2]

mutual

theorem isNormal_of_normalize? : ∀ {value normal : Json},
    normalize? value = some normal → isNormal normal = true
  | .null, _, h | .bool _, _, h | .number _, _, h | .string _, _, h => by
      simp only [normalize?, Option.some.injEq] at h; subst h; rfl
  | .unreadable, _, h => by simp [normalize?] at h
  | .array items, _, h => by
      simp only [normalize?, Option.map_eq_some_iff] at h
      obtain ⟨items', hi, rfl⟩ := h
      exact itemsNormal_of_normalizeItems? hi
  | .object fields, _, h => by
      simp only [normalize?, Option.map_eq_some_iff] at h
      obtain ⟨fields', hf, rfl⟩ := h
      have := normal_of_normalizeFields? hf
      simp [isNormal, this.1, this.2]

theorem itemsNormal_of_normalizeItems? : ∀ {items normal : List Json},
    normalizeItems? items = some normal → itemsNormal normal = true
  | [], _, h => by simp only [normalizeItems?, Option.some.injEq] at h; subst h; rfl
  | item :: items, _, h => by
      simp only [normalizeItems?] at h
      split at h
      · rename_i hi his
        simp only [Option.some.injEq] at h
        subst h
        simp [itemsNormal, isNormal_of_normalize? hi, itemsNormal_of_normalizeItems? his]
      · simp at h

theorem normal_of_normalizeFields? : ∀ {fields normal : List (String × Json)},
    normalizeFields? fields = some normal →
      increasing normal = true ∧ fieldsNormal normal = true
  | [], _, h => by
      simp only [normalizeFields?, Option.some.injEq] at h; subst h; exact ⟨rfl, rfl⟩
  | (_, value) :: fields, _, h => by
      simp only [normalizeFields?] at h
      split at h
      · rename_i hv hf
        simp only [Option.some.injEq] at h
        subst h
        have := normal_of_normalizeFields? hf
        exact ⟨increasing_insertField this.1,
          fieldsNormal_insertField (isNormal_of_normalize? hv) this.2⟩
      · simp at h

end

end Json

/-! ### Payloads -/

/-- A JSON value in normal form. -/
structure Payload where
  json : Json
  normal : json.isNormal = true

namespace Payload

def ofJson? (value : Json) : Option Payload :=
  match h : value.normalize? with
  | some normal => some ⟨normal, Json.isNormal_of_normalize? h⟩
  | none => none

def null : Payload := ⟨.null, rfl⟩

instance : Inhabited Payload := ⟨null⟩

def isObject (payload : Payload) : Bool := payload.json.isObject

end Payload

/-! ### Inspection -/

open Text in
def Json.Number.inspect (n : Json.Number) : String := inspectWrapped "Number" n.text

open Text

mutual

def Json.inspect : Json → String
  | .null => "Null"
  | .bool b => inspectWrapped "Bool" (Inspect.inspect b)
  | .number n => n.inspect
  | .string s => inspectWrapped "String" (quoted s)
  | .array items => "Array " ++ inspectList (Json.inspectItems items)
  | .object fields => "Object " ++ inspectTable (Json.inspectFields fields)
  | .unreadable => "Null"

def Json.inspectItems : List Json → List String
  | [] => []
  | item :: items => item.inspect :: Json.inspectItems items

/-- The names, in quotes, and the inspection texts of the fields of an object. -/
def Json.inspectFields : List (String × Json) → List (String × String)
  | [] => []
  | (name, value) :: fields => (quoted name, value.inspect) :: Json.inspectFields fields

end

instance : Inspect Payload := ⟨fun payload => payload.json.inspect⟩

end GameClient
