import GameClient.Json.Payload
import Mathlib.Data.List.Perm.Basic
import Mathlib.Data.List.Sort

/-!
# The order of fields

The fields of a JSON object may be given in any order, also in the objects within it
(`Json.Reorders`). The normal form does not depend on that: from any order of the fields of a value
in normal form the value itself comes back. So a payload can be read from its JSON in whichever
order the fields of its objects stand. The main statement is `Payload.ofJson?_of_reorders`.
-/

namespace GameClient

namespace Json

mutual

/-- The other value is this one, but for the order of the fields in its objects. -/
def Reorders : Json → Json → Prop
  | .array items, .array others => ItemsReorder items others
  | .object fields, .object others => ∃ same, FieldsReorder fields same ∧ same.Perm others
  | value, other => value = other

/-- The items are these, one by one, but for the order of the fields in their objects. -/
def ItemsReorder : List Json → List Json → Prop
  | [], [] => True
  | item :: items, other :: others => Reorders item other ∧ ItemsReorder items others
  | _, _ => False

/-- The fields are these, one by one, but for the order of the fields in the objects they hold. -/
def FieldsReorder : List (String × Json) → List (String × Json) → Prop
  | [], [] => True
  | (name, value) :: fields, (other, varied) :: others =>
    (other = name ∧ Reorders value varied) ∧ FieldsReorder fields others
  | _, _ => False

end

mutual

theorem Reorders.refl : ∀ value : Json, Reorders value value
  | .null | .bool _ | .number _ | .string _ | .unreadable => by simp only [Reorders]
  | .array items => by
      simp only [Reorders]
      exact ItemsReorder.refl items
  | .object fields => by
      simp only [Reorders]
      exact ⟨fields, FieldsReorder.refl fields, .refl fields⟩

theorem ItemsReorder.refl : ∀ items : List Json, ItemsReorder items items
  | [] => trivial
  | item :: items => ⟨Reorders.refl item, ItemsReorder.refl items⟩

theorem FieldsReorder.refl : ∀ fields : List (String × Json), FieldsReorder fields fields
  | [] => trivial
  | (_, value) :: fields => ⟨⟨rfl, Reorders.refl value⟩, FieldsReorder.refl fields⟩

end

/-! ### Fields in order -/

/-- The field has the name of the other one, and its value is the normal form of the other's. -/
def Normalizes (field other : String × Json) : Prop :=
  other.1 = field.1 ∧ other.2.normalize? = some field.2

/-- A field of a new name is put somewhere among the others. -/
theorem perm_insertField {name : String} {value : Json} {fields : List (String × Json)}
    (new : name ∉ fields.map Prod.fst) :
    (insertField name value fields).Perm ((name, value) :: fields) := by
  induction fields with
  | nil => exact .refl _
  | cons field rest ih =>
      obtain ⟨other, old⟩ := field
      obtain ⟨differ, newRest⟩ := not_or.mp (mt List.mem_cons.mpr new)
      simp only [insertField, if_neg differ]
      split
      · exact .refl _
      · exact ((ih newRest).cons _).trans (.swap ..)

/-- Of fields with names of their own all are kept. -/
theorem perm_normalizeFields? {fields others : List (String × Json)}
    (normalizes : List.Forall₂ Normalizes fields others) (nodup : (fields.map Prod.fst).Nodup) :
    ∃ sorted, normalizeFields? others = some sorted ∧ sorted.Perm fields := by
  induction normalizes with
  | nil => exact ⟨[], rfl, .refl _⟩
  | @cons field other fields others normalizes _ ih =>
      obtain ⟨name, value⟩ := field
      obtain ⟨rfl, normal⟩ := normalizes
      obtain ⟨new, nodup⟩ := List.nodup_cons.mp nodup
      obtain ⟨sorted, eq, perm⟩ := ih nodup
      have newSorted := mt (perm.map Prod.fst).mem_iff.mp new
      exact ⟨_, by simp only [normalizeFields?, normal, eq],
        (perm_insertField newSorted).trans (perm.cons _)⟩

theorem isSome_normalizeFields? {fields : List (String × Json)}
    (readable : ∀ field ∈ fields, field.2.normalize?.isSome = true) :
    (normalizeFields? fields).isSome = true := by
  induction fields with
  | nil => rfl
  | cons field fields ih =>
      obtain ⟨value, first⟩ := Option.isSome_iff_exists.mp (readable field List.mem_cons_self)
      obtain ⟨values, rest⟩ := Option.isSome_iff_exists.mp
        (ih fun field mem => readable field (List.mem_cons_of_mem _ mem))
      simp only [normalizeFields?, first, rest, Option.isSome_some]

theorem pairwise_of_increasing {fields : List (String × Json)} (sorted : increasing fields = true) :
    (fields.map Prod.fst).Pairwise (· < ·) := by
  rw [← List.isChain_iff_pairwise]
  induction fields with
  | nil => exact .nil
  | cons field rest ih =>
      cases rest with
      | nil => exact .singleton _
      | cons second rest =>
          simp only [increasing, Bool.and_eq_true, decide_eq_true_eq] at sorted
          exact .cons_cons sorted.1 (ih sorted.2)

/-- Fields in order stand in one order only. -/
theorem eq_of_increasing_of_perm {fields others : List (String × Json)}
    (sorted : increasing fields = true) (otherSorted : increasing others = true)
    (perm : others.Perm fields) : others = fields := by
  have pairwise := List.pairwise_map.mp (pairwise_of_increasing sorted)
  have otherPairwise := List.pairwise_map.mp (pairwise_of_increasing otherSorted)
  refine perm.eq_of_pairwise (fun first second _ _ lt gt => ?_) otherPairwise pairwise
  exact absurd lt (String.lt_asymm gt)

/-- From the fields of an object in normal form, in whichever order, that object comes back. -/
theorem normalizeFields?_of_perm {fields same others : List (String × Json)}
    (sorted : increasing fields = true) (normalizes : List.Forall₂ Normalizes fields same)
    (perm : same.Perm others) : normalizeFields? others = some fields := by
  obtain ⟨permuted, otherNormalizes, permutedPerm⟩ :=
    List.perm_comp_forall₂ perm.symm normalizes.flip
  have nodup : (permuted.map Prod.fst).Nodup :=
    (permutedPerm.map Prod.fst).symm.nodup (pairwise_of_increasing sorted).nodup
  obtain ⟨result, eq, resultPerm⟩ := perm_normalizeFields? otherNormalizes.flip nodup
  have resultSorted := (normal_of_normalizeFields? eq).1
  rw [eq, eq_of_increasing_of_perm sorted resultSorted (resultPerm.trans permutedPerm)]

/-! ### The normal form of a reordered value -/

mutual

/-- A value in normal form is the normal form of each order of its fields. -/
theorem normalize?_of_reorders : ∀ {value other : Json},
    isNormal value = true → Reorders value other → normalize? other = some value
  | .null, _, _, reorders | .bool _, _, _, reorders | .number _, _, _, reorders
  | .string _, _, _, reorders => by
      simp only [Reorders] at reorders
      subst reorders
      rfl
  | .array items, other, normal, reorders => by
      cases other with
      | array others =>
          simp only [Reorders] at reorders
          simp only [normalize?, normalizeItems?_of_reorder normal reorders, Option.map_some]
      | _ => simp [Reorders] at reorders
  | .object fields, other, normal, reorders => by
      cases other with
      | object others =>
          simp only [Reorders] at reorders
          simp only [isNormal, Bool.and_eq_true] at normal
          obtain ⟨same, reorder, perm⟩ := reorders
          have normalizes := normalizes_of_reorder normal.2 reorder
          simp only [normalize?, normalizeFields?_of_perm normal.1 normalizes perm,
            Option.map_some]
      | _ => simp [Reorders] at reorders

theorem normalizeItems?_of_reorder : ∀ {items others : List Json},
    itemsNormal items = true → ItemsReorder items others → normalizeItems? others = some items
  | [], [], _, _ => rfl
  | _ :: _, _ :: _, normal, reorder => by
      simp only [itemsNormal, Bool.and_eq_true] at normal
      simp only [normalizeItems?, normalize?_of_reorders normal.1 reorder.1,
        normalizeItems?_of_reorder normal.2 reorder.2]

theorem normalizes_of_reorder : ∀ {fields same : List (String × Json)},
    fieldsNormal fields = true → FieldsReorder fields same → List.Forall₂ Normalizes fields same
  | [], [], _, _ => .nil
  | (_, _) :: _, (_, _) :: _, normal, ⟨⟨name, reorders⟩, reorder⟩ => by
      simp only [fieldsNormal, Bool.and_eq_true] at normal
      exact .cons ⟨name, normalize?_of_reorders normal.1 reorders⟩
        (normalizes_of_reorder normal.2 reorder)

end

end Json

/-- A payload is read from its JSON, in whichever order the fields of the objects stand. -/
theorem Payload.ofJson?_of_reorders {payload : Payload} {other : Json}
    (reorders : payload.json.Reorders other) : Payload.ofJson? other = some payload := by
  have normal := Json.normalize?_of_reorders payload.normal reorders
  unfold Payload.ofJson?
  split
  · next found =>
      rw [normal, Option.some.injEq] at found
      subst found
      rfl
  · next missing => exact absurd (missing.symm.trans normal) nofun

end GameClient
