import GameClient.Proofs.Numerals
import GameClient.Proofs.Trimming
import GameClient.Config.Variables
import Mathlib.Data.List.Nodup

/-!
# Configurations overridden by variables

Variables are taken one after the other, each on top of what the ones before it left. What comes of
a whole list can be said without going through it: of each setting only the last variable of its
name counts (`Overrides`), and the list is taken to its end exactly if every variable that stands
for a number holds one (`Usable`). What holds a number is said by its numeral and not by how it is
read. The main statement, `variables_override_in_order`, also says where a list that cannot be taken
to its end is given up, and what the configuration is by then.
-/

namespace GameClient.Config

/-! ### What variables stand for -/

/-- The variables that stand for numbers. -/
def numberVariables : List String := [finishTimeVariable, startAmountVariable, scrollbackVariable]

/-- All variables that stand for something. -/
def knownVariables : List String := logFilterVariable :: numberVariables

/-- Without the blanks around it, the value of a variable is a numeral of a number. -/
def Holds (value : String) (n : Nat) : Prop :=
  ∃ text, Text.Trims value text ∧ Text.IsNumeral text.toList n

/-- A variable that stands for a number holds one of 64 bits. -/
def Usable (entry : String × String) : Prop :=
  entry.1 ∈ numberVariables → ∃ n < 2 ^ 64, Holds entry.2 n

/-- The value of the last variable of a name. -/
def last? (key : String) (vars : List (String × String)) : Option String :=
  vars.reverse.lookup key

/-- What a setting is after variables: what the last of its name gives, and else what it was. -/
def Overridden {α : Type} (vars : List (String × String)) (key : String)
    (gives : String → α → Prop) (old new : α) : Prop :=
  match last? key vars with
  | some value => gives value new
  | none => new = old

/-- What a configuration is after variables, setting by setting. -/
structure Overrides (vars : List (String × String)) (config merged : Config) : Prop where
  finishTime : Overridden vars finishTimeVariable (fun value n => Holds value n.toNat)
    config.finalize.finishTimeMs merged.finalize.finishTimeMs
  startAmount : Overridden vars startAmountVariable (fun value n => Holds value n.toNat)
    config.finalize.startAmount merged.finalize.startAmount
  scrollback : Overridden vars scrollbackVariable (fun value n => Holds value n.toNat)
    config.chat.scrollback merged.chat.scrollback
  logFilter : Overridden vars logFilterVariable (fun value filter => filter = value)
    config.logFilter merged.logFilter

variable {α : Type} {config merged mid : Config} {vars before after other : List (String × String)}
  {key value : String} {error : ConfigError} {n : UInt64}

/-! ### Values -/

theorem readWord_trim_eq_ok_iff :
    Text.readWord (Text.trim value) = .ok n ↔ Holds value n.toNat := by
  rw [Text.readWord_eq_ok_iff]
  constructor
  · exact fun numeral => ⟨Text.trim value, Text.trims_trim value, numeral⟩
  · rintro ⟨text, trims, numeral⟩
    rwa [← Text.trims_iff_eq_trim.mp trims]

/-- A value that holds no number of 64 bits is not read. -/
theorem not_usable_of_readWord_error {fault : Text.NumeralFault} (number : key ∈ numberVariables)
    (unread : Text.readWord (Text.trim value) = .error fault) : ¬ Usable (key, value) := by
  intro usable
  obtain ⟨n, bound, holds⟩ := usable number
  rw [← UInt64.toNat_ofNat_of_lt' bound, ← readWord_trim_eq_ok_iff, unread] at holds
  cases holds

theorem Holds.unique {m : UInt64} (holds : Holds value m.toNat) (also : Holds value n.toNat) :
    m = n := by
  rw [← readWord_trim_eq_ok_iff] at holds also
  exact Except.ok.inj (holds.symm.trans also)

/-! ### One variable -/

/-- All that can come of one variable. -/
inductive Merges (config : Config) (key value : String) : Except ConfigError Config → Prop
  | finishTime (n : UInt64) (named : key = finishTimeVariable) (holds : Holds value n.toNat) :
      Merges config key value
        (.ok { config with finalize := { config.finalize with finishTimeMs := n } })
  | startAmount (n : UInt64) (named : key = startAmountVariable) (holds : Holds value n.toNat) :
      Merges config key value
        (.ok { config with finalize := { config.finalize with startAmount := n } })
  | scrollback (n : UInt64) (named : key = scrollbackVariable) (holds : Holds value n.toNat) :
      Merges config key value (.ok { config with chat := { scrollback := n } })
  | logFilter (named : key = logFilterVariable) :
      Merges config key value (.ok { config with logFilter := value })
  | passed (unknown : key ∉ knownVariables) : Merges config key value (.ok config)
  | unusable (fault : Text.NumeralFault) (number : key ∈ numberVariables)
      (unread : Text.readWord (Text.trim value) = .error fault) :
      Merges config key value (.error (.invalid key fault.message))

/-- A variable that stands for a number is taken over if it holds one. -/
theorem merges_readVariable {put : UInt64 → Config} (number : key ∈ numberVariables)
    (taken : ∀ n : UInt64, Holds value n.toNat → Merges config key value (.ok (put n))) :
    Merges config key value ((readVariable key value).map put) := by
  unfold readVariable
  split
  · next n read => exact taken n (readWord_trim_eq_ok_iff.mp read)
  · next fault unread => exact .unusable fault number unread

theorem merges_mergeVariable (config : Config) (key value : String) :
    Merges config key value (config.mergeVariable key value) := by
  unfold mergeVariable
  split
  · next named =>
    exact merges_readVariable (by simp [named, numberVariables]) fun n => .finishTime n named
  split
  · next named =>
    exact merges_readVariable (by simp [named, numberVariables]) fun n => .startAmount n named
  split
  · next named =>
    exact merges_readVariable (by simp [named, numberVariables]) fun n => .scrollback n named
  split
  · next named => exact .logFilter named
  · exact .passed (by simp_all [knownVariables, numberVariables])

theorem mergeVariable_isOk_iff :
    (∃ merged, config.mergeVariable key value = .ok merged) ↔ Usable (key, value) := by
  have came := merges_mergeVariable config key value
  generalize config.mergeVariable key value = result at came ⊢
  cases came with
  | finishTime n _ holds | startAmount n _ holds | scrollback n _ holds =>
      exact iff_of_true ⟨_, rfl⟩ fun _ => ⟨n.toNat, n.toNat_lt, holds⟩
  | logFilter named =>
      have noNumber : logFilterVariable ∉ numberVariables := by decide
      exact iff_of_true ⟨_, rfl⟩ fun number => absurd (named ▸ number) noNumber
  | passed unknown =>
      exact iff_of_true ⟨_, rfl⟩ fun number => absurd (List.mem_cons_of_mem _ number) unknown
  | unusable fault number unread =>
      exact iff_of_false (by rintro ⟨_, ⟨⟩⟩) (not_usable_of_readWord_error number unread)

/-! ### What variables leave of a setting -/

theorem last?_append (key : String) (before after : List (String × String)) :
    last? key (before ++ after) = (last? key after).or (last? key before) := by
  rw [last?, List.reverse_append, List.lookup_append]
  rfl

section

variable {gives : String → α → Prop} {old between new : α}

/-- What later variables leave of a setting counts on top of what the earlier ones left. -/
theorem Overridden.append (first : Overridden before key gives old between)
    (second : Overridden after key gives between new) :
    Overridden (before ++ after) key gives old new := by
  unfold Overridden at *
  rw [last?_append]
  cases found : last? key after with
  | some value =>
      rw [found] at second
      exact second
  | none =>
      rw [found] at second
      subst second
      exact first

theorem Overridden.own (given : gives value new) :
    Overridden [(key, value)] key gives old new := by
  simpa [Overridden, last?] using given

theorem Overridden.passed {name : String} (apart : key ≠ name) :
    Overridden [(key, value)] name gives old old := by
  simp [Overridden, last?, beq_false_of_ne apart.symm]

/-- The last variable of a name settles what the setting is. -/
theorem Overridden.unique {also : α}
    (single : ∀ value a b, gives value a → gives value b → a = b)
    (left : Overridden vars key gives old new) (right : Overridden vars key gives old also) :
    new = also := by
  unfold Overridden at left right
  cases found : last? key vars with
  | some value =>
      rw [found] at left right
      exact single value new also left right
  | none =>
      rw [found] at left right
      exact left.trans right.symm

end

theorem Overrides.nil (config : Config) : Overrides [] config config := ⟨rfl, rfl, rfl, rfl⟩

theorem Overrides.append (first : Overrides before config mid)
    (second : Overrides after mid merged) : Overrides (before ++ after) config merged where
  finishTime := first.finishTime.append second.finishTime
  startAmount := first.startAmount.append second.startAmount
  scrollback := first.scrollback.append second.scrollback
  logFilter := first.logFilter.append second.logFilter

/-- There is one configuration only that all settings agree with. -/
theorem Overrides.unique (left : Overrides vars config merged)
    (right : Overrides vars config mid) : merged = mid := by
  have number (value : String) (m n : UInt64) (holds : Holds value m.toNat)
      (also : Holds value n.toNat) : m = n := holds.unique also
  obtain ⟨⟨mergedTime, mergedAmount⟩, ⟨mergedScrollback⟩, mergedFilter⟩ := merged
  obtain ⟨⟨midTime, midAmount⟩, ⟨midScrollback⟩, midFilter⟩ := mid
  obtain rfl : mergedTime = midTime := left.finishTime.unique number right.finishTime
  obtain rfl : mergedAmount = midAmount := left.startAmount.unique number right.startAmount
  obtain rfl : mergedScrollback = midScrollback := left.scrollback.unique number right.scrollback
  obtain rfl : mergedFilter = midFilter :=
    left.logFilter.unique (fun value a b is also => is.trans also.symm) right.logFilter
  rfl

/-- Only the last variable of each name counts. -/
theorem Overrides.of_last (overrides : Overrides vars config merged)
    (same : ∀ key, last? key other = last? key vars) : Overrides other config merged := by
  obtain ⟨finishTime, startAmount, scrollback, logFilter⟩ := overrides
  constructor <;> unfold Overridden at * <;> rw [same] <;> assumption

theorem overrides_mergeVariable (taken : config.mergeVariable key value = .ok merged) :
    Overrides [(key, value)] config merged := by
  have came := merges_mergeVariable config key value
  rw [taken] at came
  cases came with
  | finishTime n named holds =>
      subst named
      exact ⟨.own holds, .passed (by decide), .passed (by decide), .passed (by decide)⟩
  | startAmount n named holds =>
      subst named
      exact ⟨.passed (by decide), .own holds, .passed (by decide), .passed (by decide)⟩
  | scrollback n named holds =>
      subst named
      exact ⟨.passed (by decide), .passed (by decide), .own holds, .passed (by decide)⟩
  | logFilter named =>
      subst named
      exact ⟨.passed (by decide), .passed (by decide), .passed (by decide), .own rfl⟩
  | passed unknown =>
      have apart {name : String} (known : name ∈ knownVariables) : key ≠ name :=
        (ne_of_mem_of_not_mem known unknown).symm
      exact ⟨.passed (apart (by decide)), .passed (apart (by decide)), .passed (apart (by decide)),
        .passed (apart (by decide))⟩

/-! ### Lists of variables -/

/-- All that can come of a list of variables. -/
inductive Ends (config : Config) :
    List (String × String) → Config × Except ConfigError Unit → Prop
  | all {vars : List (String × String)} {merged : Config} (usable : ∀ entry ∈ vars, Usable entry)
      (left : Overrides vars config merged) : Ends config vars (merged, .ok ())
  | stops {before after : List (String × String)} {key value : String} {merged : Config}
      {fault : Text.NumeralFault} (usable : ∀ entry ∈ before, Usable entry)
      (taken : config.mergeVariables before = (merged, .ok ()))
      (unusable : ¬ Usable (key, value))
      (unread : Text.readWord (Text.trim value) = .error fault) :
      Ends config (before ++ (key, value) :: after) (merged, .error (.invalid key fault.message))

theorem mergeVariables_cons (taken : config.mergeVariable key value = .ok mid) :
    config.mergeVariables ((key, value) :: vars) = mid.mergeVariables vars := by
  rw [mergeVariables, taken]

theorem ends_mergeVariables (config : Config) (vars : List (String × String)) :
    Ends config vars (config.mergeVariables vars) := by
  induction vars generalizing config with
  | nil => exact .all (by simp) (.nil config)
  | cons entry rest ih =>
      obtain ⟨key, value⟩ := entry
      -- Either the first variable is usable, and the rest is merged into what it leaves; or it is
      -- itself the first that is not.
      cases came : config.mergeVariable key value with
      | ok mid =>
          have usable : Usable (key, value) := mergeVariable_isOk_iff.mp ⟨mid, came⟩
          rw [mergeVariables_cons came]
          have later := ih mid
          generalize mid.mergeVariables rest = result at later ⊢
          cases later with
          | all usables left =>
              exact .all (List.forall_mem_cons.mpr ⟨usable, usables⟩)
                ((overrides_mergeVariable came).append left)
          | @stops before after _ _ _ _ usables taken unusable unread =>
              show Ends config (((key, value) :: before) ++ _ :: after) _
              exact .stops (List.forall_mem_cons.mpr ⟨usable, usables⟩)
                ((mergeVariables_cons came).trans taken) unusable unread
      | error error =>
          have step := merges_mergeVariable config key value
          rw [came] at step
          cases step with
          | unusable fault number unread =>
              rw [mergeVariables, came]
              show Ends config ([] ++ (key, value) :: rest) _
              exact .stops (by simp) rfl (not_usable_of_readWord_error number unread) unread

/-- A list of variables is taken to its end exactly if all of them can be used. -/
theorem mergeVariables_isOk_iff :
    (config.mergeVariables vars).2 = .ok () ↔ ∀ entry ∈ vars, Usable entry := by
  have ends := ends_mergeVariables config vars
  generalize config.mergeVariables vars = result at ends ⊢
  cases ends with
  | all usable _ => exact iff_of_true rfl usable
  | stops _ _ unusable _ =>
      exact iff_of_false (by rintro ⟨⟩) fun usable => unusable (usable _ (by simp))

theorem overrides_mergeVariables (taken : config.mergeVariables vars = (merged, .ok ())) :
    Overrides vars config merged := by
  have ends := ends_mergeVariables config vars
  rw [taken] at ends
  cases ends with
  | all _ left => exact left

/-! ### Lists in another order -/

/-- Where every name stands once, the last variable of a name is the only one. -/
theorem last?_eq_some_iff (distinct : (vars.map Prod.fst).Nodup) :
    last? key vars = some value ↔ (key, value) ∈ vars := by
  rw [last?, List.lookup_eq_some_iff]
  constructor
  · rintro ⟨later, earlier, split, -⟩
    rw [← List.mem_reverse, split]
    simp
  · intro mem
    obtain ⟨later, earlier, split⟩ := List.append_of_mem (List.mem_reverse.mpr mem)
    refine ⟨later, earlier, split, fun entry found => ?_⟩
    -- The name stands once in the list, so no later entry has it.
    have once : ((later ++ (key, value) :: earlier).map Prod.fst).Nodup := by
      rw [← split, List.map_reverse]
      exact List.nodup_reverse.mpr distinct
    rw [List.map_append, List.map_cons, List.nodup_append] at once
    have apart : entry.1 ≠ key :=
      once.2.2 entry.1 (List.mem_map_of_mem found) key List.mem_cons_self
    simpa using apart.symm

theorem last?_perm (distinct : (vars.map Prod.fst).Nodup) (moved : vars.Perm other) (key : String) :
    last? key other = last? key vars := by
  have also : (other.map Prod.fst).Nodup := (moved.map Prod.fst).nodup_iff.mp distinct
  ext value
  rw [last?_eq_some_iff also, last?_eq_some_iff distinct, moved.mem_iff]

/-- Where every name stands once, the order of the variables does not matter. -/
theorem mergeVariables_perm (taken : config.mergeVariables vars = (merged, .ok ()))
    (distinct : (vars.map Prod.fst).Nodup) (moved : vars.Perm other) :
    config.mergeVariables other = (merged, .ok ()) := by
  -- The other list has the same variables, so it comes to its end too; and the settings that it
  -- leaves are those that the last variables of this one give.
  have whole : (config.mergeVariables vars).2 = .ok () := by rw [taken]
  have usable : ∀ entry ∈ vars, Usable entry := mergeVariables_isOk_iff.mp whole
  have taken' : config.mergeVariables other = ((config.mergeVariables other).1, .ok ()) :=
    Prod.ext rfl (mergeVariables_isOk_iff.mpr fun entry mem => usable entry (moved.mem_iff.mpr mem))
  have left : Overrides vars config (config.mergeVariables other).1 :=
    (overrides_mergeVariables taken').of_last fun key => (last?_perm distinct moved key).symm
  rw [taken', left.unique (overrides_mergeVariables taken)]

/-! ### Variables of other names -/

theorem mergeVariable_of_unknown (unknown : key ∉ knownVariables) :
    config.mergeVariable key value = .ok config := by
  simp only [knownVariables, numberVariables, List.mem_cons, List.not_mem_nil, or_false, not_or]
    at unknown
  obtain ⟨noFilter, noTime, noAmount, noScrollback⟩ := unknown
  rw [mergeVariable, if_neg noTime, if_neg noAmount, if_neg noScrollback, if_neg noFilter]

theorem mergeVariables_filter (config : Config) (vars : List (String × String)) :
    config.mergeVariables (vars.filter fun entry => entry.1 ∈ knownVariables) =
      config.mergeVariables vars := by
  induction vars generalizing config with
  | nil => rfl
  | cons entry rest ih =>
      obtain ⟨key, value⟩ := entry
      by_cases known : key ∈ knownVariables
      · rw [List.filter_cons_of_pos (by simpa using known)]
        cases came : config.mergeVariable key value with
        | ok mid => rw [mergeVariables_cons came, mergeVariables_cons came, ih]
        | error error => rw [mergeVariables, mergeVariables, came]
      · rw [List.filter_cons_of_neg (by simpa using known), ih,
          mergeVariables_cons (mergeVariable_of_unknown known)]

/-! ### What is promised -/

/-- What becomes of a configuration under a list of variables. -/
structure OverriddenBy (config : Config) (vars : List (String × String)) : Prop where
  /-- The list is taken to its end exactly if every variable that stands for a number holds one. -/
  succeeds : (config.mergeVariables vars).2 = .ok () ↔ ∀ entry ∈ vars, Usable entry
  /-- Then each setting is what the last variable of its name gives, and else what it was. -/
  settings : ∀ merged, config.mergeVariables vars = (merged, .ok ()) → Overrides vars config merged
  /-- So if no name stands twice, the order does not matter. -/
  reordered : ∀ merged other, config.mergeVariables vars = (merged, .ok ()) →
    (vars.map Prod.fst).Nodup → vars.Perm other → config.mergeVariables other = (merged, .ok ())
  /-- Otherwise the error names the first variable that cannot be used and says what is wrong with
  its value, and the variables before it are what the configuration is overridden by. -/
  stops : ∀ merged error, config.mergeVariables vars = (merged, .error error) →
    ∃ before key value after, ∃ fault : Text.NumeralFault, vars = before ++ (key, value) :: after ∧
      (∀ entry ∈ before, Usable entry) ∧ ¬ Usable (key, value) ∧
      Text.readWord (Text.trim value) = .error fault ∧ error = .invalid key fault.message ∧
      config.mergeVariables before = (merged, .ok ())
  /-- Variables of other names never matter. -/
  others : config.mergeVariables (vars.filter fun entry => entry.1 ∈ knownVariables) =
    config.mergeVariables vars

/-- **Overrides.** Of every list of variables, what it makes of a configuration is settled by the
last variable of each name, up to the first variable that cannot be used. -/
theorem variables_override_in_order (config : Config) (vars : List (String × String)) :
    config.OverriddenBy vars where
  succeeds := mergeVariables_isOk_iff
  settings _ taken := overrides_mergeVariables taken
  reordered _ _ taken distinct moved := mergeVariables_perm taken distinct moved
  stops merged error stopped := by
    have ends := ends_mergeVariables config vars
    rw [stopped] at ends
    cases ends with
    | @stops before after key value _ fault usable taken unusable unread =>
        exact ⟨before, key, value, after, fault, rfl, usable, unusable, unread, rfl, taken⟩
  others := mergeVariables_filter config vars

/-- The later of two lengths counts, and with the amount the list is given up. -/
example :
    ({} : Config).mergeVariables
        [(scrollbackVariable, " +7 "), (scrollbackVariable, "008"), (startAmountVariable, "1x"),
          (logFilterVariable, "warn")] =
      ({ chat := { scrollback := 8 } },
        .error (.invalid startAmountVariable "invalid digit found in string")) := by
  decide

end GameClient.Config
