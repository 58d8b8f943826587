import GameClient.Proofs.Notifications
import GameClient.Proofs.RegistryEdits

/-!
# Each change of the registry is told once

Whether a snapshot has changed the registry is found by comparing the registry with what it was,
without regard to the order of the games. This misses nothing: no snapshot does nothing but reorder
the games (`Registry.sameAs_applySnapshot_iff`). The other two writers of the registry, a deselect
and a switch that is done, say for themselves whether they changed it, and they are right, too.

So the version of the registry is raised by one in each step that changes what it lists or selects,
and in no other (`Client.counts_of_step`), and after a run it is the number of those steps
(`Client.version_registry_of_run`). The main statement is `registry_version_counts_changes`.
-/

namespace GameClient

/-! ## Writes that count if they make a difference -/

namespace Cell

variable {α : Type} [DecidableEq α] {before after : Cell α}

/-- The version is raised by one if the value has changed, and stays otherwise. -/
def Counts (before after : Cell α) : Prop :=
  after.version = if after.value = before.value then before.version else before.version + 1

theorem Counts.of_eq (same : after = before) : before.Counts after := by
  unfold Counts
  rw [same, if_pos rfl]

/-- A write that decides for itself whether it counts has to be exact. -/
theorem Counts.updateIf {cell : Cell α} {change : α → α × Bool}
    (exact : (change cell.value).2 = true ↔ (change cell.value).1 ≠ cell.value) :
    cell.Counts (cell.updateIf change).1 := by
  unfold Counts
  rw [version_updateIf, value_updateIf]
  by_cases same : (change cell.value).1 = cell.value
  · rw [if_pos same, if_neg (mt exact.mp (not_not.mpr same))]
  · rw [if_neg same, if_pos (exact.mpr same)]

end Cell

namespace Registry

variable {registry : Registry}

theorem sameAs_self (distinct : registry.Distinct) : registry.sameAs registry = true := by
  simp only [sameAs, Bool.and_eq_true, beq_iff_eq, List.all_eq_true, and_true, true_and]
  exact fun _ mem => GameHandle.find?_of_mem distinct mem

/-- To compare without regard to the order is enough after a snapshot. -/
theorem sameAs_applySnapshot_iff (distinct : registry.Distinct) (snapshot : RegistrySnapshot) :
    (registry.applySnapshot snapshot).sameAs registry = true ↔
      registry.applySnapshot snapshot = registry := by
  refine ⟨eq_of_sameAs_applySnapshot distinct, fun same => ?_⟩
  rw [same]
  exact sameAs_self distinct

/-- A deselect says that it has changed the registry exactly if it has. -/
theorem clearActive_exact : registry.clearActive.2 = true ↔ registry.clearActive.1 ≠ registry := by
  constructor
  · intro cleared same
    have none : Option.none = registry.active := congrArg Registry.active same
    rw [clearActive, ← none] at cleared
    cases cleared
  · intro changed
    by_contra silent
    exact changed (Core.clearActive_honest (Bool.not_eq_true _ ▸ silent))

end Registry

namespace Core

/-- So does a switch. -/
theorem select_exact {registry : Registry} {target : String} (named : target ≠ "") :
    (select target registry).2 = true ↔ (select target registry).1 ≠ registry := by
  constructor
  · intro told same
    unfold select at told same
    split at told
    · next known =>
        obtain ⟨-, rfl⟩ := (Registry.setActive_eq_ok_iff named).mp known
        rw [known] at same
        have selected : some target = registry.active := congrArg Registry.active same
        simp [← selected] at told
    · cases told
  · intro changed
    by_contra silent
    exact changed (select_honest named (Bool.not_eq_true _ ▸ silent))

/-! ## The registry after a turn -/

variable {core after : Core}

theorem counts_deselect (free : core.held .switch = false) :
    core.registry.Counts core.deselect.core.registry := by
  simp only [deselect, acquire_of_free free]
  exact Cell.Counts.updateIf Registry.clearActive_exact

theorem Started.counts_registry {command : Command} {progress : Progress}
    (started : core.Started command after progress) : core.registry.Counts after.registry := by
  cases started with
  | deselected free => exact counts_deselect free
  | refused => exact .of_eq (registry_release _ _)
  | _ => exact .of_eq rfl

theorem Settled.counts_registry {pending : Pending} {answer : pending.call.Answer}
    {result : Result} (named : ∀ target, pending = .switching target → target ≠ "")
    (settled : core.Settled pending answer after result) :
    core.registry.Counts after.registry := by
  cases settled with
  | switched known =>
      simp only [Core.switched, known]
      exact Cell.Counts.updateIf (select_exact (named _ rfl))
  | vanished unknown =>
      simp only [Core.switched, unknown]
      exact .of_eq rfl
  | _ => exact .of_eq rfl

theorem counts_pushRegistry (distinct : core.registry.value.Distinct)
    (snapshot : RegistrySnapshot) :
    core.registry.Counts (core.pushRegistry snapshot).core.registry := by
  show core.registry.Counts (core.registry.updateIf fun before =>
    (core.registry.value.applySnapshot snapshot,
      !(core.registry.value.applySnapshot snapshot).sameAs before)).1
  apply Cell.Counts.updateIf
  rw [Bool.not_eq_true', ← Bool.not_eq_true, Registry.sameAs_applySnapshot_iff distinct]

end Core

/-! ## The registry in a run -/

namespace Client

variable {config : Config} {client : Client} {past : List Moment}

theorem counts_of_step (runs : InRun config past client) (step : Step) :
    client.core.registry.Counts (client.step step).1.core.registry := by
  have stepped := client.stepped step
  generalize client.moments step = moments, (client.step step).1 = after,
    (client.step step).2.outcome = outcome at stepped
  cases stepped with
  | ended started => exact started.counts_registry
  | called started => exact started.counts_registry
  | answeredAtOnce started _ settled =>
      -- The call leaves the registry alone, so the answer finds it as it was.
      rw [← started.registry_of_suspended]
      refine settled.counts_registry ?_
      rintro target rfl
      exact started.named_of_suspended
  | answered found _ settled =>
      refine settled.counts_registry fun target switching => ?_
      apply named_of_reached runs.reached
      rw [← switching]
      exact List.mem_map_of_mem (mem_of_task? found)
  | dropped => exact .of_eq (Core.registry_release _ _)
  | pushedRegistry => exact Core.counts_pushRegistry (distinct_of_reached runs.reached) _
  | pushedChat => exact .of_eq (Core.registry_pushChat _ _)
  | _ => exact .of_eq rfl

/-- In how many steps of a run the registry changes. -/
def registryChanges (client : Client) : List Step → Nat
  | [] => 0
  | step :: steps =>
    (if (client.step step).1.core.registry.value = client.core.registry.value then 0 else 1) +
      (client.step step).1.registryChanges steps

theorem version_registry_of_run (runs : InRun config past client) (steps : List Step) :
    (client.run steps).core.registry.version =
      client.core.registry.version + UInt64.ofNat (client.registryChanges steps) := by
  induction steps generalizing client past with
  | nil => exact (UInt64.add_zero _).symm
  | cons step steps ih =>
      have raised : (client.step step).1.core.registry.version =
          client.core.registry.version + UInt64.ofNat
            (if (client.step step).1.core.registry.value = client.core.registry.value then 0
            else 1) := by
        rw [counts_of_step runs step]
        split
        · exact (UInt64.add_zero _).symm
        · rfl
      show ((client.step step).1.run steps).core.registry.version = _
      rw [ih (runs.concat step), raised, UInt64.add_assoc, ← UInt64.ofNat_add, registryChanges]

end Client

/-! ## The main statement -/

/-- The second registry lists the same games in the same order, and selects the same one. -/
def Registry.LooksLike (before after : Registry) : Prop :=
  after.games = before.games ∧ after.active = before.active

instance (before after : Registry) : Decidable (before.LooksLike after) :=
  inferInstanceAs (Decidable (_ ∧ _))

theorem Registry.looksLike_iff {before after : Registry} :
    before.LooksLike after ↔ after = before :=
  Registry.ext_iff.symm

/-- What the version of the registry tells after a run. -/
structure Client.CountsRegistry (client : Client) (steps : List Client.Step) : Prop where
  /-- A snapshot is compared without regard to the order of the games, and this is enough. -/
  compared : ∀ snapshot,
    let before := (client.run steps).core.registry.value
    (before.applySnapshot snapshot).sameAs before = true ↔
      before.LooksLike (before.applySnapshot snapshot)
  /-- Whatever the next step is, it raises the version by one if it changes the registry, and by
  none otherwise. -/
  next : ∀ step,
    let before := (client.run steps).core.registry
    let after := ((client.run steps).step step).1.core.registry
    after.version =
      if before.value.LooksLike after.value then before.version else before.version + 1
  counted : (client.run steps).core.registry.version =
    UInt64.ofNat (client.registryChanges steps)

/-- **Exact versions.** After whatever edits, a snapshot leaves a registry that compares equal
exactly if it lists the same games in the same order and selects the same one. So in every run the
version of the registry counts the steps that change it. -/
theorem registry_version_counts_changes :
    (∀ edits snapshot,
      let before := Registry.editAll {} edits
      (before.applySnapshot snapshot).sameAs before = true ↔
        before.LooksLike (before.applySnapshot snapshot)) ∧
    ∀ config client, Client.new config = .ok client → ∀ steps, client.CountsRegistry steps := by
  constructor
  · intro edits snapshot before
    rw [Registry.looksLike_iff]
    have well : before.WellFormed := Registry.wellFormed_editAll Registry.wellFormed_empty edits
    exact Registry.sameAs_applySnapshot_iff well.distinct snapshot
  · intro config client new steps
    have runs := Client.inRun_of_new new steps
    refine ⟨?_, ?_, ?_⟩
    · intro snapshot before
      rw [Registry.looksLike_iff]
      exact Registry.sameAs_applySnapshot_iff (distinct_of_reached runs.reached) snapshot
    · intro step before after
      simp only [Registry.looksLike_iff]
      exact Client.counts_of_step runs step
    · have began : Client.InRun config [] client := Client.inRun_of_new new []
      -- A new client has written nothing yet, so that the writes of the run are all there are.
      have start : client.core.registry.version = 0 := by
        rw [Client.eq_fresh_of_new new]
        rfl
      rw [Client.version_registry_of_run began steps, start, UInt64.zero_add]

/-- Of two snapshots with the same games in another order and two deselects, the first ones count.
-/
theorem repeated_changes_count_once :
    let steps := [.pushRegistry twoGames, reordered, .switch "" .silent, .switch "" .silent]
    ((Client.fresh {}).run steps).core.registry.version = 2 := by
  intro steps
  obtain ⟨-, counts⟩ := registry_version_counts_changes
  rw [(counts {} _ Client.new_default steps).counted]
  decide

end GameClient
