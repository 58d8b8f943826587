import GameClient.Latch.Holding
import GameClient.Proofs.Lasting

/-!
# Guards of a latch

A latch is held exactly as long as a guard of it lives, and no two guards live at a time. Steps are
taken in any order: a latch is asked for while it is held, hooks are registered with guards and take
each other's place, and guards go by being dropped, by an early return or by an unwinding.

What is said of hooks is said of the steps alone. A hook *awaits* the end of its guard if it was
registered while the guard lived, and since then neither was another one registered with the guard
nor did the guard go (`Awaits`). It *has run* if the guard went then (`HasRun`). The world is what
these hooks have made of it, each called once and on a free latch. The main statement is
`guards_hold_and_hooks_run_once`.
-/

namespace GameClient.Latch.Holding

variable {World : Type}

/-! ### What steps do to guards -/

/-- The guard that goes in a step, if it lives. -/
def Step.exits? : Step World → Option String
  | .drop guard => some guard
  | .earlyReturn _ guard => guard
  | .unwind guard => guard
  | _ => none

/-- A hook is registered with a guard in the step, or the guard goes. -/
def Step.Touches (guard : String) (step : Step World) : Prop :=
  (∃ hook, step = .onRelease guard hook) ∨ step.exits? = some guard

def Alive (holding : Holding World) (guard : String) : Prop :=
  ∃ hook, (guard, hook) ∈ holding.guards

/-- The world after a hook was called on the free latch of an action. -/
def call (action : Action) (world : World) (hook : Hook World) : World := (hook { action } world).2

/-- The latch is held after a hook was called on it, since the hook has taken it and kept the guard.
-/
def keeps (action : Action) (world : World) (hook : Hook World) : Bool :=
  (hook { action } world).1.held

/-- A latch whose one guard lives. -/
def taken (action : Action) (guard : String) (hook : Option (Hook World)) (world : World) :
    Holding World :=
  { latch := { action, held := true }, guards := [(guard, hook)], world }

section Steps

variable {action : Action} {guard other : String} {hook : Option (Hook World)}
  {last : Hook World} {world : World} {step : Step World}

/-- What a step does to a latch that is free. -/
theorem step_start (action : Action) (world : World) (step : Step World) :
    ((start action world).step step).1 =
      match step with
      | .acquire guard => taken action guard none world
      | _ => start action world := by
  match step with
  | .acquire _ | .onRelease .. | .drop _ => rfl
  | .earlyReturn _ none | .earlyReturn _ (some _) => rfl
  | .unwind none | .unwind (some _) => rfl

theorem exit?_taken :
    (taken action guard hook world).exit? other =
      if guard = other then some ((taken action guard hook world).letGo guard hook) else none := by
  unfold exit? taken
  by_cases same : guard = other
  · simp [same]
  · simp [same, Ne.symm same]

theorem letGo_none :
    (taken action guard none world).letGo guard none = start action world := by
  simp [letGo, taken, start, release]

/-- A guard with a hook goes, and the hook finds the latch free. -/
theorem letGo_some :
    (taken action guard (some last) world).letGo guard (some last) =
      if keeps action world last then taken action guard none (call action world last)
      else start action (call action world last) := by
  unfold keeps call
  cases kept : (last { action } world).1.held with
  | true => simp [letGo, taken, release, kept]
  | false => simp [letGo, taken, start, release, kept]

theorem step_exit (exits : step.exits? = some guard) :
    ((taken action guard hook world).step step).1 =
      (taken action guard hook world).letGo guard hook := by
  have left : (taken action guard hook world).exit? guard =
      some ((taken action guard hook world).letGo guard hook) := by
    rw [exit?_taken, if_pos rfl]
  match step with
  | .drop _ | .earlyReturn _ (some _) | .unwind (some _) =>
      obtain rfl := Option.some.inj exits
      simp only [Holding.step, left]

theorem step_onRelease :
    ((taken action guard hook world).step (.onRelease guard last)).1 =
      taken action guard (some last) world := by
  simp [Holding.step, taken, register]

/-- Whatever else is done leaves a latch that is held as it is. -/
theorem step_taken (untouched : ¬ step.Touches guard) :
    ((taken action guard hook world).step step).1 = taken action guard hook world := by
  have kept (other : String) (apart : step.exits? = some other) :
      (taken action guard hook world).exit? other = none := by
    rw [exit?_taken, if_neg]
    rintro rfl
    exact untouched (.inr apart)
  match step with
  | .acquire _ | .earlyReturn _ none | .unwind none => rfl
  | .onRelease other last =>
      have apart : guard ≠ other := by
        rintro rfl
        exact untouched (.inl ⟨last, rfl⟩)
      simp [Holding.step, taken, register, apart]
  | .drop _ | .earlyReturn _ (some _) | .unwind (some _) =>
      simp only [Holding.step, kept _ rfl]

end Steps

/-! ### What steps have done -/

/-- A guard begins to live in a step: the latch is taken, or it is kept by the hook of a guard that
goes. -/
def Takes (holding : Holding World) (guard : String) (step : Step World) : Prop :=
  step = .acquire guard ∧ (holding.step step).2 = .acquired ∨
    step.exits? = some guard ∧ ∃ hook, (guard, some hook) ∈ holding.guards ∧
      keeps holding.latch.action holding.world hook = true

variable (action : Action) (world : World) (steps : List (Step World))

/-- The guard was acquired and has not gone since. -/
def Lives (guard : String) : Prop :=
  Lasts (fun earlier step => ((start action world).run earlier).Takes guard step)
    (fun _ step => step.exits? = some guard) steps

/-- The hook was registered in the step of this place with a guard that lived, and since then
neither was another one registered with that guard nor did it go. -/
def Awaits (place : Nat) (guard : String) (hook : Hook World) : Prop :=
  Lasts (fun earlier step => earlier.length = place ∧ step = .onRelease guard hook ∧
    ((start action world).run earlier).Alive guard) (fun _ step => step.Touches guard) steps

/-- The hook that was registered in the step of this place awaited the end of its guard, and the
guard went. -/
def HasRun (place : Nat) (hook : Hook World) : Prop :=
  ∃ earlier step later guard, steps = earlier ++ step :: later ∧
    Awaits action world earlier place guard hook ∧ step.exits? = some guard

variable {action : Action} {world : World} {steps : List (Step World)} {step : Step World}
  {place : Nat} {guard other : String} {hook : Option (Hook World)} {last : Hook World}

theorem run_concat (holding : Holding World) (steps : List (Step World)) (step : Step World) :
    holding.run (steps ++ [step]) = ((holding.run steps).step step).1 := by
  induction steps generalizing holding with
  | nil => rfl
  | cons first rest ih => exact ih (holding.step first).1

theorem hasRun_concat :
    HasRun action world (steps ++ [step]) place last ↔
      HasRun action world steps place last ∨
        ∃ guard, Awaits action world steps place guard last ∧ step.exits? = some guard := by
  constructor
  · rintro ⟨earlier, exit, later, guard, split, awaits, exits⟩
    rcases List.eq_nil_or_concat later with rfl | ⟨later, final, rfl⟩
    · obtain ⟨rfl, rfl⟩ := List.append_singleton_inj.mp split
      exact .inr ⟨guard, awaits, exits⟩
    · rw [List.concat_eq_append, ← List.cons_append, ← List.append_assoc] at split
      obtain ⟨rfl, rfl⟩ := List.append_singleton_inj.mp split
      exact .inl ⟨earlier, exit, later, guard, rfl, awaits, exits⟩
  · rintro (⟨earlier, exit, later, guard, rfl, awaits, exits⟩ | ⟨guard, awaits, exits⟩)
    · exact ⟨earlier, exit, later ++ [step], guard, by simp, awaits, exits⟩
    · exact ⟨steps, step, [], guard, rfl, awaits, exits⟩

theorem not_alive_start : ¬ (start action world).Alive guard := by
  rintro ⟨hook, mem⟩
  cases mem

theorem alive_taken_iff : (taken action guard hook world).Alive other ↔ other = guard := by
  simp [Alive, taken]

theorem takes_start_iff : (start action world).Takes guard step ↔ step = .acquire guard := by
  constructor
  · rintro (⟨acquires, -⟩ | ⟨-, hook, mem, -⟩)
    · exact acquires
    · cases mem
  · rintro rfl
    exact .inl ⟨rfl, rfl⟩

theorem takes_taken_iff :
    (taken action guard hook world).Takes other step ↔
      other = guard ∧ step.exits? = some guard ∧
        ∃ last, hook = some last ∧ keeps action world last = true := by
  constructor
  · rintro (⟨rfl, acquired⟩ | ⟨exits, last, mem, kept⟩)
    · -- The latch is held, so it is not acquired again.
      cases acquired
    · obtain ⟨rfl, rfl⟩ := Prod.ext_iff.mp (List.mem_singleton.mp mem)
      exact ⟨rfl, exits, last, rfl, kept⟩
  · rintro ⟨rfl, exits, last, rfl, kept⟩
    exact .inr ⟨exits, last, List.mem_singleton_self _, kept⟩

/-! ### How steps leave a latch -/

/-- How a latch stands: it is free, or one guard lives, with the hook that was registered last and
the place of the step in which it was. -/
inductive Stand (World : Type) where
  | free
  | taken (guard : String) (hook : Option (Nat × Hook World))

namespace Stand

def holding (action : Action) (world : World) : Stand World → Holding World
  | free => start action world
  | taken guard hook => Holding.taken action guard (hook.map Prod.snd) world

def waiting : Stand World → List (Nat × Hook World)
  | free => []
  | taken _ hook => hook.toList

end Stand

/-- The world after hooks have run, one after the other. -/
def worldAfter (action : Action) (world : World) (ran : List (Nat × Hook World)) : World :=
  ran.foldl (fun world entry => call action world entry.2) world

theorem worldAfter_concat (action : Action) (world : World) (ran : List (Nat × Hook World))
    (entry : Nat × Hook World) :
    worldAfter action world (ran ++ [entry]) =
      call action (worldAfter action world ran) entry.2 := by
  rw [worldAfter, List.foldl_append, List.foldl_cons, List.foldl_nil, ← worldAfter]

/-- What has come of steps: how the latch stands, and the hooks that have run in their order. -/
structure Leaves (action : Action) (world : World) (steps : List (Step World))
    (stand : Stand World) (ran : List (Nat × Hook World)) : Prop where
  stands : (start action world).run steps = stand.holding action (worldAfter action world ran)
  lives : ∀ guard, Lives action world steps guard ↔ ∃ hook, stand = .taken guard hook
  awaits : ∀ place guard hook,
    Awaits action world steps place guard hook ↔ stand = .taken guard (some (place, hook))
  hasRun : ∀ place hook, (place, hook) ∈ ran ↔ HasRun action world steps place hook
  /-- The hook that waits was registered after all that have run. -/
  ordered : (ran ++ stand.waiting).Pairwise fun earlier later => earlier.1 < later.1
  below : ∀ entry ∈ ran ++ stand.waiting, entry.1 < steps.length

namespace Leaves

variable {stand after : Stand World} {ran ranAfter : List (Nat × Hook World)}
  {awaiting : Option (Nat × Hook World)}

theorem nil : Leaves action world [] .free [] where
  stands := rfl
  lives guard := by simp [Lives, not_lasts_nil]
  awaits place guard hook := by simp [Awaits, not_lasts_nil]
  hasRun place hook := by simp [HasRun]
  ordered := List.Pairwise.nil
  below := nofun

/-- What a step changes is told by how the latch stands before and after it, and by the
hook that is registered in it, if one is. -/
theorem concat (leaves : Leaves action world steps stand ran)
    (fresh : Option (Nat × Hook World))
    (stands : ((stand.holding action (worldAfter action world ran)).step step).1 =
      after.holding action (worldAfter action world ranAfter))
    (lives : ∀ guard, (∃ hook, after = .taken guard hook) ↔
      (stand.holding action (worldAfter action world ran)).Takes guard step ∨
        (∃ hook, stand = .taken guard hook) ∧ step.exits? ≠ some guard)
    (awaits : ∀ place guard hook, after = .taken guard (some (place, hook)) ↔
      (steps.length = place ∧ step = .onRelease guard hook ∧
          (stand.holding action (worldAfter action world ran)).Alive guard) ∨
        stand = .taken guard (some (place, hook)) ∧ ¬ step.Touches guard)
    (hasRun : ∀ place hook, (place, hook) ∈ ranAfter ↔ (place, hook) ∈ ran ∨
      ∃ guard, stand = .taken guard (some (place, hook)) ∧ step.exits? = some guard)
    (now : ∀ entry ∈ fresh, entry.1 = steps.length)
    (kept : (ranAfter ++ after.waiting).Sublist (ran ++ stand.waiting ++ fresh.toList)) :
    Leaves action world (steps ++ [step]) after ranAfter where
  stands := by rw [run_concat, leaves.stands, stands]
  lives guard := by
    rw [lives, ← leaves.lives, ← leaves.stands]
    exact lasts_concat
  awaits place guard hook := by
    rw [awaits, ← leaves.awaits, ← leaves.stands]
    exact lasts_concat
  hasRun place hook := by
    rw [hasRun, hasRun_concat, leaves.hasRun]
    simp only [leaves.awaits]
  ordered := by
    -- A hook that is new was registered in this step, behind all that are there.
    refine List.Pairwise.sublist kept (List.pairwise_append.mpr ⟨leaves.ordered, ?_, ?_⟩)
    · cases fresh <;> simp
    · intro entry mem new newMem
      have last := now new (by simpa using newMem)
      have before := leaves.below entry mem
      omega
  below := by
    intro entry mem
    rw [List.length_append, List.length_singleton]
    rcases List.mem_append.mp (kept.subset mem) with old | new
    · have before := leaves.below entry old
      omega
    · have last := now entry (by simpa using new)
      omega

/-- A step that finds the latch free at most takes it. -/
theorem concat_free (leaves : Leaves action world steps .free ran) (step : Step World) :
    ∃ stand, Leaves action world (steps ++ [step]) stand ran := by
  -- No guard is alive, so that whatever does not acquire does nothing.
  by_cases acquires : ∃ guard, step = .acquire guard
  · obtain ⟨guard, rfl⟩ := acquires
    refine ⟨.taken guard none, leaves.concat none rfl ?_ ?_ ?_ nofun ?_⟩
    · intro other
      simp [Stand.holding, takes_start_iff, eq_comm]
    · intro place other hook
      simp
    · intro place hook
      simp
    · simp [Stand.waiting]
  · refine ⟨.free, leaves.concat none ?_ ?_ ?_ ?_ nofun ?_⟩
    · show ((start action _).step step).1 = start action _
      rw [step_start]
      split
      · exact absurd ⟨_, rfl⟩ acquires
      · rfl
    · intro other
      have apart : step ≠ .acquire other := fun same => acquires ⟨other, same⟩
      simp [Stand.holding, takes_start_iff, apart]
    · intro place other hook
      simp [Stand.holding, not_alive_start]
    · intro place hook
      simp
    · simp [Stand.waiting]

theorem concat_untouched (leaves : Leaves action world steps (.taken guard awaiting) ran)
    (untouched : ¬ step.Touches guard) :
    Leaves action world (steps ++ [step]) (.taken guard awaiting) ran := by
  have stays : step.exits? ≠ some guard := fun exits => untouched (.inr exits)
  refine leaves.concat none (step_taken untouched) ?_ ?_ ?_ nofun ?_
  · intro other
    rw [Stand.holding, takes_taken_iff]
    constructor
    · rintro ⟨hook, same⟩
      cases same
      exact .inr ⟨⟨awaiting, rfl⟩, stays⟩
    · rintro (⟨-, exits, -⟩ | ⟨lives, -⟩)
      · exact absurd exits stays
      · exact lives
  · intro place other hook
    rw [Stand.holding, alive_taken_iff]
    constructor
    · rintro same
      cases same
      exact .inr ⟨rfl, untouched⟩
    · rintro (⟨-, registers, rfl⟩ | ⟨waits, -⟩)
      · exact absurd (.inl ⟨hook, registers⟩) untouched
      · exact waits
  · intro place hook
    constructor
    · exact .inl
    · rintro (mem | ⟨other, same, exits⟩)
      · exact mem
      · cases same
        exact absurd exits stays
  · simp

/-- A hook that is registered takes the place of the one before it. -/
theorem concat_onRelease (leaves : Leaves action world steps (.taken guard awaiting) ran)
    (last : Hook World) :
    Leaves action world (steps ++ [.onRelease guard last])
      (.taken guard (some (steps.length, last))) ran := by
  refine leaves.concat (some (steps.length, last)) step_onRelease ?_ ?_ ?_ ?_ ?_
  · intro other
    simp [Stand.holding, takes_taken_iff, Step.exits?]
  · intro place other hook
    simp only [Stand.holding, alive_taken_iff]
    constructor
    · rintro same
      cases same
      exact .inl ⟨rfl, rfl, rfl⟩
    · rintro (⟨rfl, registers, rfl⟩ | ⟨same, untouched⟩)
      · cases registers
        rfl
      · cases same
        exact absurd (.inl ⟨last, rfl⟩) untouched
  · intro place hook
    simp [Step.exits?]
  · simp
  · simp [Stand.waiting]

/-- The guard goes, and the hook that awaited this runs. -/
theorem concat_exit (leaves : Leaves action world steps (.taken guard awaiting) ran)
    (exits : step.exits? = some guard) :
    ∃ stand, Leaves action world (steps ++ [step]) stand (ran ++ awaiting.toList) := by
  have hasRun : ∀ place hook, (place, hook) ∈ ran ++ awaiting.toList ↔ (place, hook) ∈ ran ∨
      ∃ other, Stand.taken guard awaiting = .taken other (some (place, hook)) ∧
        step.exits? = some other := by
    intro place hook
    cases awaiting <;> simp [exits, eq_comm]
  have awaits : ∀ place other hook, ¬ ((steps.length = place ∧ step = .onRelease other hook ∧
      ((Stand.taken guard awaiting).holding action (worldAfter action world ran)).Alive other) ∨
        Stand.taken guard awaiting = .taken other (some (place, hook)) ∧
          ¬ step.Touches other) := by
    rintro place other hook (⟨-, rfl, -⟩ | ⟨same, untouched⟩)
    · cases exits
    · cases same
      exact untouched (.inr exits)
  -- The guard that goes is in the place of itself if its hook kept it.
  by_cases keeping : ∃ entry, awaiting = some entry ∧
      keeps action (worldAfter action world ran) entry.2 = true
  · obtain ⟨⟨place, last⟩, rfl, kept⟩ := keeping
    refine ⟨.taken guard none, leaves.concat none ?_ ?_ ?_ hasRun nofun ?_⟩
    · show ((taken action guard (some last) _).step step).1 = taken action guard none _
      rw [step_exit exits, letGo_some, if_pos kept, Option.toList_some, worldAfter_concat]
    · intro other
      rw [Stand.holding, takes_taken_iff]
      constructor
      · rintro ⟨hook, same⟩
        cases same
        exact .inl ⟨rfl, exits, last, rfl, kept⟩
      · rintro (⟨rfl, -⟩ | ⟨⟨hook, same⟩, stays⟩)
        · exact ⟨none, rfl⟩
        · cases same
          exact absurd exits stays
    · intro place other hook
      exact iff_of_false (by simp) (awaits place other hook)
    · simp [Stand.waiting]
  · refine ⟨.free, leaves.concat none ?_ ?_ ?_ hasRun nofun ?_⟩
    · cases awaiting with
      | none =>
          show ((taken action guard none _).step step).1 = start action _
          rw [step_exit exits, letGo_none, Option.toList_none, List.append_nil]
      | some entry =>
          show ((taken action guard (some entry.2) _).step step).1 = start action _
          rw [step_exit exits, letGo_some, if_neg fun kept => keeping ⟨entry, rfl, kept⟩,
            Option.toList_some, worldAfter_concat]
    · intro other
      refine iff_of_false (by simp) ?_
      rw [Stand.holding, takes_taken_iff]
      rintro (⟨-, -, last, waits, kept⟩ | ⟨⟨hook, same⟩, stays⟩)
      · obtain ⟨entry, rfl, rfl⟩ := Option.map_eq_some_iff.mp waits
        exact keeping ⟨entry, rfl, kept⟩
      · cases same
        exact stays exits
    · intro place other hook
      exact iff_of_false (by simp) (awaits place other hook)
    · simp [Stand.waiting]

theorem exists_stand (action : Action) (world : World) (steps : List (Step World)) :
    ∃ stand ran, Leaves action world steps stand ran := by
  induction steps using List.reverseRecOn with
  | nil => exact ⟨.free, [], nil⟩
  | append_singleton steps step ih =>
      obtain ⟨stand, ran, leaves⟩ := ih
      cases stand with
      | free =>
          obtain ⟨after, leaves⟩ := leaves.concat_free step
          exact ⟨after, ran, leaves⟩
      | taken guard awaiting =>
          by_cases exits : step.exits? = some guard
          · obtain ⟨after, leaves⟩ := leaves.concat_exit exits
            exact ⟨after, _, leaves⟩
          · by_cases registers : ∃ last, step = .onRelease guard last
            · obtain ⟨last, rfl⟩ := registers
              exact ⟨_, ran, leaves.concat_onRelease last⟩
            · exact ⟨_, ran, leaves.concat_untouched (not_or.mpr ⟨registers, exits⟩)⟩

end Leaves

/-! ### The discipline of a latch -/

/-- What holds of a latch after steps, whichever they were. -/
structure Disciplined (action : Action) (world : World) (steps : List (Step World))
    (holding : Holding World) : Prop where
  held_iff : holding.latch.held = true ↔ ∃ guard, Lives action world steps guard
  alive_iff : ∀ guard, holding.Alive guard ↔ Lives action world steps guard
  unique : ∀ guard other,
    Lives action world steps guard → Lives action world steps other → guard = other
  single : holding.guards.length ≤ 1
  /-- Who asks for a latch that is held is told so, and changes nothing. -/
  refused : holding.latch.held = true → ∀ guard error,
    holding.step (.acquire guard) = (holding, .failed (.actionPending action)) ∧
      holding.step (.earlyReturn error) = (holding, .failed (.actionPending action)) ∧
        holding.step .unwind = (holding, .unwound false false)
  /-- A latch that is free is taken; and whoever takes it and then fails leaves it as it was. -/
  admitted : holding.latch.held = false → ∀ guard error,
    holding.step (.acquire guard) = (taken action guard none holding.world, .acquired) ∧
      holding.step (.earlyReturn error) = (holding, .failed error) ∧
        holding.step .unwind = (holding, .unwound true true)
  /-- When a guard goes for which no hook waits, the latch is free. -/
  frees : ∀ guard step, Lives action world steps guard → step.exits? = some guard →
    (∀ place hook, ¬ Awaits action world steps place guard hook) →
      (holding.step step).1 = start action holding.world
  /-- When a guard goes for which a hook waits, the hook finds the latch free. -/
  calls : ∀ place guard hook step, Awaits action world steps place guard hook →
    step.exits? = some guard →
      (holding.step step).1 =
        if keeps action holding.world hook then
          taken action guard none (call action holding.world hook)
        else start action (call action holding.world hook)
  /-- The hooks whose guards went while they waited have run, each once, and no other. -/
  hooks : ∃ ran : List (Nat × Hook World), ran.Pairwise (fun earlier later => earlier.1 < later.1) ∧
    (∀ place hook, (place, hook) ∈ ran ↔ HasRun action world steps place hook) ∧
      holding.world = worldAfter action world ran

namespace Leaves

variable {awaiting : Option (Nat × Hook World)} {ran : List (Nat × Hook World)}
  {stand : Stand World}

theorem pairwise_ran (leaves : Leaves action world steps stand ran) :
    ran.Pairwise fun earlier later => earlier.1 < later.1 :=
  List.Pairwise.sublist (List.sublist_append_left ran stand.waiting) leaves.ordered

theorem disciplined_of_free (leaves : Leaves action world steps .free ran) :
    Disciplined action world steps (start action (worldAfter action world ran)) := by
  have noLives guard : ¬ Lives action world steps guard := by simp [leaves.lives]
  refine ⟨?_, ?_, ?_, ?_, ?_, ?_, ?_, ?_, ran, leaves.pairwise_ran, leaves.hasRun, rfl⟩
  · exact iff_of_false nofun fun ⟨guard, lives⟩ => noLives guard lives
  · exact fun guard => iff_of_false not_alive_start (noLives guard)
  · exact fun guard other lives => absurd lives (noLives guard)
  · exact Nat.zero_le 1
  · exact nofun
  · exact fun _ guard error => ⟨rfl, rfl, rfl⟩
  · exact fun guard step lives => absurd lives (noLives guard)
  · intro place guard hook step awaits
    cases (leaves.awaits ..).mp awaits

theorem disciplined_of_taken (leaves : Leaves action world steps (.taken guard awaiting) ran) :
    Disciplined action world steps
      (taken action guard (awaiting.map Prod.snd) (worldAfter action world ran)) := by
  have lives_iff other : Lives action world steps other ↔ other = guard := by
    simp [leaves.lives, eq_comm]
  refine ⟨?_, ?_, ?_, ?_, ?_, ?_, ?_, ?_, ran, leaves.pairwise_ran, leaves.hasRun, rfl⟩
  · exact iff_of_true rfl ⟨guard, (lives_iff guard).mpr rfl⟩
  · exact fun other => alive_taken_iff.trans (lives_iff other).symm
  · intro one other oneLives otherLives
    rw [(lives_iff one).mp oneLives, (lives_iff other).mp otherLives]
  · exact Nat.le_refl 1
  · exact fun _ guard error => ⟨rfl, rfl, rfl⟩
  · exact nofun
  · intro other step lives exits noneWaits
    obtain rfl := (lives_iff other).mp lives
    cases awaiting with
    | none => exact (step_exit exits).trans letGo_none
    | some entry => exact absurd ((leaves.awaits ..).mpr rfl) (noneWaits entry.1 entry.2)
  · intro place other hook step awaits exits
    cases (leaves.awaits ..).mp awaits
    exact (step_exit exits).trans letGo_some

end Leaves

/-- **Guards.** A latch is held exactly as long as one guard lives, which is the only one; it is
refused exactly as long as it is held; and of the hooks that were registered exactly those have run,
once each, that were the last ones of their guard when it went. -/
theorem guards_hold_and_hooks_run_once (action : Action) (world : World)
    (steps : List (Step World)) :
    Disciplined action world steps ((start action world).run steps) := by
  obtain ⟨stand, ran, leaves⟩ := Leaves.exists_stand action world steps
  rw [leaves.stands]
  cases stand with
  | free => exact leaves.disciplined_of_free
  | taken guard awaiting => exact leaves.disciplined_of_taken

end GameClient.Latch.Holding
