import GameClient.Cell.Board
import GameClient.Proofs.Lasting

/-!
# Subscriptions to shared cells

Cells are written and read under names, any number of which may stand for one cell, and any number
of subscriptions look at them. What a poll answers can be told from the steps alone: whether the
cell was written behind the last step at which the subscription was taken or heard of a write
(`Unheard`). This holds for every sequence of steps, in whatever order names, cells and
subscriptions come up; the main statement is `subscriptions_tell_of_writes`.

Sequences begin at the empty board. A board of one cell comes of it by making that cell first.
-/

namespace GameClient.Cell.Board

variable {α : Type}

/-! ### What steps do -/

/-- The board after steps. -/
def after (board : Board α) (steps : List (Step α)) : Board α :=
  steps.foldl (fun board step => (board.step step).1) board

/-- The number of the cell that a step writes to, if this counts as a write: replacing or changing
a value always does, and changing it under a condition if the change says that it made a
difference. -/
def written? (board : Board α) : Step α → Option Nat
  | .set name _ => board.number? name
  | .update name _ => board.number? name
  | .updateIf name change => do
    let cell ← board.cell? name
    if (change cell.value).2 then board.number? name else none
  | _ => none

/-- How often steps write to a cell. -/
def writes (number : Nat) (board : Board α) : List (Step α) → Nat
  | [] => 0
  | step :: steps =>
    (if board.written? step = some number then 1 else 0) + writes number (board.step step).1 steps

/-- The subscription that a step takes, with the number of its cell. -/
def taken? (board : Board α) : Step α → Option (String × Nat)
  | .subscribe name reader => (board.number? name).map fun number => (reader, number)
  | _ => none

/-- The step polls a subscription, which hears of a write. -/
def Hears (board : Board α) (reader : String) (step : Step α) : Prop :=
  step = .poll reader ∧ ∃ value, (board.step step).2 = .polled (some value)

/-- The step takes a subscription, or the subscription hears of a write. -/
def Renews (board : Board α) (reader : String) (step : Step α) : Prop :=
  (∃ number, board.taken? step = some (reader, number)) ∨ board.Hears reader step

/-- The name that a step gives to a cell. -/
def Step.named? : Step α → Option String
  | .clone _ other => some other
  | .create name _ => some name
  | _ => none

/-- The step asks a subscription whether there was a write. -/
def Step.Asks (reader : String) (step : Step α) : Prop :=
  step = .poll reader ∨ step = .hasChanged reader

/-! ### What steps have done -/

/-- A subscription looks at a cell: it was taken from it, and not taken again since. -/
def Subscribed (reader : String) (number : Nat) (steps : List (Step α)) : Prop :=
  Lasts (fun earlier step => (after {} earlier).taken? step = some (reader, number))
    (fun earlier step => ∃ other, (after {} earlier).taken? step = some (reader, other)) steps

/-- A cell was written to, and a subscription was neither taken nor heard of a write since. -/
def Unheard (reader : String) (number : Nat) (steps : List (Step α)) : Prop :=
  Lasts (fun earlier step => (after {} earlier).written? step = some number)
    (fun earlier step => (after {} earlier).Renews reader step) steps

variable {board left right : Board α} {step : Step α} {steps earlier later : List (Step α)}
  {name other reader : String} {number : Nat} {cell : Cell α}

theorem after_concat (board : Board α) (steps : List (Step α)) (step : Step α) :
    board.after (steps ++ [step]) = ((board.after steps).step step).1 :=
  List.foldl_append

theorem after_append (board : Board α) (earlier later : List (Step α)) :
    board.after (earlier ++ later) = (board.after earlier).after later :=
  List.foldl_append

/-- Each step of a run is answered by the board that the steps before it left. -/
theorem run_concat (board : Board α) (steps : List (Step α)) (step : Step α) :
    board.run (steps ++ [step]) =
      board.run steps ++
        [(((board.after steps).step step).2, ((board.after steps).step step).1)] := by
  induction steps generalizing board with
  | nil => rfl
  | cons first rest ih => exact congrArg _ (ih (board.step first).1)

theorem writes_concat (number : Nat) (board : Board α) (steps : List (Step α)) (step : Step α) :
    writes number board (steps ++ [step]) = writes number board steps +
      if (board.after steps).written? step = some number then 1 else 0 := by
  induction steps generalizing board with
  | nil => exact Nat.add_comm _ _
  | cons first rest ih =>
      simp only [List.cons_append, writes, ih, Nat.add_assoc]
      rfl

theorem subscribed_concat :
    Subscribed reader number (steps ++ [step]) ↔
      (after {} steps).taken? step = some (reader, number) ∨
        Subscribed reader number steps ∧
          ¬ ∃ other, (after {} steps).taken? step = some (reader, other) :=
  lasts_concat

theorem unheard_concat :
    Unheard reader number (steps ++ [step]) ↔
      (after {} steps).written? step = some number ∨
        Unheard reader number steps ∧ ¬ (after {} steps).Renews reader step :=
  lasts_concat

/-! ### Cells and their versions -/

/-- All names and subscriptions are for cells that there are. -/
structure WellFormed (board : Board α) : Prop where
  names : ∀ {name : String} {number : Nat}, board.number? name = some number →
    number < board.cells.length
  subscriptions : ∀ {reader : String} {number : Nat} {subscription : Subscription},
    board.subscriptions.lookup reader = some (number, subscription) → number < board.cells.length

/-- How often a cell was written to, in 64 bits. A cell that is still to be made was never. -/
def version (board : Board α) (number : Nat) : UInt64 :=
  (board.cells[number]?.map Cell.version).getD 0

theorem WellFormed.exists_cell (formed : board.WellFormed)
    (named : board.number? name = some number) :
    ∃ cell, board.cells[number]? = some cell ∧ board.cell? name = some cell := by
  have held := List.getElem?_eq_getElem (formed.names named)
  exact ⟨_, held, by simp only [cell?, named, Option.bind_eq_bind, Option.bind_some, held]⟩

theorem version_of_held (held : board.cells[number]? = some cell) :
    board.version number = cell.version := by
  rw [version, held]
  rfl

theorem modify_of_named (change : Cell α → Cell α × Answer α)
    (named : board.number? name = some number) (held : board.cells[number]? = some cell) :
    board.modify name change =
      ({ board with cells := board.cells.set number (change cell).1 }, (change cell).2) := by
  simp only [modify, named, held]

theorem modify_of_unnamed (change : Cell α → Cell α × Answer α)
    (unnamed : board.number? name = none) : board.modify name change = (board, .unknown) := by
  simp only [modify, unnamed]

/-- Changing a cell leaves names and subscriptions alone, and there are as many cells as before. -/
theorem exists_cells_modify (board : Board α) (name : String)
    (change : Cell α → Cell α × Answer α) :
    ∃ cells, cells.length = board.cells.length ∧
      (board.modify name change).1 = { board with cells } := by
  unfold modify
  split
  · exact ⟨board.cells, rfl, rfl⟩
  · split
    · exact ⟨board.cells, rfl, rfl⟩
    · exact ⟨_, List.length_set, rfl⟩

@[simp] theorem names_modify (board : Board α) (name : String)
    (change : Cell α → Cell α × Answer α) : (board.modify name change).1.names = board.names := by
  obtain ⟨cells, -, same⟩ := exists_cells_modify board name change
  rw [same]

@[simp] theorem subscriptions_modify (board : Board α) (name : String)
    (change : Cell α → Cell α × Answer α) :
    (board.modify name change).1.subscriptions = board.subscriptions := by
  obtain ⟨cells, -, same⟩ := exists_cells_modify board name change
  rw [same]

@[simp] theorem length_cells_modify (board : Board α) (name : String)
    (change : Cell α → Cell α × Answer α) :
    (board.modify name change).1.cells.length = board.cells.length := by
  obtain ⟨cells, many, same⟩ := exists_cells_modify board name change
  rw [same, many]

/-- A change of a cell that adds to its version adds this to the version of that cell alone. -/
theorem version_modify (formed : board.WellFormed) {change : Cell α → Cell α × Answer α}
    (amount : UInt64) (adds : ∀ cell, board.cell? name = some cell →
      (change cell).1.version = cell.version + amount) (number : Nat) :
    (board.modify name change).1.version number =
      board.version number + if board.number? name = some number then amount else 0 := by
  cases named : board.number? name with
  | none => simp [modify_of_unnamed change named]
  | some own =>
      obtain ⟨cell, held, found⟩ := formed.exists_cell named
      rw [modify_of_named change named held]
      by_cases same : own = number
      · subst same
        simp [version, List.getElem?_set_self (formed.names named), held, adds cell found]
      · simp [version, List.getElem?_set_ne same, same]

/-- A step that counts as a write raises the version of the cell that it writes to by one, and all
other versions stay. -/
theorem version_step (formed : board.WellFormed) (step : Step α) (number : Nat) :
    (board.step step).1.version number =
      board.version number + if board.written? step = some number then 1 else 0 := by
  cases step with
  | set name value => exact version_modify formed 1 (fun _ _ => rfl) number
  | update name change => exact version_modify formed 1 (fun _ _ => rfl) number
  | updateIf name change =>
      cases named : board.number? name with
      | none => simp [Board.step, modify_of_unnamed _ named, written?, named]
      | some own =>
          obtain ⟨cell, -, found⟩ := formed.exists_cell named
          have adds (held : Cell α) (also : board.cell? name = some held) :
              (held.updateIf change).1.version =
                held.version + if (change cell.value).2 then 1 else 0 := by
            obtain rfl := Option.some.inj (found.symm.trans also)
            rw [Cell.version_updateIf]
            split <;> simp
          refine (version_modify formed _ adds number).trans ?_
          cases counts : (change cell.value).2 <;> simp [written?, found, counts]
  | get name =>
      refine (version_modify formed 0 (fun cell _ => ?_) number).trans ?_
      · simp
      · simp [written?]
  | create name value =>
      -- The new cell takes the next number, and its version is as if it had been there unwritten.
      simp only [Board.step, insert, version, written?]
      rcases Nat.lt_trichotomy number board.cells.length with inside | rfl | outside
      · simp [List.getElem?_append_left inside]
      · simp
      · have beyond : (board.cells ++ [({ value } : Cell α)]).length ≤ number := by
          rw [List.length_append]
          exact outside
        simp [List.getElem?_eq_none beyond, List.getElem?_eq_none (Nat.le_of_lt outside)]
  | clone _ _ | subscribe _ _ | poll _ | hasChanged _ | peek _ =>
      simp only [Board.step]
      split <;> simp [version, written?]

/-! ### Names and subscriptions -/

/-- A name keeps its cell until it is given to a cell again. -/
theorem number?_step (apart : step.named? ≠ some name) :
    (board.step step).1.number? name = board.number? name := by
  cases step with
  | set _ _ | update _ _ | updateIf _ _ | get _ => simp [Board.step, number?]
  | create named _ =>
      have apart : name ≠ named := fun same => apart (congrArg some same.symm)
      simp [Board.step, insert, number?, Keyed.lookup_assign, apart]
  | clone _ other =>
      have apart : name ≠ other := fun same => apart (congrArg some same.symm)
      simp only [Board.step]
      split <;> simp [number?, Keyed.lookup_assign, apart]
  | subscribe _ _ | poll _ | hasChanged _ | peek _ =>
      simp only [Board.step]
      split <;> simp [number?]

theorem number?_after (apart : ∀ step ∈ steps, step.named? ≠ some name) :
    (board.after steps).number? name = board.number? name := by
  induction steps generalizing board with
  | nil => rfl
  | cons step rest ih =>
      obtain ⟨first, others⟩ := List.forall_mem_cons.mp apart
      exact (ih others).trans (number?_step first)

/-- Another name for a cell stands for the same cell, and so does the name that it had. -/
theorem number?_clone (other : String) (named : board.number? name = some number) :
    (board.step (.clone name other)).1.number? name = some number ∧
      (board.step (.clone name other)).1.number? other = some number := by
  have lookup := named
  unfold number? at lookup
  simp [Board.step, number?, Keyed.lookup_assign, lookup]

theorem subscription?_eq_some_iff {subscription : Subscription} :
    board.subscription? reader = some (number, subscription, cell) ↔
      board.subscriptions.lookup reader = some (number, subscription) ∧
        board.cells[number]? = some cell := by
  simp only [subscription?, Option.bind_eq_bind, Option.bind_eq_some_iff, Option.pure_def,
    Option.some.injEq, Prod.mk.injEq, Prod.exists]
  constructor
  · rintro ⟨own, seen, found, held, there, rfl, rfl, rfl⟩
    exact ⟨found, there⟩
  · rintro ⟨found, there⟩
    exact ⟨number, subscription, found, cell, there, rfl, rfl, rfl⟩

theorem step_poll {subscription : Subscription}
    (found : board.subscription? reader = some (number, subscription, cell)) :
    board.step (.poll reader) =
      ({ board with
          subscriptions :=
            Keyed.assign reader (number, (subscription.poll cell).2) board.subscriptions },
        .polled (subscription.poll cell).1) := by
  simp only [Board.step, found]

theorem step_hasChanged {subscription : Subscription}
    (found : board.subscription? reader = some (number, subscription, cell)) :
    board.step (.hasChanged reader) = (board, .changed (subscription.hasChanged cell)) := by
  simp only [Board.step, found]

/-- Who has just looked sees nothing new. -/
theorem poll_poll (subscription : Subscription) (cell : Cell α) :
    ((subscription.poll cell).2.poll cell).1 = none := by
  have seen : Subscription.hasChanged ⟨cell.version⟩ cell = false := by
    simp [Subscription.hasChanged]
  by_cases changed : subscription.hasChanged cell
  · simp [Subscription.poll, changed, seen]
  · simp [Subscription.poll, changed]

/-- What a step can leave of a subscription: the step takes it, the subscription hears of a write,
or it stays. -/
inductive Follows (board : Board α) (reader : String) (step : Step α) :
    Option (Nat × Subscription) → Prop
  | taken (number : Nat) (takes : board.taken? step = some (reader, number)) :
      Follows board reader step (some (number, ⟨board.version number⟩))
  | heard (number : Nat) (subscription : Subscription)
      (takes : ∀ number, board.taken? step ≠ some (reader, number))
      (hears : board.Hears reader step)
      (was : board.subscriptions.lookup reader = some (number, subscription)) :
      Follows board reader step (some (number, ⟨board.version number⟩))
  | kept (still : ¬ board.Renews reader step) :
      Follows board reader step (board.subscriptions.lookup reader)

theorem not_renews (untaken : board.taken? step = none) (unpolled : step ≠ .poll reader) :
    ¬ board.Renews reader step := by
  rintro (⟨number, takes⟩ | ⟨polls, -⟩)
  · cases untaken.symm.trans takes
  · exact unpolled polls

theorem follows_step (formed : board.WellFormed) (reader : String) (step : Step α) :
    Follows board reader step ((board.step step).1.subscriptions.lookup reader) := by
  cases step with
  | set _ _ | update _ _ | updateIf _ _ | get _ =>
      simp only [Board.step, subscriptions_modify]
      exact .kept (not_renews rfl nofun)
  | create _ _ => exact .kept (not_renews rfl nofun)
  | clone _ _ | hasChanged _ | peek _ =>
      simp only [Board.step]
      split <;> exact .kept (not_renews rfl nofun)
  | subscribe name other =>
      cases named : board.number? name with
      | none =>
          simp only [Board.step, named]
          exact .kept (not_renews (by simp [taken?, named]) nofun)
      | some number =>
          obtain ⟨cell, held, found⟩ := formed.exists_cell named
          simp only [Board.step, named, found, Keyed.lookup_assign]
          split
          · next same =>
            subst same
            rw [Cell.subscribe, ← version_of_held held]
            exact .taken number (by simp [taken?, named])
          · next apart =>
            exact .kept (by simp [Renews, Hears, taken?, named, Ne.symm apart])
  | poll other =>
      cases found : board.subscription? other with
      | none =>
          simp only [Board.step, found]
          exact .kept (by simp [Renews, Hears, taken?, Board.step, found])
      | some entry =>
          obtain ⟨number, subscription, cell⟩ := entry
          obtain ⟨was, held⟩ := subscription?_eq_some_iff.mp found
          simp only [step_poll found, Keyed.lookup_assign]
          split
          · next same =>
            subst same
            by_cases changed : subscription.hasChanged cell
            · simp only [Subscription.poll, changed, if_true, ← version_of_held held]
              refine .heard number subscription (by simp [taken?]) ⟨rfl, cell.value, ?_⟩ was
              simp [step_poll found, Subscription.poll, changed]
            · -- Nothing was heard, and what is put down is what was there.
              have still : ¬ board.Renews reader (.poll reader) := by
                simp [Renews, Hears, taken?, step_poll found, Subscription.poll, changed]
              have kept := Follows.kept still
              rw [was] at kept
              simpa [Subscription.poll, changed] using kept
          · next apart => exact .kept (not_renews rfl (by simpa using Ne.symm apart))

/-! ### Boards on the way -/

theorem length_cells_step (board : Board α) (step : Step α) :
    board.cells.length ≤ (board.step step).1.cells.length := by
  cases step with
  | set _ _ | update _ _ | updateIf _ _ | get _ => simp [Board.step]
  | create _ _ => simp [Board.step, insert]
  | clone _ _ | subscribe _ _ | poll _ | hasChanged _ | peek _ =>
      simp only [Board.step]
      split <;> exact Nat.le_refl _

theorem wellFormed_step (formed : board.WellFormed) (step : Step α) :
    (board.step step).1.WellFormed where
  names {name number} named := by
    by_cases given : step.named? = some name
    · -- Two kinds of steps give a name: one to a cell that has one, the other to a new cell.
      cases step with
      | clone source other =>
          obtain rfl := Option.some.inj given
          cases meant : board.number? source with
          | none =>
              simp only [Board.step, meant] at named ⊢
              exact formed.names named
          | some own =>
              obtain rfl := Option.some.inj ((number?_clone _ meant).2.symm.trans named)
              exact Nat.lt_of_lt_of_le (formed.names meant) (length_cells_step board _)
      | create _ value =>
          obtain rfl := Option.some.inj given
          simp only [Board.step, insert, number?, Keyed.lookup_assign, if_true, Option.some.injEq]
            at named ⊢
          simp [← named]
      | _ => cases given
    · rw [number?_step given] at named
      exact Nat.lt_of_lt_of_le (formed.names named) (length_cells_step board step)
  subscriptions {reader number subscription} found := by
    have came := follows_step formed reader step
    generalize (board.step step).1.subscriptions.lookup reader = entry at came found
    apply Nat.lt_of_lt_of_le _ (length_cells_step board step)
    cases came with
    | taken own takes =>
        cases found
        cases step with
        | subscribe name _ =>
            obtain ⟨own, named, same⟩ := Option.map_eq_some_iff.mp takes
            cases same
            exact formed.names named
        | _ => cases takes
    | heard own seen _ _ was =>
        cases found
        exact formed.subscriptions was
    | kept _ => exact formed.subscriptions found

theorem wellFormed_after (steps : List (Step α)) : (after {} steps).WellFormed := by
  induction steps using List.reverseRecOn with
  | nil =>
      constructor
      · intro name number named
        cases named
      · intro reader number subscription found
        cases found
  | append_singleton steps step ih =>
      rw [after_concat]
      exact wellFormed_step ih step

/-- The version of a cell is how often it was written to. -/
theorem version_after (number : Nat) (steps : List (Step α)) :
    (after {} steps).version number = UInt64.ofNat (writes number {} steps) := by
  induction steps using List.reverseRecOn with
  | nil => rfl
  | append_singleton steps step ih =>
      rw [after_concat, version_step (wellFormed_after steps), ih, writes_concat, UInt64.ofNat_add]
      split <;> rfl

/-- Subscriptions are not taken and do not hear of writes by steps that write. -/
theorem written?_of_renews (renews : board.Renews reader step) : board.written? step = none := by
  rcases renews with ⟨number, takes⟩ | ⟨rfl, -⟩
  · cases step with
    | subscribe _ _ => rfl
    | _ => cases takes
  · rfl

/-- What a subscription remembers when it is taken or hears of a write is all that was written. -/
theorem seen_of_renews (renews : (after {} steps).Renews reader step) (number : Nat) :
    ∃ seen ≤ writes number {} (steps ++ [step]),
      some (number, (⟨(after {} steps).version number⟩ : Subscription)) =
          some (number, ⟨UInt64.ofNat seen⟩) ∧
        (seen < writes number {} (steps ++ [step]) ↔ Unheard reader number (steps ++ [step])) := by
  have still : writes number {} (steps ++ [step]) = writes number {} steps := by
    simp [writes_concat, written?_of_renews renews]
  have heard : ¬ Unheard reader number (steps ++ [step]) := by
    simp [unheard_concat, written?_of_renews renews, renews]
  refine ⟨writes number {} steps, Nat.le_of_eq still.symm, by rw [version_after],
    iff_of_false ?_ heard⟩
  rw [still]
  exact Nat.lt_irrefl _

/-- **What is remembered.** A subscription remembers how many writes there were when it was taken or
last heard of one; this is less than there are now exactly if there was one behind that. -/
theorem seen_after (subscribed : Subscribed reader number steps) :
    ∃ seen ≤ writes number {} steps,
      (after {} steps).subscriptions.lookup reader = some (number, ⟨UInt64.ofNat seen⟩) ∧
        (seen < writes number {} steps ↔ Unheard reader number steps) := by
  induction steps using List.reverseRecOn with
  | nil => exact absurd subscribed not_lasts_nil
  | append_singleton steps step ih =>
      rw [after_concat]
      rw [subscribed_concat] at subscribed
      -- A step renews what the subscription remembers, or leaves it; only then it can be a write.
      have came := follows_step (wellFormed_after steps) reader step
      generalize ((after {} steps).step step).1.subscriptions.lookup reader = entry at came ⊢
      cases came with
      | taken own takes =>
          have same : own = number := by
            rcases subscribed with now | ⟨-, never⟩
            · exact (Prod.mk.inj (Option.some.inj (takes.symm.trans now))).2
            · exact absurd ⟨own, takes⟩ never
          subst same
          exact seen_of_renews (.inl ⟨own, takes⟩) own
      | heard own subscription takes hears was =>
          rcases subscribed with now | ⟨before, -⟩
          · exact absurd now (takes number)
          · obtain ⟨seen, -, found, -⟩ := ih before
            obtain ⟨rfl, -⟩ := Prod.mk.inj (Option.some.inj (was.symm.trans found))
            exact seen_of_renews (.inr hears) own
      | kept still =>
          rcases subscribed with now | ⟨before, -⟩
          · exact absurd (.inl ⟨number, now⟩) still
          · obtain ⟨seen, few, found, unheard⟩ := ih before
            rw [writes_concat, unheard_concat, ← unheard]
            refine ⟨seen, by omega, found, ?_⟩
            split
            · next written => simp [written]; omega
            · next unwritten => simp [unwritten, still]

/-- A subscription to a cell can be polled, and there is something to hear exactly if the cell was
written to since it last heard, as long as the versions have not begun again. -/
theorem subscription?_after (subscribed : Subscribed reader number steps) :
    ∃ subscription cell,
      (after {} steps).subscription? reader = some (number, subscription, cell) ∧
        (writes number {} steps < UInt64.size →
          (subscription.hasChanged cell = true ↔ Unheard reader number steps)) := by
  obtain ⟨seen, le, found, unheard⟩ := seen_after subscribed
  have held := List.getElem?_eq_getElem ((wellFormed_after steps).subscriptions found)
  refine ⟨_, _, subscription?_eq_some_iff.mpr ⟨found, held⟩, fun few => ?_⟩
  rw [Subscription.hasChanged, decide_eq_true_iff, ← version_of_held held, version_after,
    UInt64.lt_iff_toNat_lt, UInt64.toNat_ofNat_of_lt' few,
    UInt64.toNat_ofNat_of_lt' (Nat.lt_of_le_of_lt le few), unheard]

/-! ### Boards that differ in one subscription -/

/-- Two boards are alike but for what a subscription remembers. -/
structure Alike (reader : String) (left right : Board α) : Prop where
  cells : left.cells = right.cells
  names : left.names = right.names
  own : (left.subscriptions.lookup reader).map Prod.fst =
    (right.subscriptions.lookup reader).map Prod.fst
  others : ∀ other ≠ reader,
    left.subscriptions.lookup other = right.subscriptions.lookup other

theorem Alike.refl (reader : String) (board : Board α) : Alike reader board board :=
  ⟨rfl, rfl, rfl, fun _ _ => rfl⟩

theorem Alike.number? (alike : Alike reader left right) (name : String) :
    left.number? name = right.number? name := by
  rw [Board.number?, Board.number?, alike.names]

theorem Alike.cell? (alike : Alike reader left right) (name : String) :
    left.cell? name = right.cell? name := by
  simp only [Board.cell?, alike.number?, alike.cells]

/-- A subscription is at the same cell on both boards, and remembers the same unless it is the one
that makes the difference. -/
theorem Alike.subscription? (alike : Alike reader left right) (name : String) :
    (left.subscription? name = none ∧ right.subscription? name = none) ∨
      ∃ number first second cell, left.subscription? name = some (number, first, cell) ∧
        right.subscription? name = some (number, second, cell) ∧
        (name ≠ reader → first = second) := by
  by_cases own : name = reader
  · -- What the two remember may differ, but not the cell.
    subst own
    have same := alike.own
    simp only [Board.subscription?, alike.cells]
    cases first : left.subscriptions.lookup name with
    | none =>
        rw [first, Option.map_none, eq_comm, Option.map_eq_none_iff] at same
        simp [same]
    | some entry =>
        obtain ⟨number, subscription⟩ := entry
        rw [first, Option.map_some, eq_comm, Option.map_eq_some_iff] at same
        obtain ⟨⟨place, also⟩, second, rfl⟩ := same
        cases held : right.cells[place]? with
        | none => simp [second, held]
        | some cell =>
            exact .inr ⟨place, subscription, also, cell, by simp [held], by simp [second, held],
              fun apart => absurd rfl apart⟩
  · have same : left.subscription? name = right.subscription? name := by
      simp only [Board.subscription?, alike.others name own, alike.cells]
    cases found : right.subscription? name with
    | none => exact .inl ⟨same.trans found, rfl⟩
    | some entry =>
        obtain ⟨number, subscription, cell⟩ := entry
        exact .inr ⟨number, subscription, subscription, cell, same.trans found, rfl, fun _ => rfl⟩

/-- Only the subscription that makes the difference may be put down differently. -/
theorem Alike.assign (alike : Alike reader left right) (name : String) (number : Nat)
    {first second : Subscription} (same : name ≠ reader → first = second) :
    Alike reader
      { left with subscriptions := Keyed.assign name (number, first) left.subscriptions }
      { right with subscriptions := Keyed.assign name (number, second) right.subscriptions } where
  cells := alike.cells
  names := alike.names
  own := by
    simp only [Keyed.lookup_assign]
    split
    · rfl
    · exact alike.own
  others other apart := by
    simp only [Keyed.lookup_assign]
    split
    · next named => rw [same (named ▸ apart)]
    · exact alike.others other apart

theorem Alike.modify (alike : Alike reader left right) (name : String)
    (change : Cell α → Cell α × Answer α) :
    (left.modify name change).2 = (right.modify name change).2 ∧
      Alike reader (left.modify name change).1 (right.modify name change).1 := by
  simp only [Board.modify, alike.number?, alike.cells]
  split
  · exact ⟨rfl, alike⟩
  · split
    · exact ⟨rfl, alike⟩
    · exact ⟨rfl, rfl, alike.names, alike.own, alike.others⟩

/-- A step that does not ask that subscription is answered alike, and whatever the step is, the
boards stay alike. -/
theorem alike_step (alike : Alike reader left right) (step : Step α) :
    (¬ step.Asks reader → (left.step step).2 = (right.step step).2) ∧
      Alike reader (left.step step).1 (right.step step).1 := by
  cases step with
  | set name _ | update name _ | updateIf name _ | get name =>
      obtain ⟨answer, still⟩ := alike.modify name _
      exact ⟨fun _ => answer, still⟩
  | create name value =>
      refine ⟨fun _ => rfl, ?_⟩
      simp only [Board.step, insert, alike.cells, alike.names]
      exact ⟨rfl, rfl, alike.own, alike.others⟩
  | clone name other =>
      simp only [Board.step, alike.number?, alike.names]
      split
      · exact ⟨fun _ => rfl, alike⟩
      · exact ⟨fun _ => rfl, alike.cells, rfl, alike.own, alike.others⟩
  | subscribe name other =>
      simp only [Board.step, alike.number?, alike.cell?]
      split
      · exact ⟨fun _ => rfl, alike.assign other _ fun _ => rfl⟩
      · exact ⟨fun _ => rfl, alike⟩
  | poll name =>
      rcases alike.subscription? name with
        ⟨first, second⟩ | ⟨number, seen, also, cell, first, second, same⟩
      · simp only [Board.step, first, second]
        exact ⟨fun _ => trivial, alike⟩
      · rw [step_poll first, step_poll second]
        -- Both boards hold the same cell, and only the reader itself may have seen another version.
        refine ⟨fun silent => ?_, alike.assign name number fun apart => by rw [same apart]⟩
        rw [same fun own => silent (.inl (own ▸ rfl))]
  | hasChanged name =>
      rcases alike.subscription? name with
        ⟨first, second⟩ | ⟨number, seen, also, cell, first, second, same⟩
      · simp only [Board.step, first, second]
        exact ⟨fun _ => trivial, alike⟩
      · rw [step_hasChanged first, step_hasChanged second]
        refine ⟨fun silent => ?_, alike⟩
        rw [same fun own => silent (.inr (own ▸ rfl))]
  | peek name =>
      rcases alike.subscription? name with
        ⟨first, second⟩ | ⟨number, seen, also, cell, first, second, -⟩
      · simp only [Board.step, first, second]
        exact ⟨fun _ => trivial, alike⟩
      · simp only [Board.step, first, second]
        exact ⟨fun _ => trivial, alike⟩

theorem alike_after (alike : Alike reader left right) (steps : List (Step α)) :
    Alike reader (left.after steps) (right.after steps) := by
  induction steps generalizing left right with
  | nil => exact alike
  | cons step rest ih => exact ih (alike_step alike step).2

/-- A poll changes nothing but what the subscription remembers. -/
theorem alike_poll (board : Board α) (reader : String) :
    Alike reader (board.step (.poll reader)).1 board := by
  cases found : board.subscription? reader with
  | none =>
      simp only [Board.step, found]
      exact .refl reader board
  | some entry =>
      obtain ⟨number, subscription, cell⟩ := entry
      have was := (subscription?_eq_some_iff.mp found).1
      rw [step_poll found]
      refine ⟨rfl, rfl, ?_, fun other apart => ?_⟩
      · simp [Keyed.lookup_assign, was]
      · simp [Keyed.lookup_assign, apart]

/-! ### What is promised -/

/-- What holds of the board that steps from the empty one leave. -/
structure KeepsWatch (steps : List (Step α)) : Prop where
  /-- It is the board that the next step of a run is answered by. -/
  answers : ∀ step, ({} : Board α).run (steps ++ [step]) =
    ({} : Board α).run steps ++
      [(((after {} steps).step step).2, ((after {} steps).step step).1)]
  /-- Through whatever name, a cell has its value, and as its version the number of writes to it. -/
  cells : ∀ name number, (after {} steps).number? name = some number →
    ∃ cell, (after {} steps).cells[number]? = some cell ∧
      (after {} steps).cell? name = some cell ∧
      ((after {} steps).step (.get name)).2 = .value cell.value ∧
      (writes number {} steps < UInt64.size → cell.version.toNat = writes number {} steps)
  /-- Another name for a cell stands for that cell as long as neither name is given again. -/
  clones : ∀ earlier name other later number, steps = earlier ++ .clone name other :: later →
    (after {} earlier).number? name = some number →
    (∀ step ∈ later, step.named? ≠ some name ∧ step.named? ≠ some other) →
    (after {} steps).number? name = some number ∧ (after {} steps).number? other = some number
  /-- A poll gives something exactly if the cell was written to since the subscription was taken or
  last given something, and what it gives is the value of the cell. -/
  polls : ∀ reader number, Subscribed reader number steps →
    ∃ cell answer, (after {} steps).cells[number]? = some cell ∧
      ((after {} steps).step (.poll reader)).2 = .polled answer ∧
      (∀ value ∈ answer, value = cell.value) ∧
      (writes number {} steps < UInt64.size →
        (answer.isSome = true ↔ Unheard reader number steps))
  /-- A poll right after a poll gives nothing. -/
  again : ∀ reader number, Subscribed reader number steps →
    (((after {} steps).step (.poll reader)).1.step (.poll reader)).2 = .polled none
  /-- Asking whether there was a write changes nothing and tells whether a poll gives something. -/
  asks : ∀ reader number, Subscribed reader number steps →
    ∃ verdict, (after {} steps).step (.hasChanged reader) = (after {} steps, .changed verdict) ∧
      (verdict = true ↔ ∃ value, ((after {} steps).step (.poll reader)).2 = .polled (some value))
  /-- Wherever a subscription is polled in between, cells, names and the answers to all steps that
  do not ask this subscription are as they are without it. -/
  isolated : ∀ reader earlier later, steps = earlier ++ later →
    (after {} (earlier ++ .poll reader :: later)).cells = (after {} steps).cells ∧
      (after {} (earlier ++ .poll reader :: later)).names = (after {} steps).names ∧
      ∀ step, ¬ step.Asks reader →
        ((after {} (earlier ++ .poll reader :: later)).step step).2 = ((after {} steps).step step).2

/-- **Subscriptions.** Versions count writes, polls give news of them once and only once, and polls
of one subscription leave everything else as it is. -/
theorem subscriptions_tell_of_writes (steps : List (Step α)) : KeepsWatch steps where
  answers step := run_concat {} steps step
  cells name number named := by
    obtain ⟨cell, held, found⟩ := (wellFormed_after steps).exists_cell named
    refine ⟨cell, held, found, ?_, fun few => ?_⟩
    · exact congrArg Prod.snd (modify_of_named _ named held)
    · rw [← version_of_held held, version_after, UInt64.toNat_ofNat_of_lt' few]
  clones earlier name other later number split named apart := by
    rw [split, after_append]
    have stood := number?_clone other named
    exact ⟨(number?_after fun step mem => (apart step mem).1).trans stood.1,
      (number?_after fun step mem => (apart step mem).2).trans stood.2⟩
  polls reader number subscribed := by
    obtain ⟨subscription, cell, found, unheard⟩ := subscription?_after subscribed
    refine ⟨cell, (subscription.poll cell).1, (subscription?_eq_some_iff.mp found).2,
      by rw [step_poll found], ?_, ?_⟩
    · unfold Subscription.poll
      split <;> simp
    · rwa [Subscription.isSome_poll]
  again reader number subscribed := by
    obtain ⟨subscription, cell, found, -⟩ := subscription?_after subscribed
    have held := (subscription?_eq_some_iff.mp found).2
    -- After the first poll the subscription has seen the version that the cell still has.
    have next : ((after {} steps).step (.poll reader)).1.subscription? reader =
        some (number, (subscription.poll cell).2, cell) := by
      rw [step_poll found, subscription?_eq_some_iff]
      exact ⟨by simp [Keyed.lookup_assign], held⟩
    rw [step_poll next]
    simp only [poll_poll]
  asks reader number subscribed := by
    obtain ⟨subscription, cell, found, -⟩ := subscription?_after subscribed
    refine ⟨subscription.hasChanged cell, step_hasChanged found, ?_⟩
    rw [step_poll found, ← Subscription.isSome_poll, Option.isSome_iff_exists]
    simp
  isolated reader earlier later split := by
    have alike : Alike reader (after {} (earlier ++ .poll reader :: later)) (after {} steps) := by
      rw [split, after_append, after_append]
      exact alike_after (alike_poll (after {} earlier) reader) later
    exact ⟨alike.cells, alike.names, fun step silent => (alike_step alike step).1 silent⟩

/-- Two writes through two names are heard of as one, with what an uncounted change has left. -/
theorem two_writes_are_heard_of_once :
    let steps : List (Step Nat) := [.create "a" 0, .clone "a" "b", .subscribe "b" "reader",
      .set "a" 1, .set "b" 2, .updateIf "a" fun n => (n + 5, false)]
    Subscribed "reader" 0 steps ∧ Unheard "reader" 0 steps ∧
      ((after {} steps).step (.poll "reader")).2 = .polled (some 7) := by
  intro steps
  have subscribed : Subscribed "reader" 0 steps := by
    refine ⟨[.create "a" 0, .clone "a" "b"], _, _, rfl, rfl, fun between next rest split => ?_⟩
    have mem : next ∈ between ++ next :: rest := by simp
    simp only [← split, List.mem_cons, List.not_mem_nil, or_false] at mem
    rcases mem with rfl | rfl | rfl <;> nofun
  have unheard : Unheard "reader" 0 steps := by
    refine ⟨[.create "a" 0, .clone "a" "b", .subscribe "b" "reader", .set "a" 1], _, _, rfl, rfl,
      fun between next rest split => ?_⟩
    have mem : next ∈ between ++ next :: rest := by simp
    rw [← split] at mem
    rw [List.mem_singleton.mp mem]
    exact not_renews rfl nofun
  obtain ⟨cell, answer, held, polled, current, heard⟩ :=
    (subscriptions_tell_of_writes steps).polls "reader" 0 subscribed
  obtain ⟨value, rfl⟩ := Option.isSome_iff_exists.mp ((heard (by decide)).mpr unheard)
  obtain rfl : (⟨7, 2⟩ : Cell Nat) = cell := Option.some.inj held
  exact ⟨subscribed, unheard, polled.trans (by rw [current value rfl])⟩

end GameClient.Cell.Board
