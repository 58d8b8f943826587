import GameClient.Proofs.History
import GameClient.Proofs.Lasting

/-!
# One call of each action at a time

A latch, the flag that the view shows, and an action that waits for its call are three things that
are written at different places. `Agreement` says that they tell the same story of each action. It
holds at the start, and each moment of a run keeps it (`agreement_of_reached`):

* a command that ends before its call leaves all three as they were;
* a call makes all three true at once, and is only made while they are false;
* an answer, and a drop, make all three false at once.

The main statement is `latch_flag_and_call_agree`.
-/

namespace GameClient

open Gateway (Call)

/-- The action that makes a call. -/
def Gateway.Call.action : Call → Action
  | makeNewGame _ | joinExistingGame .. => .createOrJoin
  | finalizeGame _ => .finalize
  | switchToGame _ => .switch
  | getPurchaseSchema => .loadPurchaseSchema
  | makePurchaseOffer _ => .purchaseOffer

theorem Pending.action_call (pending : Pending) : pending.call.action = pending.action := by
  match pending with
  | .creation (.new _) _ => rfl
  | .creation (.join ..) _ => rfl
  | .finalization _ => rfl
  | .switching _ => rfl
  | .schemaLoad => rfl
  | .offering _ => rfl

/-- The action that is over after a moment: it ended without being turned away, or its call was
answered, or it was dropped. -/
def Moment.ends? : Moment → Option Action
  | ended command result => if Core.isTurnedAway result then none else some command.action
  | answered pending _ _ => some pending.action
  | dropped pending => some pending.action
  | _ => none

namespace Client

/-- The futures of an action that are suspended at their calls. -/
def underWay (client : Client) (action : Action) : List Pending :=
  client.waiting.filter fun pending => pending.action = action

/-- The calls of an action that are not answered yet. -/
def outstanding (client : Client) (action : Action) : List Call :=
  (client.waiting.map Pending.call).filter fun call => call.action = action

theorem length_outstanding (client : Client) (action : Action) :
    (client.outstanding action).length = (client.underWay action).length := by
  unfold outstanding underWay
  rw [List.filter_map, List.length_map]
  congr 1
  apply List.filter_congr
  intro pending _
  simp only [Function.comp_apply, Pending.action_call]

end Client

/-! ## The invariant -/

/-- Of each action the latch, the flag and the waiting action tell the same. -/
structure Agreement (core : Core) (waiting : List Pending) : Prop where
  own : ∀ action, (core.latches.get action).action = action
  flag : ∀ action, core.flag action = core.held action
  count : ∀ action,
    (waiting.filter fun pending => pending.action = action).length = (core.held action).toNat

namespace Agreement

variable {core after : Core} {waiting earlier later : List Pending} {pending : Pending}

theorem hidden (agree : Agreement core waiting) (action : Action)
    (free : core.held action = false) : core.flag action = false := by
  rw [agree.flag, free]

theorem held_of_mem (agree : Agreement core waiting) (mem : pending ∈ waiting) :
    core.held pending.action = true := by
  have one : pending ∈ waiting.filter fun other => other.action = pending.action :=
    List.mem_filter.mpr ⟨mem, by simp⟩
  have count := agree.count pending.action
  have positive := List.length_pos_of_mem one
  cases taken : core.held pending.action with
  | true => rfl
  | false =>
      rw [taken, Bool.toNat_false] at count
      omega

theorem held_of_split (agree : Agreement core (earlier ++ pending :: later)) :
    core.held pending.action = true :=
  agree.held_of_mem (List.mem_append_right _ List.mem_cons_self)

theorem other_of_free (agree : Agreement core waiting) {action : Action}
    (free : core.held action = false) (mem : pending ∈ waiting) : pending.action ≠ action := by
  rintro rfl
  rw [agree.held_of_mem mem] at free
  cases free

theorem exists_of_held (agree : Agreement core waiting) {action : Action}
    (taken : core.held action = true) : ∃ pending ∈ waiting, pending.action = action := by
  have count := agree.count action
  rw [taken, Bool.toNat_true] at count
  obtain ⟨pending, mem⟩ := List.exists_mem_of_length_pos (Nat.lt_of_lt_of_eq Nat.one_pos count.symm)
  have filtered := List.mem_filter.mp mem
  exact ⟨pending, filtered.1, by simpa using filtered.2⟩

/-- Two actions that wait and are the same are one. -/
theorem unique (agree : Agreement core waiting) {other : Pending} (mem : pending ∈ waiting)
    (otherMem : other ∈ waiting) (same : other.action = pending.action) : other = pending := by
  have count := agree.count pending.action
  rw [agree.held_of_mem mem, Bool.toNat_true] at count
  obtain ⟨only, one⟩ := List.length_eq_one_iff.mp count
  have first : pending ∈ [only] := one ▸ List.mem_filter.mpr ⟨mem, by simp⟩
  have second : other ∈ [only] := one ▸ List.mem_filter.mpr ⟨otherMem, by simpa using same⟩
  rw [List.mem_singleton.mp first, List.mem_singleton.mp second]

/-- With one action taken away, no other of the same kind waits. -/
theorem count_others (agree : Agreement core (earlier ++ pending :: later)) :
    ((earlier ++ later).filter fun other => other.action = pending.action).length = 0 := by
  -- The count is one with the action, which counts for one itself.
  have taken := agree.held_of_split
  have count := agree.count pending.action
  rw [List.filter_append, List.filter_cons_of_pos (by simp), List.length_append, List.length_cons,
    taken, Bool.toNat_true] at count
  rw [List.filter_append, List.length_append]
  omega

/-- What waits with one action taken away is what waited and is not the same. -/
theorem mem_others (agree : Agreement core (earlier ++ pending :: later)) (other : Pending) :
    other ∈ earlier ++ later ↔
      other ∈ earlier ++ pending :: later ∧ other.action ≠ pending.action := by
  constructor
  · intro mem
    refine ⟨mem_split_of_mem_others mem, fun same => ?_⟩
    · have none := List.length_eq_zero_iff.mp agree.count_others
      exact List.filter_eq_nil_iff.mp none other mem (by simpa using same)
  · rintro ⟨mem, different⟩
    rcases List.mem_append.mp mem with first | last
    · exact List.mem_append_left _ first
    · rcases List.mem_cons.mp last with rfl | last
      · exact absurd rfl different
      · exact List.mem_append_right _ last

theorem ended {command : Command} {result : Result} (agree : Agreement core waiting)
    (started : core.Started command after (.finished result)) : Agreement after waiting where
  own action := (started.action_latches action).trans (agree.own action)
  flag action := by
    rw [started.flag_of_finished agree.hidden, started.held_of_finished, agree.flag]
  count action := by rw [started.held_of_finished, agree.count]

theorem called {command : Command} (agree : Agreement core waiting)
    (started : core.Started command after (.suspended pending)) :
    Agreement after (waiting ++ [pending]) where
  own action := (started.action_latches action).trans (agree.own action)
  flag action := by rw [started.flag_of_suspended, started.held_of_suspended, agree.flag]
  count action := by
    rw [List.filter_append, List.length_append, agree.count, started.held_of_suspended]
    by_cases same : pending.action = action
    · rw [← same, started.free_of_suspended]
      simp
    · simp [same]

/-- Taking away one of the actions that wait, with its latch and its flag. -/
theorem released (agree : Agreement core (earlier ++ pending :: later))
    (own : ∀ action, (after.latches.get action).action = (core.latches.get action).action)
    (held : ∀ action,
      after.held action = if pending.action = action then false else core.held action)
    (flag : ∀ action,
      after.flag action = if pending.action = action then false else core.flag action) :
    Agreement after (earlier ++ later) where
  own action := (own action).trans (agree.own action)
  flag action := by rw [flag, held, agree.flag]
  count action := by
    rw [held]
    by_cases same : pending.action = action
    · rw [if_pos same, ← same]
      exact agree.count_others
    · rw [if_neg same, ← agree.count, List.filter_append, List.filter_append,
        List.filter_cons_of_neg (by simpa using same)]

end Agreement

/-- In every state of every run the latches, the flags and the waiting actions agree. -/
theorem agreement_of_reached {config : Config} {past : List Moment} {core : Core}
    {waiting : List Pending} (reached : Reached config past core waiting) :
    Agreement core waiting := by
  induction reached with
  | start => exact ⟨fun action => by cases action <;> rfl, fun action => by cases action <;> rfl,
      fun action => by cases action <;> rfl⟩
  | ended _ started ih => exact ih.ended started
  | called _ started ih => exact ih.called started
  | answered _ settled ih => exact ih.released settled.action_latches settled.held settled.flag
  | dropped _ ih =>
      exact ih.released (Core.action_release _ _) (Core.held_release _ _) (Core.flag_release _ _)
  | pushedRegistry _ ih => exact ⟨ih.own, ih.flag, ih.count⟩
  | @pushedChat _ core _ messages _ ih =>
      have latches := core.latches_pushChat messages
      have session := core.session_pushChat messages
      have purchase := core.purchase_pushChat messages
      have held := core.held_pushChat messages
      refine ⟨fun action => ?_, fun action => ?_, fun action => ?_⟩
      · rw [latches]
        exact ih.own action
      · rw [held, ← ih.flag]
        cases action <;> simp only [Core.flag, session, purchase]
      · rw [held]
        exact ih.count action

theorem Client.outstanding_eq_nil_iff {client : Client}
    (agree : Agreement client.core client.waiting) (action : Action) :
    client.outstanding action = [] ↔ client.core.held action = false := by
  have count := agree.count action
  rw [← List.length_eq_zero_iff, Client.length_outstanding, Client.underWay, count]
  cases client.core.held action <;> decide

theorem Client.other_of_outstanding {client : Client} {action : Action}
    (none : client.outstanding action = []) {pending : Pending} (mem : pending ∈ client.waiting) :
    pending.action ≠ action := by
  intro same
  rw [← List.length_eq_zero_iff, Client.length_outstanding, List.length_eq_zero_iff] at none
  exact absurd same (by simpa using List.filter_eq_nil_iff.mp none pending mem)

/-! ## Calls without an answer

Whether an action waits can be read off the history: it called, and has not been over since. -/

/-- The call was made, and its action has not been over since. -/
def Open (history : List Moment) (pending : Pending) : Prop :=
  Lasts (fun _ moment => moment = .called pending)
    (fun _ moment => moment.ends? = some pending.action) history

theorem open_concat {past : List Moment} {moment : Moment} {pending : Pending} :
    Open (past ++ [moment]) pending ↔
      moment = .called pending ∨ Open past pending ∧ moment.ends? ≠ some pending.action :=
  lasts_concat

/-- The moment at which an action is over closes its call and leaves the others. -/
theorem open_of_ends {core : Core} {earlier later : List Pending} {past : List Moment}
    {moment : Moment} {pending other : Pending}
    (agree : Agreement core (earlier ++ pending :: later))
    (ends : moment.ends? = some pending.action)
    (ih : other ∈ earlier ++ pending :: later ↔ Open past other) :
    other ∈ earlier ++ later ↔ Open (past ++ [moment]) other := by
  rw [agree.mem_others, ih, open_concat, ends]
  constructor
  · rintro ⟨waits, different⟩
    exact .inr ⟨waits, fun same => different (Option.some.inj same).symm⟩
  · rintro (rfl | ⟨waits, still⟩)
    · cases ends
    · exact ⟨waits, fun same => still (congrArg some same.symm)⟩

/-! ## After an action is over -/

theorem free_of_ends {config : Config} {past before : List Moment} {core : Core}
    {waiting : List Pending} {moment : Moment} {action : Action}
    (reached : Reached config past core waiting) (last : past = before ++ [moment])
    (ends : moment.ends? = some action) : core.held action = false := by
  cases reached with
  | start => simp at last
  | @ended _ _ _ _ command result _ started =>
      obtain ⟨-, rfl⟩ := List.append_singleton_inj.mp last
      have ends : (if Core.isTurnedAway result then none else some command.action) =
          some action := ends
      split at ends
      · cases ends
      · next done =>
          obtain rfl := Option.some.inj ends
          rw [Bool.not_eq_true] at done
          -- It was not turned away, so that it took its latch and gave it back.
          rw [started.held_of_finished, started.free_of_finished done]
  | answered _ settled =>
      obtain ⟨-, rfl⟩ := List.append_singleton_inj.mp last
      rw [settled.held, if_pos (Option.some.inj ends)]
  | dropped _ =>
      obtain ⟨-, rfl⟩ := List.append_singleton_inj.mp last
      show (Core.release _ _).held action = false
      rw [Core.held_release, if_pos (Option.some.inj ends)]
  | called _ _ =>
      obtain ⟨-, rfl⟩ := List.append_singleton_inj.mp last
      cases ends
  | pushedRegistry _ =>
      obtain ⟨-, rfl⟩ := List.append_singleton_inj.mp last
      cases ends
  | pushedChat _ =>
      obtain ⟨-, rfl⟩ := List.append_singleton_inj.mp last
      cases ends

/-- An action waits exactly if its call is open. -/
theorem mem_waiting_iff_open {config : Config} {past : List Moment} {core : Core}
    {waiting : List Pending} (reached : Reached config past core waiting) (pending : Pending) :
    pending ∈ waiting ↔ Open past pending := by
  -- A moment that ends no action takes nothing away; one that does frees its latch, and what waits
  -- holds its own.
  induction reached with
  | start => exact ⟨by simp, fun waits => absurd waits not_lasts_nil⟩
  | ended before started ih =>
      have next := Moves.ended before started
      rw [ih, open_concat]
      refine ⟨fun waits => .inr ⟨waits, fun ends => ?_⟩, fun waits => ?_⟩
      · have taken := (agreement_of_reached next).held_of_mem (ih.mpr waits)
        rw [free_of_ends next rfl ends] at taken
        cases taken
      · rcases waits with called | ⟨waits, -⟩
        · cases called
        · exact waits
  | called before started ih =>
      -- A call ends nothing.
      rw [List.mem_append, List.mem_singleton, ih, open_concat]
      constructor
      · rintro (waits | rfl)
        · exact .inr ⟨waits, by rintro ⟨⟩⟩
        · exact .inl rfl
      · rintro (called | ⟨waits, -⟩)
        · exact .inr (Moment.called.inj called).symm
        · exact .inl waits
  | answered before _ ih => exact open_of_ends (agreement_of_reached before) rfl ih
  | dropped before ih => exact open_of_ends (agreement_of_reached before) rfl ih
  | pushedRegistry _ ih =>
      rw [ih, open_concat]
      exact ⟨fun waits => .inr ⟨waits, by rintro ⟨⟩⟩, by rintro (⟨⟨⟩⟩ | ⟨waits, -⟩); exact waits⟩
  | pushedChat _ ih =>
      rw [ih, open_concat]
      exact ⟨fun waits => .inr ⟨waits, by rintro ⟨⟩⟩, by rintro (⟨⟨⟩⟩ | ⟨waits, -⟩); exact waits⟩

/-- The moment at which an action is over is the last of its step. -/
theorem Client.last_of_ends {client : Client} {step : Step} {moment : Moment} {action : Action}
    (mem : moment ∈ client.moments step) (ends : moment.ends? = some action) :
    ∃ before, client.moments step = before ++ [moment] := by
  rcases client.moments_cases step with none | ⟨only, one⟩ | ⟨pending, last, two⟩
  · rw [none] at mem
    cases mem
  · rw [one] at mem ⊢
    exact ⟨[], by rw [List.mem_singleton.mp mem]; rfl⟩
  · rw [two] at mem ⊢
    rcases List.mem_cons.mp mem with rfl | mem
    · cases ends
    · exact ⟨[.called pending], by rw [List.mem_singleton.mp mem]; rfl⟩

/-! ## The main statement -/

/-- Of an action the latch, the flag and the suspended future tell the same, and no two calls of it
are outstanding. -/
structure Client.OneAtATime (client : Client) (action : Action) : Prop where
  held_iff_flag : (client.core.latches.get action).held = true ↔ client.core.flag action = true
  flag_iff_underWay : client.core.flag action = true ↔ (client.underWay action).length = 1
  outstanding : (client.outstanding action).length ≤ 1
  /-- A call is only made while no other call of the action is outstanding. -/
  issued : ∀ step call, (client.step step).2.issued = some call → call.action = action →
    client.outstanding action = []
  /-- Who is turned away finds the action under way and changes nothing. -/
  turnedAway : ∀ step command result, .ended command result ∈ client.moments step →
    command.action = action → Core.isTurnedAway result = true →
    (client.underWay action).length = 1 ∧ (client.step step).1 = client
  /-- An action that finishes otherwise or is dropped leaves nothing behind. -/
  finished : ∀ step, ∀ moment ∈ client.moments step, moment.ends? = some action →
    ((client.step step).1.core.latches.get action).held = false ∧
      (client.step step).1.core.flag action = false ∧ (client.step step).1.underWay action = []

/-- **One at a time.** In every state of every run the latch of an action is held exactly if its
flag is shown, and exactly if one future of it is suspended at its call. -/
theorem latch_flag_and_call_agree {config : Config} {client : Client}
    (new : Client.new config = .ok client) (steps : List Client.Step) (action : Action) :
    (client.run steps).OneAtATime action := by
  have agree := agreement_of_reached (Client.reached new steps)
  have count := agree.count action
  refine ⟨?_, ?_, ?_, ?_, ?_, ?_⟩
  · rw [agree.flag]
    rfl
  · rw [agree.flag, Client.underWay, count]
    cases (client.run steps).core.held action <;> decide
  · rw [Client.length_outstanding, Client.underWay, count]
    exact Bool.toNat_le _
  · intro step call issued same
    -- The command that made the call found its latch free, and then nothing of its kind waits.
    obtain ⟨command, _, pending, after, -, started, rfl⟩ := Client.started_of_issued issued
    rw [Pending.action_call] at same
    have free := started.free_of_suspended
    rw [same] at free
    rw [← List.length_eq_zero_iff, Client.length_outstanding, Client.underWay, count, free]
    rfl
  · intro step command result mem same away
    obtain ⟨after, started, next⟩ := Client.started_of_ended mem
    obtain ⟨taken, rfl⟩ := started.eq_of_turnedAway away
    rw [same] at taken
    refine ⟨?_, next⟩
    rw [Client.underWay, count, taken]
    rfl
  · intro step moment mem ends
    -- The moment is the last of the history after the step, so the latch is free in that state.
    obtain ⟨before, last⟩ := Client.last_of_ends mem ends
    have next := Client.reached new (steps ++ [step])
    rw [Client.run_concat] at next
    have free := free_of_ends next
      (by rw [Client.history_concat, last, ← List.append_assoc]) ends
    have agree := agreement_of_reached next
    refine ⟨free, agree.hidden action free, ?_⟩
    rw [← List.length_eq_zero_iff, Client.underWay, agree.count, free]
    rfl

/-- While a create waits, it is the only one. -/
theorem create_under_way_agrees :
    ((Client.fresh {}).run [.create .silent]).OneAtATime .createOrJoin ∧
    ((Client.fresh {}).run [.create .silent]).underWay .createOrJoin =
      [.creation (.new "Ada") .idle] :=
  ⟨latch_flag_and_call_agree Client.new_default [.create .silent] .createOrJoin, rfl⟩

end GameClient
