import GameClient.Proofs.Exclusion

/-!
# Commands that are turned away

A command whose action is under way is turned away, and this is found out first: before its input is
looked at, before the session is read, and before anything is written. So it is turned away exactly
if a future of its action is suspended at a call, whatever else is wrong with it, and a run with
such a command is a run without it, but for the one report that says so. The main statement is
`turned_away_iff_under_way`.
-/

namespace GameClient

namespace Core

variable {core after : Core} {command : Command}

theorem start_of_held (taken : core.held command.action = true) :
    core.start command =
      .turnedAway core (.actionPending (core.latches.get command.action).action) := by
  cases command with
  | createOrJoin request =>
      have refused : core.acquire .createOrJoin = _ := acquire_of_held taken
      show core.startCreation request = _
      rw [startCreation, refused]
      rfl
  | finalize settings =>
      have refused : core.acquire .finalize = _ := acquire_of_held taken
      show core.startFinalization settings = _
      rw [startFinalization, refused]
      rfl
  | finalizeWithDefaults =>
      have refused : core.acquire .finalize = _ := acquire_of_held taken
      show core.startFinalization core.config.finalize = _
      rw [startFinalization, refused]
      rfl
  | switch target =>
      -- A deselect takes the latch of a switch.
      have refused : core.acquire .switch = _ := acquire_of_held taken
      show (if target = "" then core.deselect else core.startSwitch target) = _
      rw [deselect, startSwitch, refused]
      exact ite_self _
  | loadSchema =>
      have refused : core.acquire .loadPurchaseSchema = _ := acquire_of_held taken
      show core.startSchemaLoad = _
      rw [startSchemaLoad, refused]
      rfl
  | offer player purchaseData =>
      have refused : core.acquire .purchaseOffer = _ := acquire_of_held taken
      show core.startOffer player purchaseData = _
      rw [startOffer, refused]
      rfl

theorem Settled.isTurnedAway_eq_false {pending : Pending} {answer : pending.call.Answer}
    {result : Result} (settled : Settled core pending answer after result) :
    isTurnedAway result = false := by
  cases result with
  | ok success => rfl
  | error error =>
      rcases settled.error_cases with ⟨key, rfl⟩ | ⟨operation, failure, rfl⟩
      · rfl
      · cases failure <;> rfl

/-- Who is turned away is told so of the action of the latch. -/
theorem Started.action_of_turnedAway {action : Action}
    (started : Started core command after (.finished (.error (.actionPending action)))) :
    core.held command.action = true ∧ action = (core.latches.get command.action).action := by
  cases started with
  | turnedAway taken => exact ⟨taken, rfl⟩
  | refused _ refuses => cases refuses

end Core

namespace Client

variable {client : Client}

theorem reports_append (client : Client) (first second : List Step) :
    client.reports (first ++ second) =
      client.reports first ++ (client.run first).reports second := by
  induction first generalizing client with
  | nil => rfl
  | cons step steps ih => exact congrArg _ (ih (client.step step).1)

theorem length_reports (client : Client) (steps : List Step) :
    (client.reports steps).length = steps.length := by
  induction steps generalizing client with
  | nil => rfl
  | cons step steps ih => exact congrArg _ (ih (client.step step).1)

/-- A step that leaves the client as it is can be taken out of a run, with its report. -/
theorem run_insert {steps : List Step} {step : Step} {report : Report}
    (idle : (client.run steps).step step = (client.run steps, report)) (rest : List Step) :
    client.run (steps ++ step :: rest) = client.run (steps ++ rest) ∧
      (client.reports (steps ++ step :: rest)).eraseIdx steps.length =
        client.reports (steps ++ rest) := by
  constructor
  · rw [run_append, run_append]
    show (((client.run steps).step step).1).run rest = _
    rw [idle]
  · rw [reports_append, reports_append, ← length_reports client steps,
      List.eraseIdx_append_of_length_le (Nat.le_refl _), Nat.sub_self]
    show _ ++ (((client.run steps).step step).1).reports rest = _
    rw [idle]

/-! ## The main statement -/

/-- The report of a command that is turned away: nothing was called and nothing was logged. -/
def rejection (command : Command) : Report :=
  { outcome := .completed (.error (.actionPending command.action)) }

/-- A future of this action is suspended at its call. -/
def IsUnderWay (client : Client) (action : Action) : Prop :=
  ∃ pending ∈ client.waiting, pending.action = action

/-- What being turned away comes to for a command that is started after some steps. -/
structure TurnsAway (client : Client) (steps : List Step) (command : Command) (gateway : Gateway) :
    Prop where
  /-- The command is turned away exactly if its action is under way, whatever its input is. -/
  iff_underWay :
    ((client.run steps).step (.start command gateway)).2.outcome =
        .completed (.error (.actionPending command.action)) ↔
      (client.run steps).IsUnderWay command.action
  /-- It is never turned away on account of another action. -/
  own : ∀ action,
    ((client.run steps).step (.start command gateway)).2.outcome =
      .completed (.error (.actionPending action)) → action = command.action
  /-- If it is, then nothing in the client changes, nothing is called and nothing is logged. -/
  unchanged : (client.run steps).IsUnderWay command.action →
    (client.run steps).step (.start command gateway) = (client.run steps, rejection command)
  /-- What follows comes to the same without it: every later state and every later report. -/
  removed : (client.run steps).IsUnderWay command.action → ∀ rest,
    client.run (steps ++ .start command gateway :: rest) = client.run (steps ++ rest) ∧
      (client.reports (steps ++ .start command gateway :: rest)).eraseIdx steps.length =
        client.reports (steps ++ rest)

theorem step_of_underWay (agree : Agreement client.core client.waiting) {command : Command}
    (underWay : client.IsUnderWay command.action) (gateway : Gateway) :
    client.step (.start command gateway) = (client, rejection command) := by
  obtain ⟨pending, mem, same⟩ := underWay
  have taken := agree.held_of_mem mem
  rw [same] at taken
  have away := Core.start_of_held taken
  rw [agree.own] at away
  show client.start command gateway = _
  simp only [start, away, Turn.turnedAway, rejection]

theorem underWay_of_rejected (agree : Agreement client.core client.waiting) {command : Command}
    {gateway : Gateway} {action : Action}
    (rejected : (client.step (.start command gateway)).2.outcome =
      .completed (.error (.actionPending action))) :
    action = command.action ∧ client.IsUnderWay command.action := by
  have stepped := client.stepped (.start command gateway)
  rw [rejected] at stepped
  generalize client.moments (.start command gateway) = moments,
    (client.step (.start command gateway)).1 = after at stepped
  cases stepped with
  | ended started =>
      obtain ⟨taken, own⟩ := started.action_of_turnedAway
      rw [agree.own] at own
      exact ⟨own, agree.exists_of_held taken⟩
  | answeredAtOnce _ _ settled => cases settled.isTurnedAway_eq_false

end Client

/-- **One future of an action at a time.** After every run, a command is turned away exactly if a
future of its action is suspended at its call; then it changes nothing, and the run goes on as it
would without it. -/
theorem turned_away_iff_under_way {config : Config} {client : Client}
    (new : Client.new config = .ok client) (steps : List Client.Step) (command : Command)
    (gateway : Gateway) : client.TurnsAway steps command gateway := by
  have agree := agreement_of_reached (Client.reached new steps)
  have unchanged (underWay : (client.run steps).IsUnderWay command.action) :=
    Client.step_of_underWay agree underWay gateway
  refine ⟨⟨?_, ?_⟩, ?_, unchanged, ?_⟩
  · exact fun rejected => (Client.underWay_of_rejected agree rejected).2
  · intro underWay
    rw [unchanged underWay]
    rfl
  · exact fun action rejected => (Client.underWay_of_rejected agree rejected).1
  · exact fun underWay => Client.run_insert (unchanged underWay)

/-- While a create waits, a request without a nickname is turned away, not found faulty; and the
create succeeds as if it had not been made. -/
theorem blank_request_is_turned_away :
    let steps : List Client.Step := [.create .silent]
    let blank : Client.Step := .start (.createOrJoin (.new " ")) .willing
    ((Client.fresh {}).run steps).IsUnderWay .createOrJoin ∧
      (((Client.fresh {}).run steps).step blank).2.outcome =
        .completed (.error (.actionPending .createOrJoin)) ∧
      (Client.fresh {}).run (steps ++ [blank, .poll 0 .willing]) =
        (Client.fresh {}).run (steps ++ [.poll 0 .willing]) := by
  have underWay : ((Client.fresh {}).run [.create .silent]).IsUnderWay .createOrJoin :=
    ⟨_, List.mem_singleton.mpr rfl, rfl⟩
  have away := turned_away_iff_under_way Client.new_default [.create .silent]
    (.createOrJoin (.new " ")) .willing
  exact ⟨underWay, away.iff_underWay.mpr underWay, (away.removed underWay _).1⟩

end GameClient
