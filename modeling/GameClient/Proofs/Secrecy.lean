import GameClient.Proofs.AlikeTurns
import GameClient.Proofs.Credentials
import Mathlib.Data.List.Forall2

/-!
# Passcodes stay secret

Two runs with the same steps, in which the backend grants tickets that differ in their passcodes and
says the same otherwise, cannot be told apart by anything but these passcodes. Each step keeps alike
clients alike (`Client.Alike.step`), and so does a run (`Client.Alike.run`). What has an inspection
text has the same one in both. The main statement is `passcodes_stay_secret`.
-/

namespace GameClient

open Gateway (Call)
open Text (inspect)

/-! ## Clients that are alike -/

/-- The tasks have the same number, and wait for calls that are alike. -/
structure Task.Alike (task other : Task) : Prop where
  number : other.number = task.number
  pending : task.pending.Alike other.pending

namespace Client

structure Alike (client other : Client) : Prop where
  core : client.core.Alike other.core
  tasks : List.Forall₂ Task.Alike client.tasks other.tasks
  nextTask : other.nextTask = client.nextTask

/-- The outcomes are the same but for passcodes. -/
inductive Outcome.Alike : Outcome → Outcome → Prop where
  | same (outcome : Outcome) : Alike outcome outcome
  | completed {result other : Result} (alike : ResultsAlike result other) :
      Alike (.completed result) (.completed other)

/-- The reports are the same but for passcodes; the logs are the same. -/
structure Report.Alike (report other : Report) : Prop where
  issued : Option.Rel Call.Alike report.issued other.issued
  log : other.log = report.log
  outcome : report.outcome.Alike other.outcome

/-- The call whose answer a step looks for. -/
def awaited? (client : Client) : Step → Option Call
  | .start command _ =>
    match (client.core.start command).value with
    | .finished _ => none
    | .suspended pending => some pending.call
  | .poll number _ => (client.task? number).map fun task => task.pending.call
  | _ => none

/-- In corresponding steps of two clients the gateways say the same to calls that are alike, but for
the passcodes of tickets. -/
def HearsAlike (client other : Client) (step otherStep : Step) (gateway otherGateway : Gateway) :
    Prop :=
  ∀ call otherCall, client.awaited? step = some call → other.awaited? otherStep = some otherCall →
    call.Alike otherCall →
      Gateway.AnswersAlike call otherCall (gateway call) (otherGateway otherCall)

/-- The clients take the same step, with the same answers but for the passcodes of tickets. -/
inductive StepsAlike (client other : Client) : Step → Step → Prop where
  | start {command : Command} {gateway otherGateway : Gateway}
      (hears : client.HearsAlike other (.start command gateway) (.start command otherGateway)
        gateway otherGateway) :
      StepsAlike client other (.start command gateway) (.start command otherGateway)
  | poll {number : Nat} {gateway otherGateway : Gateway}
      (hears : client.HearsAlike other (.poll number gateway) (.poll number otherGateway)
        gateway otherGateway) :
      StepsAlike client other (.poll number gateway) (.poll number otherGateway)
  | drop (number : Nat) : StepsAlike client other (.drop number) (.drop number)
  | pushRegistry (snapshot : RegistrySnapshot) :
      StepsAlike client other (.pushRegistry snapshot) (.pushRegistry snapshot)
  | pushChat (messages : List Chat.Message) :
      StepsAlike client other (.pushChat messages) (.pushChat messages)

/-- The clients take the same steps one after the other. -/
inductive RunsAlike : Client → Client → List Step → List Step → Prop where
  | nil {client other : Client} : RunsAlike client other [] []
  | cons {client other : Client} {step otherStep : Step} {steps otherSteps : List Step}
      (first : client.StepsAlike other step otherStep)
      (rest : RunsAlike (client.step step).1 (other.step otherStep).1 steps otherSteps) :
      RunsAlike client other (step :: steps) (otherStep :: otherSteps)

variable {client other : Client}

theorem Alike.task? (alike : client.Alike other) (number : Nat) :
    Option.Rel Task.Alike (client.task? number) (other.task? number) := by
  have tasks := alike.tasks
  unfold Client.task?
  generalize client.tasks = first, other.tasks = second at tasks
  induction tasks with
  | nil => exact .none
  | cons task _ ih =>
      rw [List.find?_cons, List.find?_cons, task.number]
      split
      · exact .some task
      · exact ih

theorem Alike.without (alike : client.Alike other) (number : Nat) :
    List.Forall₂ Task.Alike (client.without number) (other.without number) := by
  apply List.rel_filter _ alike.tasks
  intro task otherTask tasks
  show decide (task.number ≠ number) = true ↔ decide (otherTask.number ≠ number) = true
  rw [tasks.number]

structure AlikeNext (next otherNext : Client × Report) : Prop where
  client : next.1.Alike otherNext.1
  report : next.2.Alike otherNext.2

theorem Alike.start (alike : client.Alike other) {command : Command}
    {gateway otherGateway : Gateway}
    (hears : client.HearsAlike other (.start command gateway) (.start command otherGateway)
      gateway otherGateway) :
    AlikeNext (client.start command gateway) (other.start command otherGateway) := by
  obtain ⟨core, log, value⟩ := alike.core.start command
  unfold HearsAlike awaited? at hears
  unfold Client.start
  dsimp only at hears ⊢
  -- Both turns end, or both are suspended, at calls that look alike.
  generalize client.core.start command = turn, other.core.start command = otherTurn at *
  obtain ⟨_, _, progress⟩ := turn
  obtain ⟨_, _, otherProgress⟩ := otherTurn
  dsimp only at *
  subst log
  cases value with
  | finished result => exact ⟨⟨core, alike.tasks, alike.nextTask⟩, ⟨.none, rfl, .same _⟩⟩
  | @suspended pending otherPending pendings =>
      have answers := hears _ _ rfl rfl pendings.call
      have issued : Option.Rel Call.Alike (some pending.call) (some otherPending.call) :=
        .some pendings.call
      rcases answers.none_or_some with ⟨first, second⟩ | ⟨answer, otherAnswer, first, second⟩
      · simp only [first, second, alike.nextTask]
        have kept : Task.Alike ⟨client.nextTask, pending⟩ ⟨client.nextTask, otherPending⟩ :=
          ⟨rfl, pendings⟩
        exact ⟨⟨core, List.rel_append alike.tasks (.cons kept .nil), rfl⟩, ⟨issued, rfl, .same _⟩⟩
      · rw [first, second] at answers
        have rest := core.resume pendings answers
        simp only [first, second]
        refine ⟨⟨rest.core, alike.tasks, alike.nextTask⟩, ⟨issued, ?_, .completed rest.value⟩⟩
        dsimp only
        rw [rest.log]

theorem Alike.poll (alike : client.Alike other) {number : Nat} {gateway otherGateway : Gateway}
    (hears : client.HearsAlike other (.poll number gateway) (.poll number otherGateway)
      gateway otherGateway) :
    AlikeNext (client.poll number gateway) (other.poll number otherGateway) := by
  have found := alike.task? number
  have others := alike.without number
  unfold HearsAlike awaited? at hears
  unfold Client.poll
  dsimp only at hears
  generalize client.task? number = task, other.task? number = otherTask at found hears
  cases found with
  | none => exact ⟨alike, ⟨.none, rfl, .same _⟩⟩
  | some tasks =>
      have answers := hears _ _ rfl rfl tasks.pending.call
      dsimp only
      rcases answers.none_or_some with ⟨first, second⟩ | ⟨answer, otherAnswer, first, second⟩
      · simp only [first, second]
        exact ⟨alike, ⟨.none, rfl, .same _⟩⟩
      · rw [first, second] at answers
        have rest := alike.core.resume tasks.pending answers
        simp only [first, second]
        exact ⟨⟨rest.core, others, alike.nextTask⟩, ⟨.none, rest.log, .completed rest.value⟩⟩

theorem Alike.drop (alike : client.Alike other) (number : Nat) :
    AlikeNext (client.drop number) (other.drop number) := by
  have found := alike.task? number
  have others := alike.without number
  unfold Client.drop
  generalize client.task? number = task, other.task? number = otherTask at found
  cases found with
  | none => exact ⟨alike, ⟨.none, rfl, .same _⟩⟩
  | some tasks =>
      exact ⟨⟨alike.core.abandon tasks.pending, others, alike.nextTask⟩, ⟨.none, rfl, .same _⟩⟩

theorem Alike.step (alike : client.Alike other) {step otherStep : Step}
    (steps : client.StepsAlike other step otherStep) :
    AlikeNext (client.step step) (other.step otherStep) := by
  cases steps with
  | start hears => exact alike.start hears
  | poll hears => exact alike.poll hears
  | drop number => exact alike.drop number
  | pushRegistry snapshot =>
      obtain ⟨core, log, -⟩ := (Core.blind_pushRegistry snapshot).alike alike.core Eq.refl
      exact ⟨⟨core, alike.tasks, alike.nextTask⟩, ⟨.none, log, .same _⟩⟩
  | pushChat messages =>
      obtain ⟨core, log, value⟩ := (Core.blind_pushChat messages).alike alike.core Eq.refl
      refine ⟨⟨core, alike.tasks, alike.nextTask⟩, ⟨.none, log, ?_⟩⟩
      show (Outcome.pushedChat _).Alike (Outcome.pushedChat _)
      rw [value]
      exact .same _

/-- What begins a run begins a run that is alike. -/
theorem RunsAlike.take {steps otherSteps : List Step}
    (runs : client.RunsAlike other steps otherSteps) (count : Nat) :
    client.RunsAlike other (steps.take count) (otherSteps.take count) := by
  induction runs generalizing count with
  | nil =>
      rw [List.take_nil]
      exact .nil
  | cons first _ ih =>
      cases count with
      | zero => exact .nil
      | succ count => exact .cons first (ih count)

theorem Alike.run (alike : client.Alike other) {steps otherSteps : List Step}
    (runs : client.RunsAlike other steps otherSteps) :
    (client.run steps).Alike (other.run otherSteps) ∧
      List.Forall₂ Report.Alike (client.reports steps) (other.reports otherSteps) := by
  induction runs with
  | nil => exact ⟨alike, .nil⟩
  | cons first _ ih =>
      obtain ⟨next, report⟩ := alike.step first
      obtain ⟨last, reports⟩ := ih next
      exact ⟨last, .cons report reports⟩

end Client

/-! ## Texts -/

/-- The text of the parameters that a call finalizes a game with. -/
def Gateway.Call.paramsText? : Call → Option String
  | finalizeGame params => some (inspect params)
  | _ => none

/-- The text of what a create or join gave that ended in a step. -/
def Client.Report.creationText? (report : Client.Report) : Option String :=
  match report.outcome with
  | .completed (.ok (.session outcome)) => some (inspect outcome)
  | _ => none

theorem Gateway.Call.Alike.paramsText_eq {call other : Call} (alike : call.Alike other) :
    other.paramsText? = call.paramsText? := by
  cases alike with
  | same => rfl
  | finalizeGame alike => exact congrArg some alike.inspect_eq

theorem Client.Report.Alike.creationText_eq {report other : Client.Report}
    (alike : report.Alike other) : other.creationText? = report.creationText? := by
  obtain ⟨_, _, outcome⟩ := report
  obtain ⟨_, _, otherOutcome⟩ := other
  cases alike.outcome with
  | same => rfl
  | completed results =>
      cases results with
      | same => rfl
      | session outcomes => exact congrArg some outcomes.inspect_eq

theorem Client.Report.Alike.paramsText_eq {report other : Client.Report}
    (alike : report.Alike other) :
    other.issued.bind Call.paramsText? = report.issued.bind Call.paramsText? := by
  obtain ⟨issued, _, _⟩ := report
  obtain ⟨otherIssued, _, _⟩ := other
  cases alike.issued with
  | none => rfl
  | some calls => exact calls.paramsText_eq

/-! ## The main statement -/

/-- All that can be seen of two clients at a moment is the same, but for passcodes. -/
structure Client.LooksAlike (client other : Client) : Prop where
  /-- All cells are the same, with their versions, but for the passcode of the ticket. -/
  state : client.Alike other
  /-- No passcode is in a text. -/
  session : inspect other.core.session.value = inspect client.core.session.value
  ticket : inspect other.core.session.value.ticket = inspect client.core.session.value.ticket
  core : inspect other.core = inspect client.core

/-- Two runs tell nothing of the passcodes. -/
structure Client.TellsNothing (client other : Client) (steps otherSteps : List Client.Step) :
    Prop where
  /-- At each moment of the runs the clients look alike. -/
  moments : ∀ count,
    (client.run (steps.take count)).LooksAlike (other.run (otherSteps.take count))
  /-- The calls and the results of corresponding steps are the same but for passcodes, and what they
  log is the same entirely. -/
  reports : List.Forall₂ Report.Alike (client.reports steps) (other.reports otherSteps)
  creationTexts : (other.reports otherSteps).map Report.creationText? =
    (client.reports steps).map Report.creationText?
  paramsTexts : (other.reports otherSteps).map (fun report => report.issued.bind Call.paramsText?) =
    (client.reports steps).map fun report => report.issued.bind Call.paramsText?

/-- **Secrecy.** Two clients that are the same but for passcodes take the same steps, and are told
the same by the backend but for the passcodes of the tickets that it grants. Then nothing that is
seen of their runs tells one from the other, but for the passcodes themselves. -/
theorem passcodes_stay_secret {client other : Client} (alike : client.Alike other)
    {steps otherSteps : List Client.Step} (runs : client.RunsAlike other steps otherSteps) :
    client.TellsNothing other steps otherSteps := by
  have reports := (alike.run runs).2
  refine ⟨fun count => ?_, reports, ?_, ?_⟩
  · have state := (alike.run (runs.take count)).1
    exact ⟨state, state.core.inspect_session, state.core.inspect_ticket, state.core.inspect_core⟩
  · have texts := List.rel_map (fun _ _ alike => alike.creationText_eq.symm) reports
    exact (List.forall₂_eq_eq_eq ▸ texts).symm
  · have texts := List.rel_map (fun _ _ alike => alike.paramsText_eq.symm) reports
    exact (List.forall₂_eq_eq_eq ▸ texts).symm

/-- A game is created, for which the backend grants this passcode, and then finalized. -/
def creatingWith (passcode : String) : List Client.Step :=
  [.create (.granting ⟨"ABC123", passcode⟩), .finalize .willing]

/-- Two such runs finalize the game with different passcodes, and are alike otherwise. -/
theorem different_passcodes_are_alike :
    ((Client.fresh {}).reports (creatingWith "one")).map Client.Report.issued =
      [some (.makeNewGame "Ada"), some (.finalizeGame ⟨"ABC123", "one", 3600000, 1000000⟩)] ∧
    ((Client.fresh {}).reports (creatingWith "two")).map Client.Report.issued =
      [some (.makeNewGame "Ada"), some (.finalizeGame ⟨"ABC123", "two", 3600000, 1000000⟩)] ∧
    (Client.fresh {}).TellsNothing (Client.fresh {}) (creatingWith "one") (creatingWith "two") := by
  refine ⟨rfl, rfl, passcodes_stay_secret ⟨⟨rfl, .none⟩, .nil, rfl⟩
    (.cons (.start ?_) (.cons (.start ?_) .nil))⟩
  · intro call otherCall asked otherAsked _
    obtain rfl : Call.makeNewGame "Ada" = call := Option.some.inj asked
    obtain rfl : Call.makeNewGame "Ada" = otherCall := Option.some.inj otherAsked
    exact .granted ⟨rfl, by simp⟩
  · intro call otherCall asked otherAsked _
    obtain rfl : .finalizeGame ⟨"ABC123", "one", 3600000, 1000000⟩ = call :=
      Option.some.inj asked
    obtain rfl : .finalizeGame ⟨"ABC123", "two", 3600000, 1000000⟩ = otherCall :=
      Option.some.inj otherAsked
    exact .finalized (some (.ok ()))

end GameClient
