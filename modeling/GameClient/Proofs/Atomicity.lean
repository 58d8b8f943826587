import GameClient.Proofs.LastError
import GameClient.Proofs.Selection

/-!
# Actions that fail

An action writes to its view when it is started: its flag, and with it the phase. When it fails it
has to take back what it wrote, and nothing else. It does, as long as no other action does anything
in between: the session and the purchase form are what they were, except that an action of the
session leaves its error to be shown. What the host pushes in the meantime stays, and is all that
the registry and the chat show (`Core.hosted`).

Where this comes from is said of turns: a command that is refused
(`Core.Started.restores_of_error`), and an action that is suspended and then fails
(`Core.Settled.restores_of_error`). The main statement is `failed_action_is_atomic`.
-/

namespace GameClient

/-! ## What an action can touch -/

/-- The part of the core that the host pushes its snapshots into. -/
structure Hosted where
  registry : Cell Registry
  feed : Chat.Feed Chat.Digest
  chat : Cell Chat.View

namespace Core

variable {core called asked after : Core} {command : Command} {action : Action}

def hosted (core : Core) : Hosted := ⟨core.registry, core.feed, core.chat⟩

/-! ## Turns that fail -/

/-- What a failed action leaves of its latch and of the views: what was there before it, but for the
error of an action of the session. -/
structure Restores (core after : Core) (action : Action) (error : ActionError) : Prop where
  free : after.held action = false
  others : ∀ other, after.held other = core.held other
  session : after.session.value =
    if action.isLifecycle then { core.session.value with lastError := some error.message }
    else core.session.value
  purchase : after.purchase.value = core.purchase.value

theorem Refuses.isLifecycle {error : ActionError} (refuses : core.Refuses command error) :
    command.action.isLifecycle = true := by
  cases refuses with
  | finalization asks => rw [action_of_settings asks]; rfl
  | _ => rfl

/-- A command that is refused restores what it found. -/
theorem Started.restores_of_error {error : ActionError}
    (started : Started core command after (.finished (.error error)))
    (begun : isTurnedAway (.error error) = false) (hidden : core.flag command.action = false) :
    core.Restores after command.action error ∧ after.hosted = core.hosted := by
  have others := started.held_of_finished
  have free := (others _).trans (started.free_of_finished begun)
  cases started with
  | turnedAway => cases begun
  | refused _ refuses =>
      -- The error is shown while the latch is held, and that touches no flag.
      have hidden : ((core.latched command.action).surface error).flag command.action = false := by
        rw [← hidden]
        cases command.action <;> rfl
      rw [release_of_hidden hidden] at others free ⊢
      exact ⟨⟨free, others, (if_pos refuses.isLifecycle).symm, rfl⟩, rfl⟩
  | offerRefused =>
      have hidden : (core.latched .purchaseOffer).flag .purchaseOffer = false := hidden
      rw [release_of_hidden hidden] at others free ⊢
      exact ⟨⟨free, others, rfl, rfl⟩, rfl⟩

/-- What is suspended leaves the registry and the chat alone. -/
theorem Started.hosted_of_suspended {pending : Pending}
    (started : Started core command after (.suspended pending)) : after.hosted = core.hosted := by
  cases started <;> rfl

theorem Settled.hosted_of_error {pending : Pending} {answer : pending.call.Answer}
    {error : ActionError} (settled : Settled core pending answer after (.error error)) :
    after.hosted = core.hosted := by
  cases settled with
  | vanished unknown =>
      simp only [Core.switched, unknown]
      rfl
  | _ => rfl

theorem session_creationFailed (core : Core) (prior : Session.Phase)
    (operation : Gateway.Operation) (failure : Gateway.Failure) :
    (core.creationFailed prior operation failure).core.session.value =
      { core.session.value with
        creating := false
        phase := if core.session.value.phase = .creating then prior else core.session.value.phase
        lastError := some (ActionError.ofFailure operation failure).message } :=
  rfl

theorem session_finalizationFailed (core : Core) (failure : Gateway.Failure) :
    (core.finalizationFailed failure).core.session.value =
      { core.session.value with
        finalizing := false
        phase :=
          if core.session.value.phase = .finalizing then .awaitingFinalization
          else core.session.value.phase
        lastError := some (ActionError.ofFailure .finalizeGame failure).message } :=
  rfl

/-- A switch that fails, because of the backend or because its game is gone, clears its flag. -/
theorem Settled.session_of_switching {target : String}
    {answer : (Pending.switching target).call.Answer} {error : ActionError}
    (settled : Settled core (.switching target) answer after (.error error)) :
    after.session.value =
      { core.session.value with switching := false, lastError := some error.message } := by
  cases settled with
  | vanished unknown => simp only [Core.switched, unknown]; rfl
  | switchFailed => rfl

theorem Settled.session_of_error {pending : Pending} {answer : pending.call.Answer}
    {error : ActionError} (settled : Settled asked pending answer after (.error error))
    (started : Started core command called (.suspended pending))
    (same : asked.session.value = called.session.value)
    (hidden : core.flag pending.action = false) :
    after.session.value =
      if pending.action.isLifecycle then { core.session.value with lastError := some error.message }
      else core.session.value := by
  -- What the call left is its flag, which was not shown before, and the phase, which is put back.
  cases started with
  | creating =>
      have hidden : core.session.value.creating = false := hidden
      cases settled with
      | creationFailed =>
          rw [session_creationFailed, same]
          simp [updateSession, latched, hidden, Pending.action, Action.isLifecycle]
  | finalizing _ _ fit =>
      have hidden : core.session.value.finalizing = false := hidden
      cases settled with
      | finalizationFailed =>
          rw [session_finalizationFailed, same]
          simp [updateSession, latched, hidden, phase_of_paramsFor fit, Pending.action,
            Action.isLifecycle]
  | switching =>
      have hidden : core.session.value.switching = false := hidden
      rw [settled.session_of_switching, same]
      simp [updateSession, latched, hidden, Pending.action, Action.isLifecycle]
  | loading =>
      cases settled with
      | schemaLoadFailed => exact same
  | offering =>
      cases settled with
      | offerFailed => exact same

theorem Settled.purchase_of_error {pending : Pending} {answer : pending.call.Answer}
    {error : ActionError} (settled : Settled asked pending answer after (.error error))
    (started : Started core command called (.suspended pending))
    (same : asked.purchase.value = called.purchase.value)
    (hidden : core.flag pending.action = false) : after.purchase.value = core.purchase.value := by
  cases started with
  | creating =>
      cases settled with
      | creationFailed => exact same
  | finalizing =>
      cases settled with
      | finalizationFailed => exact same
  | switching =>
      cases settled with
      | vanished unknown =>
          simp only [Core.switched, unknown]
          exact same
      | switchFailed => exact same
  | loading =>
      cases settled with
      | schemaLoadFailed =>
          show { asked.purchase.value with loadingSchema := false } = core.purchase.value
          rw [same, ← show core.purchase.value.loadingSchema = false from hidden]
          rfl
  | offering =>
      cases settled with
      | offerFailed =>
          show { asked.purchase.value with submitting := false } = core.purchase.value
          rw [same, ← show core.purchase.value.submitting = false from hidden]
          rfl

/-- An action that was suspended and fails restores what it found when it was started, if the views
and the latches are as it left them. -/
theorem Settled.restores_of_error {pending : Pending} {answer : pending.call.Answer}
    {error : ActionError} (settled : Settled asked pending answer after (.error error))
    (started : Started core command called (.suspended pending))
    (session : asked.session.value = called.session.value)
    (purchase : asked.purchase.value = called.purchase.value)
    (held : ∀ other, asked.held other = called.held other)
    (hidden : core.flag pending.action = false) : core.Restores after pending.action error := by
  have others (other : Action) : after.held other = core.held other := by
    rw [settled.held, held, started.held_of_suspended]
    split
    · next same => rw [← same, started.free_of_suspended]
    · rfl
  exact ⟨(others _).trans started.free_of_suspended, others,
    settled.session_of_error started session hidden,
    settled.purchase_of_error started purchase hidden⟩

end Core

/-! ## Snapshots in between -/

/-- The action that a moment belongs to; none for a snapshot of the host. -/
def Moment.action? : Moment → Option Action
  | ended command _ => some command.action
  | called pending | answered pending _ _ | dropped pending => some pending.action
  | pushedRegistry _ | pushedChat _ => none

namespace Client

variable {client other after : Client} {step : Step} {steps : List Step}

def Step.isPush : Step → Bool
  | pushRegistry _ | pushChat _ => true
  | _ => false

/-- A step in which no action does anything pushes a snapshot, or changes nothing. -/
theorem step_of_quiet (quiet : ∀ moment ∈ client.moments step, moment.action? = none) :
    step.isPush = true ∨ (step.isPush = false ∧ (client.step step).1 = client) := by
  have stepped := client.stepped step
  generalize client.moments step = moments, (client.step step).1 = after,
    (client.step step).2.outcome = outcome at *
  cases stepped with
  | pushedRegistry => exact .inl rfl
  | pushedChat => exact .inl rfl
  | unanswered => exact .inr ⟨rfl, rfl⟩
  | nonePolled => exact .inr ⟨rfl, rfl⟩
  | noneDropped => exact .inr ⟨rfl, rfl⟩
  | _ => cases quiet _ List.mem_cons_self

/-- So only the snapshots of such a run count. -/
theorem run_of_quiet (quiet : ∀ moment ∈ client.history steps, moment.action? = none) :
    client.run steps = client.run (steps.filter Step.isPush) := by
  induction steps generalizing client with
  | nil => rfl
  | cons step steps ih =>
      obtain ⟨now, later⟩ := List.forall_mem_append.mp quiet
      rcases step_of_quiet now with push | ⟨other, same⟩
      · rw [List.filter_cons_of_pos push]
        exact ih later
      · rw [List.filter_cons_of_neg (by simp [other])]
        rw [same] at later
        show ((client.step step).1).run steps = _
        rw [same, ih later]

/-- What snapshots leave alone. -/
structure Unpushed (client after : Client) : Prop where
  session : after.core.session = client.core.session
  purchase : after.core.purchase = client.core.purchase
  latches : after.core.latches = client.core.latches
  tasks : after.tasks = client.tasks

theorem unpushed_step (push : step.isPush = true) : client.Unpushed (client.step step).1 := by
  cases step with
  | pushRegistry snapshot => exact ⟨rfl, rfl, rfl, rfl⟩
  | pushChat messages =>
      exact ⟨Core.session_pushChat _ _, Core.purchase_pushChat _ _, Core.latches_pushChat _ _, rfl⟩
  | _ => cases push

theorem unpushed_run (pushes : ∀ step ∈ steps, step.isPush = true) :
    client.Unpushed (client.run steps) := by
  induction steps generalizing client with
  | nil => exact ⟨rfl, rfl, rfl, rfl⟩
  | cons step steps ih =>
      obtain ⟨now, later⟩ := List.forall_mem_cons.mp pushes
      have first := client.unpushed_step now
      have rest : (client.step step).1.Unpushed ((client.step step).1.run steps) := ih later
      exact ⟨rest.session.trans first.session, rest.purchase.trans first.purchase,
        rest.latches.trans first.latches, rest.tasks.trans first.tasks⟩

/-- What they make of the registry and the chat depends on nothing else. -/
theorem hosted_step (push : step.isPush = true) (same : client.core.hosted = other.core.hosted) :
    (client.step step).1.core.hosted = (other.step step).1.core.hosted := by
  obtain ⟨registry, feed, chat⟩ := Hosted.mk.inj same
  cases step with
  | pushRegistry snapshot =>
      show Core.hosted (Core.pushRegistry _ _).core = Core.hosted (Core.pushRegistry _ _).core
      simp only [Core.pushRegistry, Core.hosted, registry, feed, chat]
  | pushChat messages =>
      show Core.hosted (Core.pushChat _ _).core = Core.hosted (Core.pushChat _ _).core
      unfold Core.pushChat
      rw [feed]
      split <;> simp only [Core.hosted, registry, feed, chat]
  | _ => cases push

theorem hosted_run (pushes : ∀ step ∈ steps, step.isPush = true)
    (same : client.core.hosted = other.core.hosted) :
    (client.run steps).core.hosted = (other.run steps).core.hosted := by
  induction steps generalizing client other with
  | nil => exact same
  | cons step steps ih =>
      obtain ⟨now, later⟩ := List.forall_mem_cons.mp pushes
      exact ih later (hosted_step now same)

end Client

/-! ## The main statement -/

/-- The course of an action from its start to its end. -/
inductive Course where
  /-- The action is over when it is started. -/
  | atOnce (command : Command) (gateway : Gateway)
  /-- The action waits under a number, and is over when it is polled after some steps. -/
  | waited (command : Command) (silence : Gateway) (number : Nat) (between : List Client.Step)
      (gateway : Gateway)

namespace Course

def command : Course → Command
  | atOnce command _ | waited command .. => command

def between : Course → List Client.Step
  | atOnce .. => []
  | waited _ _ _ between _ => between

def steps : Course → List Client.Step
  | atOnce command gateway => [.start command gateway]
  | waited command silence number between gateway =>
    .start command silence :: between ++ [.poll number gateway]

/-- What happens between the start and the end. -/
def meanwhile (course : Course) (client : Client) : List Moment :=
  match course with
  | atOnce .. => []
  | waited command silence _ between _ =>
    (client.step (.start command silence)).1.history between

/-- The action goes this course in a client, and ends with this result. -/
def Ends (course : Course) (client : Client) (result : Result) : Prop :=
  match course with
  | atOnce command gateway =>
    (client.step (.start command gateway)).2.outcome = .completed result
  | waited command silence number between gateway =>
    (client.step (.start command silence)).2.outcome = .waiting number ∧
      (((client.step (.start command silence)).1.run between).step
        (.poll number gateway)).2.outcome = .completed result

/-- The course leaves nothing of the action but the error that is shown, and what the host has
pushed in the meantime. -/
structure Undoes (course : Course) (client : Client) (error : ActionError) : Prop where
  restores : client.core.Restores (client.run course.steps).core course.command.action error
  /-- The registry and the chat are what the snapshots alone would have made of them. -/
  hosted : (client.run course.steps).core.hosted =
    (client.run (course.between.filter Client.Step.isPush)).core.hosted

end Course

namespace Client

variable {client after : Client} {moments : List Moment} {gateway : Gateway} {error : ActionError}

theorem Stepped.restores {command : Command}
    (stepped : client.Stepped (.start command gateway) moments after (.completed (.error error)))
    (agree : Agreement client.core client.waiting)
    (begun : Core.isTurnedAway (.error error) = false) :
    client.core.Restores after.core command.action error ∧
      after.core.hosted = client.core.hosted := by
  cases stepped with
  | ended started =>
      have hidden := agree.hidden _ (started.free_of_finished begun)
      exact started.restores_of_error begun hidden
  | answeredAtOnce started _ settled =>
      have hidden := agree.hidden _ started.free_of_suspended
      have restores := settled.restores_of_error started rfl rfl (fun _ => rfl) hidden
      rw [started.action_of_suspended] at restores
      exact ⟨restores, settled.hosted_of_error.trans started.hosted_of_suspended⟩

theorem Stepped.restores_of_poll {command : Command} {silence : Gateway} {number : Nat}
    {called asked : Client} {later : List Moment}
    (stepped : client.Stepped (.start command silence) moments called (.waiting number))
    (numbered : called.Numbered) (unpushed : called.Unpushed asked)
    (failed : asked.Stepped (.poll number gateway) later after (.completed (.error error)))
    (agree : Agreement client.core client.waiting) :
    client.core.Restores after.core command.action error ∧
      called.core.hosted = client.core.hosted ∧ after.core.hosted = asked.core.hosted := by
  cases stepped with
  | @called _ _ core pending started =>
      cases failed with
      | @answered _ _ task _ _ _ found _ settled =>
          -- The task that is polled is the one that was kept when the action was started.
          have mem := mem_of_task? found
          rw [unpushed.tasks] at mem
          obtain rfl : task = ⟨client.nextTask, pending⟩ :=
            numbered.eq_of_number (List.mem_append_right _ List.mem_cons_self) mem
              (number_of_task? found)
          have hidden := agree.hidden _ started.free_of_suspended
          have held (other : Action) : asked.core.held other = core.held other := by
            rw [Core.held, unpushed.latches]
            rfl
          have restores := settled.restores_of_error started (congrArg Cell.value unpushed.session)
            (congrArg Cell.value unpushed.purchase) held hidden
          rw [started.action_of_suspended] at restores
          exact ⟨restores, started.hosted_of_suspended, settled.hosted_of_error⟩

end Client

/-- **Failed actions are atomic.** In every state of every run, an action that is started and fails,
before its call or after it, leaves no trace but its error in the session, if no other action does
anything in between. -/
theorem failed_action_is_atomic {config : Config} {client : Client}
    (new : Client.new config = .ok client) (steps : List Client.Step) (course : Course)
    {error : ActionError} (fails : course.Ends (client.run steps) (.error error))
    (begun : ∀ action, error ≠ .actionPending action)
    (alone : ∀ moment ∈ course.meanwhile (client.run steps), moment.action? = none) :
    course.Undoes (client.run steps) error := by
  have runs := Client.inRun_of_new new steps
  have agree := agreement_of_reached runs.reached
  cases course with
  | atOnce command gateway =>
      have begun : Core.isTurnedAway (.error error) = false := by
        cases error with
        | actionPending action => exact absurd rfl (begun action)
        | _ => rfl
      have stepped := (client.run steps).stepped (.start command gateway)
      rw [show ((client.run steps).step _).2.outcome = _ from fails] at stepped
      obtain ⟨restores, hosted⟩ := stepped.restores agree begun
      exact ⟨restores, hosted⟩
  | waited command silence number between gateway =>
      obtain ⟨waits, fails⟩ := fails
      have pushes : ∀ step ∈ between.filter Client.Step.isPush, step.isPush = true := fun _ mem =>
        (List.mem_filter.mp mem).2
      have stepped := (client.run steps).stepped (.start command silence)
      rw [waits] at stepped
      -- Steps in which no action does anything leave as much as the snapshots among them.
      have quiet := Client.run_of_quiet alone
      rw [quiet] at fails
      have failed := (((client.run steps).step (.start command silence)).1.run
        (between.filter Client.Step.isPush)).stepped (.poll number gateway)
      rw [fails] at failed
      obtain ⟨restores, called, asked⟩ := stepped.restores_of_poll
        (Client.numbered_step runs.numbered _) (Client.unpushed_run pushes) failed agree
      have last : (client.run steps).run
          (Course.waited command silence number between gateway).steps = _ :=
        Client.run_concat _ (.start command silence :: between) (.poll number gateway)
      have run : (client.run steps).run (.start command silence :: between) =
          ((client.run steps).step (.start command silence)).1.run
            (between.filter Client.Step.isPush) := quiet
      rw [run] at last
      constructor
      · rw [last]
        exact restores
      · rw [last]
        exact asked.trans (Client.hosted_run pushes called)

/-- A create fails while a finalize is under way and a snapshot is pushed: only the error and the
snapshot are left. -/
theorem failed_create_leaves_finalize :
    let steps : List Client.Step := [.create .willing, .finalize .silent]
    let course : Course :=
      .waited (.createOrJoin (.new "Eve")) .silent 1 [.pushRegistry oneGame] .offline
    ∃ error, course.Ends ((Client.fresh {}).run steps) (.error error) ∧
      course.Undoes ((Client.fresh {}).run steps) error := by
  intro steps course
  have fails : course.Ends ((Client.fresh {}).run steps) (.error _) := ⟨rfl, rfl⟩
  exact ⟨_, fails, failed_action_is_atomic Client.new_default steps course fails (fun _ => nofun)
    (List.forall_mem_singleton.mpr rfl)⟩

end GameClient
