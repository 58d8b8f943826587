import GameClient.Proofs.Tickets

/-!
# Dropped futures and failed calls

A future that is dropped ends its action without a result. One would expect it to leave what a
failure of its call leaves, but for the error that is shown. It does, with one exception: a failure
takes the session out of the phase that the call had put it in, a drop leaves it there. The main
statement, `drop_like_failure_but_for_phase`, says in which states that makes a difference.

The difference is not a passing one. `Stuck` is an invariant of all further steps until a game is
created or joined: the session stands in `creating` or `finalizing`, and no call is in flight that
would take it out of there. Meanwhile neither finalizing nor switching is offered
(`Stuck.disabled`).
-/

namespace GameClient

open Session (Phase)

/-- A gateway at which every call fails. -/
def Gateway.failing (failure : Gateway.Failure) : Gateway := fun _ => some (.error failure)

namespace Pending

/-- The phase that a failure of the action leaves, where it finds `phase`. -/
def phaseOnFailure (pending : Pending) (phase : Phase) : Phase :=
  match pending with
  | creation _ prior => if phase = .creating then prior else phase
  | finalization _ => if phase = .finalizing then .awaitingFinalization else phase
  | _ => phase

/-- The session is in a phase that a failure of the action would take it out of. -/
def Detains (pending : Pending) (phase : Phase) : Prop :=
  match pending with
  | creation _ prior => phase = .creating ∧ prior ≠ .creating
  | finalization _ => phase = .finalizing
  | _ => False

theorem phaseOnFailure_eq_iff (pending : Pending) (phase : Phase) :
    pending.phaseOnFailure phase = phase ↔ ¬ pending.Detains phase := by
  cases pending with
  | creation request prior =>
      by_cases own : phase = .creating
      · simp [phaseOnFailure, Detains, own]
      · simp [phaseOnFailure, Detains, own]
  | finalization params =>
      by_cases own : phase = .finalizing
      · simp [phaseOnFailure, Detains, own]
      · simp [phaseOnFailure, Detains, own]
  | _ => simp [phaseOnFailure, Detains]

end Pending

/-! ## A failure next to a drop -/

namespace Core

variable (core : Core) (pending : Pending) (failure : Gateway.Failure)

def failed : Core := (core.resume pending (.error failure)).core

theorem registry_failed :
    (core.failed pending failure).registry = (core.abandon pending).registry := by
  rcases pending with ⟨_ | _, _⟩ | _ | _ | _ | _ <;> rfl

theorem latches_failed :
    (core.failed pending failure).latches = (core.abandon pending).latches := by
  rcases pending with ⟨_ | _, _⟩ | _ | _ | _ | _ <;> rfl

theorem purchase_failed :
    (core.failed pending failure).purchase.value = (core.abandon pending).purchase.value := by
  rcases pending with ⟨_ | _, _⟩ | _ | _ | _ | _ <;> rfl

/-- A failure leaves the session that a drop leaves, but for the phase and the error. -/
theorem session_failed :
    (core.failed pending failure).session.value =
      { (core.abandon pending).session.value with
        phase := pending.phaseOnFailure core.session.value.phase
        lastError := (core.failed pending failure).session.value.lastError } := by
  rcases pending with ⟨_ | _, _⟩ | _ | _ | _ | _ <;> rfl

theorem lastError_abandon :
    (core.abandon pending).session.value.lastError = core.session.value.lastError := by
  rcases pending with _ | _ | _ | _ | _ <;> rfl

/-- But for the error the two sessions are the same, unless the failure ends a phase. -/
theorem session_failed_iff :
    { (core.failed pending failure).session.value with
        lastError := core.session.value.lastError } = (core.abandon pending).session.value ↔
      ¬ pending.Detains core.session.value.phase := by
  have phase : (core.abandon pending).session.value.phase = core.session.value.phase :=
    phase_release _ _
  rw [← Pending.phaseOnFailure_eq_iff, session_failed, ← lastError_abandon core pending]
  constructor
  · intro same
    exact (congrArg Session.phase same).trans phase
  · intro same
    rw [same, ← phase]

/-- Where a finalize fails in its phase, finalizing is offered again. -/
theorem canFinalize_failed (params : Session.FinalizationParams)
    (fits : core.session.value.phase.Fits core.session.value.ticket)
    (own : core.session.value.phase = .finalizing) :
    (core.failed (.finalization params) failure).session.value.canFinalize = true := by
  have phase : (core.failed (.finalization params) failure).session.value.phase =
      .awaitingFinalization := by
    rw [session_failed]
    exact if_pos own
  have hidden : (core.failed (.finalization params) failure).session.value.finalizing = false := rfl
  have ticket : (core.failed (.finalization params) failure).session.value.ticket =
      core.session.value.ticket := rfl
  rw [own] at fits
  have complete : core.session.value.ticket.any Session.Ticket.isComplete = true := fits
  rw [Session.canFinalize, phase, hidden, ticket, complete]
  rfl

end Core

/-! ## Stuck sessions -/

/-- The session is in a phase that stands for a call, and no call is in flight that would take it
out of such phases when it fails. -/
structure Stuck (core : Core) (waiting : List Pending) : Prop where
  phase : core.session.value.phase ∈ [.creating, .finalizing]
  noFinalize : ∀ params, .finalization params ∉ waiting
  prior : ∀ request prior, .creation request prior ∈ waiting → prior ∈ [.creating, .finalizing]

namespace Stuck

variable {core after : Core} {waiting rest earlier later : List Pending}

/-- In a stuck session neither finalizing nor switching is offered. -/
theorem disabled (stuck : Stuck core waiting) :
    core.session.value.canFinalize = false ∧ core.session.value.phase.canSwitch = false := by
  have phase := stuck.phase
  simp only [List.mem_cons, List.not_mem_nil, or_false] at phase
  rcases phase with own | own
  · simp [Session.canFinalize, own, Phase.canSwitch]
  · simp [Session.canFinalize, own, Phase.canSwitch]

theorem keep (stuck : Stuck core waiting) (keeps : core.KeepsPhase after)
    (noFinalize : ∀ params, .finalization params ∉ rest)
    (fewer : ∀ request prior, .creation request prior ∈ rest → .creation request prior ∈ waiting) :
    Stuck after rest := by
  refine ⟨?_, noFinalize, fun request prior mem => stuck.prior request prior (fewer _ _ mem)⟩
  rcases keeps with same | ⟨before, -⟩
  · rw [same]
    exact stuck.phase
  · rw [stuck.disabled.2] at before
    cases before

theorem called {command : Command} {pending : Pending} (stuck : Stuck core waiting)
    (started : core.Started command after (.suspended pending)) :
    Stuck after (waiting ++ [pending]) := by
  have other : pending.action ≠ .createOrJoin → pending.action ≠ .finalize →
      Stuck after (waiting ++ [pending]) := by
    intro createsNot finalizesNot
    apply stuck.keep (started.keepsPhase_of_suspended createsNot finalizesNot)
    · exact fun params mem => stuck.noFinalize params (mem_of_mem_concat mem finalizesNot)
    · exact fun _ _ mem => mem_of_mem_concat mem createsNot
  cases started with
  | creating =>
      refine ⟨List.mem_cons_self, ?_, ?_⟩
      · exact fun params mem => stuck.noFinalize params (mem_of_mem_concat mem nofun)
      · intro request prior mem
        rcases List.mem_append.mp mem with old | new
        · exact stuck.prior request prior old
        · obtain ⟨-, rfl⟩ := Pending.creation.inj (List.mem_singleton.mp new)
          exact stuck.phase
  | finalizing _ _ fit =>
      -- A finalize begins in `awaitingFinalization` only.
      have phase := stuck.phase
      rw [Core.phase_of_paramsFor fit] at phase
      simp at phase
  | _ => exact other nofun nofun

theorem answered {pending : Pending} {answer : pending.call.Answer} {result : Result}
    (stuck : Stuck core (earlier ++ pending :: later))
    (settled : core.Settled pending answer after result)
    (createsNot : ¬ (Moment.answered pending answer result).Creates) :
    Stuck after (earlier ++ later) := by
  have noFinalize : ∀ params, .finalization params ∉ earlier ++ later :=
    fun params mem => stuck.noFinalize params (mem_split_of_mem_others mem)
  have fewer : ∀ request prior, .creation request prior ∈ earlier ++ later →
      .creation request prior ∈ earlier ++ pending :: later :=
    fun _ _ => mem_split_of_mem_others
  have waits : pending ∈ earlier ++ pending :: later := by simp
  cases pending with
  | creation request prior =>
      cases settled with
      | created => exact absurd trivial createsNot
      | joined => exact absurd trivial createsNot
      | creationFailed _ =>
          -- What comes back is again a phase that stands for a call.
          refine ⟨?_, noFinalize, fun _ _ mem => stuck.prior _ _ (fewer _ _ mem)⟩
          rw [Core.phase_creationFailed]
          split
          · exact stuck.prior request prior waits
          · exact stuck.phase
  | finalization params => exact absurd waits (stuck.noFinalize params)
  | _ => exact stuck.keep (settled.keepsPhase nofun nofun) noFinalize fewer

/-- A stuck session stays stuck until a game is created or joined. -/
theorem kept : Kept (fun moment => ¬ moment.Creates) Stuck where
  ended stuck started _ :=
    stuck.keep started.keepsPhase_of_finished stuck.noFinalize fun _ _ mem => mem
  called stuck started _ := stuck.called started
  answered stuck settled createsNot := stuck.answered settled createsNot
  dropped := by
    intro core earlier later pending stuck _
    apply stuck.keep (.inl (Core.phase_release _ _))
    · exact fun params mem => stuck.noFinalize params (mem_split_of_mem_others mem)
    · exact fun _ _ => mem_split_of_mem_others
  pushedRegistry stuck _ := ⟨stuck.phase, stuck.noFinalize, stuck.prior⟩
  pushedChat := by
    intro core waiting messages stuck _
    refine ⟨?_, stuck.noFinalize, stuck.prior⟩
    rw [Core.session_pushChat]
    exact stuck.phase

end Stuck

/-! ## The main statement -/

/-- What can be said of a client whose future was `dropped`, next to the client whose call `failed`
instead, where `before` is the session before. -/
structure Client.Abandoned (pending : Pending) (before : Session) (dropped failed : Client) :
    Prop where
  tasks : dropped.tasks = failed.tasks
  latches : dropped.core.latches = failed.core.latches
  registry : dropped.core.registry.value = failed.core.registry.value
  purchase : dropped.core.purchase.value = failed.core.purchase.value
  free : dropped.core.held pending.action = false ∧ dropped.core.flag pending.action = false
  lastError : dropped.core.session.value.lastError = before.lastError
  /-- The drop leaves the phase as it is, where the failure takes the session out of it. -/
  phase : dropped.core.session.value.phase = before.phase ∧
    failed.core.session.value.phase = pending.phaseOnFailure before.phase
  /-- But for the error the sessions are the same, unless this is the phase of the call. -/
  session : { failed.core.session.value with lastError := before.lastError } =
    dropped.core.session.value ↔ ¬ pending.Detains before.phase
  /-- In that phase the failure of a finalize offers finalizing again, and the drop does not. -/
  finalizing : pending.action = .finalize → pending.Detains before.phase →
    failed.core.session.value.canFinalize = true ∧ dropped.core.session.value.canFinalize = false
  /-- And if nothing else is in flight that could end the phase, neither finalizing nor switching is
  offered any more before a game is created or joined. -/
  stuck : pending.Detains before.phase →
    dropped.outstanding .createOrJoin = [] → dropped.outstanding .finalize = [] →
    ∀ steps, (∀ moment ∈ dropped.history steps, ¬ moment.Creates) →
      (dropped.run steps).core.session.value.canFinalize = false ∧
        (dropped.run steps).core.session.value.phase.canSwitch = false

/-- Who is dropped in the phase of its call leaves a session that is stuck, if nothing else is in
flight that could end the phase. -/
theorem Client.stuck_of_detains {dropped : Client} {pending : Pending}
    (detains : pending.Detains dropped.core.session.value.phase)
    (noCreation : dropped.outstanding .createOrJoin = [])
    (noFinalization : dropped.outstanding .finalize = []) :
    Stuck dropped.core dropped.waiting := by
  refine ⟨?_, ?_, ?_⟩
  · cases pending with
    | creation request prior =>
        rw [detains.1]
        decide
    | finalization params =>
        have own : dropped.core.session.value.phase = .finalizing := detains
        rw [own]
        decide
    | _ => exact detains.elim
  · exact fun params mem => Client.other_of_outstanding noFinalization mem rfl
  · exact fun request prior mem => absurd rfl (Client.other_of_outstanding noCreation mem)

theorem Client.drop_eq {client : Client} {number : Nat} {task : Task}
    (found : client.task? number = some task) :
    (client.step (.drop number)).1 =
      { client with core := client.core.abandon task.pending, tasks := client.without number } := by
  show (client.drop number).1 = _
  simp only [drop, found]

theorem Client.poll_failing_eq {client : Client} {number : Nat} {task : Task}
    (found : client.task? number = some task) (failure : Gateway.Failure) :
    (client.step (.poll number (.failing failure))).1 =
      { client with
        core := client.core.failed task.pending failure
        tasks := client.without number } := by
  show (client.poll number (.failing failure)).1 = _
  simp only [poll, found, Gateway.failing]
  rfl

/-- In a run from a stuck session finalizing and switching are not offered until a game is created
or joined. -/
theorem Client.disabled_of_stuck {client : Client} (numbered : client.Numbered)
    (stuck : Stuck client.core client.waiting) (steps : List Step)
    (createsNot : ∀ moment ∈ client.history steps, ¬ moment.Creates) :
    (client.run steps).core.session.value.canFinalize = false ∧
      (client.run steps).core.session.value.phase.canSwitch = false := by
  have moves := Client.moves_run numbered .start steps
  rw [List.nil_append] at moves
  exact (Stuck.kept.of_moves stuck moves createsNot).disabled

/-- **Dropping.** In every state of every run, dropping a future leaves what a failure of its call
leaves, but for the error that is shown, and but for the phase where it is the one that the call has
put the session into. -/
theorem drop_like_failure_but_for_phase {config : Config} {client : Client}
    (new : Client.new config = .ok client) (steps : List Client.Step) {number : Nat} {task : Task}
    (found : (client.run steps).task? number = some task) (failure : Gateway.Failure) :
    Client.Abandoned task.pending (client.run steps).core.session.value
      ((client.run steps).step (.drop number)).1
      ((client.run steps).step (.poll number (.failing failure))).1 := by
  have prepared := prepared_of_reached (Client.reached new steps)
  have numbered := Client.numbered_step (Client.numbered_run (Client.numbered_of_new new) steps)
    (.drop number)
  rw [Client.drop_eq found] at numbered ⊢
  rw [Client.poll_failing_eq found]
  -- From here on only the last state of the run counts.
  generalize client.run steps = client at prepared numbered ⊢
  have phase : (client.core.abandon task.pending).session.value.phase =
      client.core.session.value.phase := Core.phase_release _ _
  refine ⟨rfl, ?_, ?_, ?_, ?_, ?_, ?_, ?_, ?_, ?_⟩
  · exact (client.core.latches_failed task.pending failure).symm
  · rw [client.core.registry_failed task.pending failure]
  · exact (client.core.purchase_failed task.pending failure).symm
  · constructor
    · exact (client.core.held_release task.pending.action task.pending.action).trans (if_pos rfl)
    · exact (client.core.flag_release task.pending.action task.pending.action).trans (if_pos rfl)
  · exact client.core.lastError_abandon task.pending
  · refine ⟨phase, ?_⟩
    show (client.core.failed task.pending failure).session.value.phase = _
    rw [Core.session_failed]
  · exact client.core.session_failed_iff task.pending failure
  · intro finalizes detains
    cases pending : task.pending with
    | finalization params =>
        rw [pending] at detains
        refine ⟨client.core.canFinalize_failed failure params prepared.fits detains, ?_⟩
        have own : client.core.session.value.phase = .finalizing := detains
        rw [pending, own] at phase
        simp [Session.canFinalize, phase]
    | _ =>
        rw [pending] at finalizes
        cases finalizes
  · intro detains noCreation noFinalization steps createsNot
    rw [← phase] at detains
    exact Client.disabled_of_stuck numbered
      (Client.stuck_of_detains detains noCreation noFinalization) steps createsNot

/-- A create that is dropped leaves the phase `creating`, where its failure brings back `idle`. -/
theorem dropped_create_stays_creating :
    Client.Abandoned (.creation (.new "Ada") .idle)
      ((Client.fresh {}).run [.create .silent]).core.session.value
      (((Client.fresh {}).run [.create .silent]).step (.drop 0)).1
      (((Client.fresh {}).run [.create .silent]).step (.poll 0 (.failing (.rejected "no")))).1 ∧
    (((Client.fresh {}).run [.create .silent]).step (.drop 0)).1.core.session.value.phase =
      .creating :=
  ⟨drop_like_failure_but_for_phase Client.new_default [.create .silent]
    (show _ = some (⟨0, .creation (.new "Ada") .idle⟩ : Task) from rfl) (.rejected "no"), rfl⟩

/-- A finalize was dropped, nothing is in flight, the ticket is held and complete, and still
finalizing is not offered. -/
theorem finalizing_not_offered_after_drop :
    ((Client.fresh {}).run [.create .willing, .finalize .silent, .drop 0]).waiting = [] ∧
    ((Client.fresh {}).run [.create .willing, .finalize .silent, .drop 0]).core.session.value =
      { phase := .finalizing, ticket := some ⟨"ABC123", "XYZ"⟩ } ∧
    ((Client.fresh {}).run
      [.create .willing, .finalize .silent, .drop 0]).core.session.value.canFinalize = false :=
  ⟨rfl, rfl, rfl⟩

end GameClient
