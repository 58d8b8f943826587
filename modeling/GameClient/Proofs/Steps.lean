import GameClient.Client
import GameClient.Proofs.Turns
import Mathlib.Data.List.Nodup

/-!
# What the steps of a client come to

A step of a client is one turn of its core, or two if a call is answered at once. A `Moment` is what
one turn did, and `Client.moments` lists the moments of a step.

A turn of the core was said to come to one of a few things (`Core.Started`, `Core.Settled`). Here
the same is said of the steps of a client, with the moments of each and the tasks that it leaves:
`Client.Stepped` lists what a step can come to, and `Client.stepped` says that the list is complete.
Whatever is to be shown of all steps is then shown by cases on it.
-/

namespace GameClient

/-- What one turn of the core did. -/
inductive Moment where
  /-- A command ended before its call. -/
  | ended (command : Command) (result : Result)
  /-- An action made its call. -/
  | called (pending : Pending)
  /-- The call of an action was answered, and the action is over. -/
  | answered (pending : Pending) (answer : pending.call.Answer) (result : Result)
  | dropped (pending : Pending)
  | pushedRegistry (snapshot : RegistrySnapshot)
  | pushedChat (messages : List Chat.Message)

/-- Only the turn that starts an action makes a call. -/
def Moment.call? : Moment → Option Gateway.Call
  | called pending => some pending.call
  | _ => none

namespace Client

/-- What happens in a step. -/
def moments (client : Client) : Step → List Moment
  | .start command gateway =>
    let turn := client.core.start command
    match turn.value with
    | .finished result => [.ended command result]
    | .suspended pending =>
      match gateway pending.call with
      | none => [.called pending]
      | some answer =>
        [.called pending, .answered pending answer (turn.core.resume pending answer).value]
  | .poll number gateway =>
    match client.task? number with
    | none => []
    | some task =>
      match gateway task.pending.call with
      | none => []
      | some answer =>
        [.answered task.pending answer (client.core.resume task.pending answer).value]
  | .drop number =>
    match client.task? number with
    | none => []
    | some task => [.dropped task.pending]
  | .pushRegistry snapshot => [.pushedRegistry snapshot]
  | .pushChat messages => [.pushedChat messages]

variable {client : Client} {step : Step} {number : Nat}

/-! ## What a step can come to -/

/-- What a step can come to: what happens in it, the client after it, and its outcome. -/
inductive Stepped (client : Client) : Step → List Moment → Client → Outcome → Prop where
  /-- The command ends before its call. -/
  | ended {command : Command} {gateway : Gateway} {after : Core} {result : Result}
      (started : client.core.Started command after (.finished result)) :
      Stepped client (.start command gateway) [.ended command result] { client with core := after }
        (.completed result)
  /-- The command waits for its call, and is kept under a new number. -/
  | called {command : Command} {gateway : Gateway} {after : Core} {pending : Pending}
      (started : client.core.Started command after (.suspended pending))
      (unanswered : gateway pending.call = none) :
      Stepped client (.start command gateway) [.called pending]
        { core := after
          tasks := client.tasks ++ [⟨client.nextTask, pending⟩]
          nextTask := client.nextTask + 1 }
        (.waiting client.nextTask)
  | answeredAtOnce {command : Command} {gateway : Gateway} {called after : Core}
      {pending : Pending} {answer : pending.call.Answer} {result : Result}
      (started : client.core.Started command called (.suspended pending))
      (answered : gateway pending.call = some answer)
      (settled : called.Settled pending answer after result) :
      Stepped client (.start command gateway) [.called pending, .answered pending answer result]
        { client with core := after } (.completed result)
  | answered {number : Nat} {gateway : Gateway} {task : Task} {after : Core}
      {answer : task.pending.call.Answer} {result : Result}
      (found : client.task? number = some task)
      (answered : gateway task.pending.call = some answer)
      (settled : client.core.Settled task.pending answer after result) :
      Stepped client (.poll number gateway) [.answered task.pending answer result]
        { client with core := after, tasks := client.without number } (.completed result)
  | unanswered {number : Nat} {gateway : Gateway} {task : Task}
      (found : client.task? number = some task) (unanswered : gateway task.pending.call = none) :
      Stepped client (.poll number gateway) [] client (.waiting number)
  | nonePolled {number : Nat} {gateway : Gateway} (missing : client.task? number = none) :
      Stepped client (.poll number gateway) [] client .noTask
  | dropped {number : Nat} {task : Task} (found : client.task? number = some task) :
      Stepped client (.drop number) [.dropped task.pending]
        { client with core := client.core.abandon task.pending, tasks := client.without number }
        .dropped
  | noneDropped {number : Nat} (missing : client.task? number = none) :
      Stepped client (.drop number) [] client .noTask
  | pushedRegistry {snapshot : RegistrySnapshot} :
      Stepped client (.pushRegistry snapshot) [.pushedRegistry snapshot]
        { client with core := (client.core.pushRegistry snapshot).core } .pushed
  | pushedChat {messages : List Chat.Message} :
      Stepped client (.pushChat messages) [.pushedChat messages]
        { client with core := (client.core.pushChat messages).core }
        (.pushedChat (client.core.pushChat messages).value)

theorem stepped_start (client : Client) (command : Command) (gateway : Gateway) :
    Stepped client (.start command gateway) (client.moments (.start command gateway))
      (client.start command gateway).1 (client.start command gateway).2.outcome := by
  have started := client.core.started command
  cases value : (client.core.start command).value with
  | finished result =>
      rw [value] at started
      simp only [moments, start, value]
      exact .ended started
  | suspended pending =>
      rw [value] at started
      cases answered : gateway pending.call with
      | none =>
          simp only [moments, start, value, answered]
          exact .called started answered
      | some answer =>
          simp only [moments, start, value, answered]
          exact .answeredAtOnce started answered (Core.settled _ pending answer)

theorem stepped_poll (client : Client) (number : Nat) (gateway : Gateway) :
    Stepped client (.poll number gateway) (client.moments (.poll number gateway))
      (client.poll number gateway).1 (client.poll number gateway).2.outcome := by
  cases found : client.task? number with
  | none =>
      simp only [moments, poll, found]
      exact .nonePolled found
  | some task =>
      cases answered : gateway task.pending.call with
      | none =>
          simp only [moments, poll, found, answered]
          exact .unanswered found answered
      | some answer =>
          simp only [moments, poll, found, answered]
          exact .answered found answered (Core.settled _ task.pending answer)

theorem stepped_drop (client : Client) (number : Nat) :
    Stepped client (.drop number) (client.moments (.drop number)) (client.drop number).1
      (client.drop number).2.outcome := by
  cases found : client.task? number with
  | none =>
      simp only [moments, drop, found]
      exact .noneDropped found
  | some task =>
      simp only [moments, drop, found]
      exact .dropped found

/-- The list of `Stepped` is complete. -/
theorem stepped (client : Client) (step : Step) :
    Stepped client step (client.moments step) (client.step step).1
      (client.step step).2.outcome := by
  cases step with
  | start command gateway => exact stepped_start client command gateway
  | poll number gateway => exact stepped_poll client number gateway
  | drop number => exact stepped_drop client number
  | pushRegistry snapshot => exact .pushedRegistry
  | pushChat messages => exact .pushedChat

/-! ## Moments of a step -/

/-- A step is at most two turns, and two only if a call is answered at once. -/
theorem moments_cases (client : Client) (step : Step) :
    client.moments step = [] ∨ (∃ moment, client.moments step = [moment]) ∨
      ∃ pending moment, client.moments step = [.called pending, moment] := by
  have stepped := client.stepped step
  generalize client.moments step = moments, (client.step step).1 = after,
    (client.step step).2.outcome = outcome at *
  cases stepped with
  | answeredAtOnce => exact .inr (.inr ⟨_, _, rfl⟩)
  | unanswered => exact .inl rfl
  | nonePolled => exact .inl rfl
  | noneDropped => exact .inl rfl
  | _ => exact .inr (.inl ⟨_, rfl⟩)

/-- Only a step that drops an action has the moment at which it is dropped. -/
theorem drop_of_dropped {pending : Pending} (mem : .dropped pending ∈ client.moments step) :
    ∃ number, step = .drop number := by
  have stepped := client.stepped step
  generalize client.moments step = moments, (client.step step).1 = after,
    (client.step step).2.outcome = outcome at *
  cases stepped with
  | dropped => exact ⟨_, rfl⟩
  | _ => simp at mem

/-- A command ends before its call when it is started, and the step changes only the core. -/
theorem started_of_ended {command : Command} {result : Result}
    (mem : .ended command result ∈ client.moments step) :
    ∃ after, client.core.Started command after (.finished result) ∧
      (client.step step).1 = { client with core := after } := by
  have stepped := client.stepped step
  generalize client.moments step = moments, (client.step step).1 = after,
    (client.step step).2.outcome = outcome at *
  cases stepped with
  | ended started =>
      obtain ⟨rfl, rfl⟩ := Moment.ended.inj (List.mem_singleton.mp mem)
      exact ⟨_, started, rfl⟩
  | _ => simp at mem

/-! ## The call of a step -/

theorem issued_eq (client : Client) (step : Step) :
    (client.step step).2.issued = (client.moments step).head?.bind Moment.call? := by
  cases step with
  | start command gateway =>
      show (client.start command gateway).2.issued = _
      unfold start
      cases value : (client.core.start command).value with
      | finished result => simp [moments, value, Moment.call?]
      | suspended pending =>
          cases answered : gateway pending.call <;> simp [moments, value, answered, Moment.call?]
  | poll number gateway =>
      show (client.poll number gateway).2.issued = _
      unfold poll
      cases found : client.task? number with
      | none => simp [moments, found]
      | some task =>
          cases answered : gateway task.pending.call <;>
            simp [moments, found, answered, Moment.call?]
  | drop number =>
      show (client.drop number).2.issued = _
      unfold drop
      cases found : client.task? number <;> simp [moments, found, Moment.call?]
  | pushRegistry snapshot => rfl
  | pushChat messages => rfl

/-- Only a step that starts a command makes a call, and the command is suspended at it. -/
theorem started_of_issued {call : Gateway.Call} (issued : (client.step step).2.issued = some call) :
    ∃ command gateway pending after, step = .start command gateway ∧
      client.core.Started command after (.suspended pending) ∧ pending.call = call := by
  rw [issued_eq] at issued
  have stepped := client.stepped step
  generalize client.moments step = moments, (client.step step).1 = after,
    (client.step step).2.outcome = outcome at *
  cases stepped with
  | called started | answeredAtOnce started =>
      exact ⟨_, _, _, _, rfl, started, Option.some.inj issued⟩
  | _ => cases issued

/-! ## Tasks and their numbers -/

theorem mem_of_task? {task : Task} (found : client.task? number = some task) :
    task ∈ client.tasks :=
  List.mem_of_find?_eq_some found

theorem number_of_task? {task : Task} (found : client.task? number = some task) :
    task.number = number := by
  simpa using List.find?_some found

theorem mem_without {task : Task} :
    task ∈ client.without number ↔ task ∈ client.tasks ∧ task.number ≠ number := by
  simp [without]

/-- No two tasks have the same number, and the next number is not in use. -/
structure Numbered (client : Client) : Prop where
  distinct : (client.tasks.map Task.number).Nodup
  below : ∀ task ∈ client.tasks, task.number < client.nextTask

/-- A task that is found stands at one place, and taking its number away takes only it away. -/
theorem split_of_task? {client : Client} (numbered : client.Numbered) {number : Nat} {task : Task}
    (found : client.task? number = some task) :
    ∃ before after, client.tasks = before ++ task :: after ∧
      client.without number = before ++ after := by
  -- No task before it has its number, since it is the first; none after it, since they differ.
  obtain ⟨same, before, after, split, others⟩ := List.find?_eq_some_iff_append.mp found
  have same : task.number = number := by simpa using same
  refine ⟨before, after, split, ?_⟩
  have distinct := numbered.distinct
  rw [split, List.map_append, List.map_cons, List.nodup_append, List.nodup_cons] at distinct
  obtain ⟨-, ⟨notAfter, -⟩, -⟩ := distinct
  rw [without, split, List.filter_append, List.filter_cons_of_neg (by simpa using same)]
  congr 1
  · apply List.filter_eq_self.mpr
    intro other mem
    simpa using others other mem
  · apply List.filter_eq_self.mpr
    intro other mem
    have different : other.number ≠ task.number := fun equal =>
      notAfter (equal ▸ List.mem_map_of_mem mem)
    simpa [same] using different

/-- Tasks of one number are one task. -/
theorem Numbered.eq_of_number (numbered : client.Numbered) {task other : Task}
    (mem : task ∈ client.tasks) (otherMem : other ∈ client.tasks)
    (same : other.number = task.number) : other = task :=
  List.inj_on_of_nodup_map numbered.distinct otherMem mem same

theorem numbered_without (numbered : client.Numbered) (core : Core) (number : Nat) :
    ({ client with core, tasks := client.without number } : Client).Numbered where
  distinct := (List.filter_sublist.map _).nodup numbered.distinct
  below := fun _ mem => numbered.below _ (mem_without.mp mem).1

/-- A task that is kept under the next number. -/
theorem numbered_kept (numbered : client.Numbered) (core : Core) (pending : Pending) :
    ({ core
       tasks := client.tasks ++ [⟨client.nextTask, pending⟩]
       nextTask := client.nextTask + 1 } : Client).Numbered where
  distinct := by
    have fresh : client.nextTask ∉ client.tasks.map Task.number := by
      intro mem
      obtain ⟨task, taskMem, same⟩ := List.mem_map.mp mem
      exact Nat.lt_irrefl _ (same ▸ numbered.below task taskMem)
    rw [List.map_append]
    exact List.Nodup.append numbered.distinct (List.nodup_singleton _) (by simpa using fresh)
  below := by
    intro task mem
    rcases List.mem_append.mp mem with old | new
    · exact Nat.lt_succ_of_lt (numbered.below task old)
    · rw [List.mem_singleton.mp new]
      exact Nat.lt_succ_self _

theorem numbered_step (numbered : client.Numbered) (step : Step) :
    (client.step step).1.Numbered := by
  have stepped := client.stepped step
  generalize client.moments step = moments, (client.step step).1 = after,
    (client.step step).2.outcome = outcome at *
  cases stepped with
  | called => exact numbered_kept numbered _ _
  | answered => exact numbered_without numbered _ _
  | dropped => exact numbered_without numbered _ _
  | _ => exact ⟨numbered.distinct, numbered.below⟩

end Client

end GameClient
