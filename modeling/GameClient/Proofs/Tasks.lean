import GameClient.Proofs.Exclusion

/-!
# Tasks and their numbers

A task is known by its number. Numbers are not used again, so a task that is there at the end of a
run and has an older number was there all along (`Client.mem_tasks_of_run`), and its action was not
over in between (`Client.InRun.ends_ne_of_mem_tasks`). With this a run can be followed from the step
that starts an action to the poll that ends it.
-/

namespace GameClient

namespace Client

variable {client : Client} {step : Step} {task : Task}

theorem nextTask_le_step (client : Client) (step : Step) :
    client.nextTask ≤ (client.step step).1.nextTask := by
  have stepped := client.stepped step
  generalize client.moments step = moments, (client.step step).1 = after,
    (client.step step).2.outcome = outcome at *
  cases stepped with
  | called => exact Nat.le_succ _
  | _ => exact Nat.le_refl _

/-- A task that is there after a step and has an older number was there before. -/
theorem mem_tasks_of_step (mem : task ∈ (client.step step).1.tasks)
    (older : task.number < client.nextTask) : task ∈ client.tasks := by
  have stepped := client.stepped step
  generalize client.moments step = moments, (client.step step).1 = after,
    (client.step step).2.outcome = outcome at *
  cases stepped with
  | called =>
      rcases List.mem_append.mp mem with old | new
      · exact old
      · rw [List.mem_singleton.mp new] at older
        exact absurd older (Nat.lt_irrefl _)
  | answered => exact (mem_without.mp mem).1
  | dropped => exact (mem_without.mp mem).1
  | _ => exact mem

theorem mem_tasks_of_run {steps : List Step} (mem : task ∈ (client.run steps).tasks)
    (older : task.number < client.nextTask) : task ∈ client.tasks := by
  induction steps generalizing client with
  | nil => exact mem
  | cons step steps ih =>
      have next := ih mem (Nat.lt_of_lt_of_le older (nextTask_le_step client step))
      exact mem_tasks_of_step next older

/-- A command that waits is kept under a number that no other task has. -/
theorem start_of_waiting (numbered : client.Numbered) {command : Command} {gateway : Gateway}
    {number : Nat} (waits : (client.step (.start command gateway)).2.outcome = .waiting number) :
    ∃ pending,
      client.core.Started command (client.step (.start command gateway)).1.core
        (.suspended pending) ∧
      (client.step (.start command gateway)).1.waiting = client.waiting ++ [pending] ∧
      number < (client.step (.start command gateway)).1.nextTask ∧
      ∀ task ∈ (client.step (.start command gateway)).1.tasks, task.number = number →
        task.pending = pending := by
  have stepped := client.stepped (.start command gateway)
  rw [waits] at stepped
  generalize client.moments (.start command gateway) = moments,
    (client.step (.start command gateway)).1 = after at stepped
  cases stepped with
  | called started =>
      refine ⟨_, started, ?_, Nat.lt_succ_self _, ?_⟩
      · rw [waiting, List.map_append]
        rfl
      · intro task mem same
        rcases List.mem_append.mp mem with old | new
        · exact absurd same (Nat.ne_of_lt (numbered.below task old))
        · rw [List.mem_singleton.mp new]

/-- A task whose poll ends it was under way, and its call is answered. -/
theorem settled_of_poll {number : Nat} {gateway : Gateway} {result : Result}
    (completed : (client.step (.poll number gateway)).2.outcome = .completed result) :
    ∃ task ∈ client.tasks, task.number = number ∧ ∃ answer, client.core.Settled task.pending answer
      (client.step (.poll number gateway)).1.core result := by
  have stepped := client.stepped (.poll number gateway)
  rw [completed] at stepped
  generalize client.moments (.poll number gateway) = moments,
    (client.step (.poll number gateway)).1 = after at stepped
  cases stepped with
  | answered found _ settled =>
      exact ⟨_, mem_of_task? found, number_of_task? found, _, settled⟩

/-- While a task is there its action is not over. -/
theorem InRun.ends_ne_of_mem_tasks {config : Config} {past : List Moment}
    (runs : InRun config past client) {steps : List Step}
    (mem : task ∈ (client.run steps).tasks) (older : task.number < client.nextTask) :
    ∀ moment ∈ client.history steps, moment.ends? ≠ some task.pending.action := by
  induction steps generalizing client past with
  | nil => exact fun _ => nofun
  | cons step steps ih =>
      have next := runs.concat step
      have olderNext := Nat.lt_of_lt_of_le older (nextTask_le_step client step)
      have memNext : task ∈ (client.step step).1.tasks := mem_tasks_of_run mem olderNext
      intro moment happens
      rcases List.mem_append.mp happens with now | later
      · -- The end of the action would leave the latch free that the task holds.
        intro ends
        obtain ⟨before, last⟩ := last_of_ends now ends
        have free := free_of_ends next.reached (by rw [last, ← List.append_assoc]) ends
        have taken := (agreement_of_reached next.reached).held_of_mem (List.mem_map_of_mem memNext)
        rw [free] at taken
        cases taken
      · exact ih next mem olderNext moment later

end Client

end GameClient
