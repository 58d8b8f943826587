import GameClient.Gateway.Scripted
import GameClient.Proofs.Steps

/-!
# Histories of runs

What happens in a run is the moments of its steps, in order (`Client.history`).

`Moves` follows a run moment by moment: the core, and the actions that wait for their calls. A run
of a client moves so (`moves_run`). What is to be shown of all runs is then shown by induction on
`Moves`, with one case for each kind of moment, and may speak about what has happened so far.

Where the past does not matter, it is enough to say what each kind of moment keeps (`Kept`).
-/

namespace GameClient

/-- A game is created or joined. -/
def Moment.Creates : Moment → Prop
  | answered (.creation ..) (.ok _) _ => True
  | _ => False

namespace Client

/-- The actions that wait for the answers to their calls. -/
def waiting (client : Client) : List Pending := client.tasks.map Task.pending

/-- An action that is found waits at one place, and taking its number away takes only it away. -/
theorem waiting_split {client : Client} (numbered : client.Numbered) {number : Nat} {task : Task}
    (found : client.task? number = some task) :
    ∃ earlier later, client.waiting = earlier ++ task.pending :: later ∧
      (client.without number).map Task.pending = earlier ++ later := by
  obtain ⟨before, after, split, rest⟩ := split_of_task? numbered found
  refine ⟨before.map Task.pending, after.map Task.pending, ?_, ?_⟩
  · rw [waiting, split, List.map_append, List.map_cons]
  · rw [rest, List.map_append]

def history (client : Client) : List Step → List Moment
  | [] => []
  | step :: steps => client.moments step ++ (client.step step).1.history steps

theorem run_append (client : Client) (first second : List Step) :
    client.run (first ++ second) = (client.run first).run second := by
  induction first generalizing client with
  | nil => rfl
  | cons step steps ih => exact ih (client.step step).1

theorem history_append (client : Client) (first second : List Step) :
    client.history (first ++ second) =
      client.history first ++ (client.run first).history second := by
  induction first generalizing client with
  | nil => rfl
  | cons step steps ih =>
      show client.moments step ++ (client.step step).1.history (steps ++ second) = _
      rw [ih, ← List.append_assoc]
      rfl

theorem run_concat (client : Client) (steps : List Step) (step : Step) :
    client.run (steps ++ [step]) = ((client.run steps).step step).1 :=
  run_append client steps [step]

theorem history_concat (client : Client) (steps : List Step) (step : Step) :
    client.history (steps ++ [step]) = client.history steps ++ (client.run steps).moments step := by
  rw [history_append]
  show _ ++ ((client.run steps).moments step ++ []) = _
  rw [List.append_nil]

/-- What has happened in a run has happened in one of its steps. -/
theorem step_of_mem_history {client : Client} {steps : List Step} {moment : Moment}
    (mem : moment ∈ client.history steps) :
    ∃ before step after, steps = before ++ step :: after ∧
      moment ∈ (client.run before).moments step := by
  induction steps generalizing client with
  | nil => cases mem
  | cons first steps ih =>
      rcases List.mem_append.mp mem with now | later
      · exact ⟨[], first, steps, rfl, now⟩
      · obtain ⟨before, step, after, rfl, happens⟩ := ih later
        exact ⟨first :: before, step, after, rfl, happens⟩

/-- Without steps that drop one, no action is dropped. -/
theorem dropped_not_mem_history {client : Client} {steps : List Step}
    (undropped : ∀ number, .drop number ∉ steps) (pending : Pending) :
    .dropped pending ∉ client.history steps := by
  induction steps generalizing client with
  | nil => exact List.not_mem_nil
  | cons step steps ih =>
      intro mem
      rcases List.mem_append.mp mem with now | later
      · obtain ⟨number, rfl⟩ := drop_of_dropped now
        exact undropped number List.mem_cons_self
      · exact ih (fun number mem => undropped number (List.mem_cons_of_mem _ mem)) later

end Client

/-! ## Steps for examples -/

/-- A gateway that has not answered anything yet. -/
def Gateway.silent : Gateway := fun _ => none

/-- A gateway that answers every call with success. -/
def Gateway.willing : Gateway := fun call => some (({} : Gateway.Scripted).answer call)

def Client.Step.create (gateway : Gateway) : Client.Step :=
  .start (.createOrJoin (.new "Ada")) gateway

def Client.Step.finalize (gateway : Gateway) : Client.Step := .start .finalizeWithDefaults gateway

/-- The game of a key is to be gone over to, or none for the empty key. -/
def Client.Step.switch (target : String) (gateway : Gateway) : Client.Step :=
  .start (.switch target) gateway

/-! ## Moments of a run -/

/-- What waits after a call, and is not the action that called, waited before. -/
theorem mem_of_mem_concat {waiting : List Pending} {pending other : Pending}
    (mem : other ∈ waiting ++ [pending]) (different : pending.action ≠ other.action) :
    other ∈ waiting := by
  rcases List.mem_append.mp mem with old | new
  · exact old
  · rw [List.mem_singleton.mp new] at different
    exact absurd rfl different

/-- What waits besides an action waits. -/
theorem mem_split_of_mem_others {earlier later : List Pending} {pending other : Pending}
    (mem : other ∈ earlier ++ later) : other ∈ earlier ++ pending :: later := by
  rcases List.mem_append.mp mem with first | last
  · exact List.mem_append_left _ first
  · exact List.mem_append_right _ (List.mem_cons_of_mem _ last)

/-- The moments that lead from a core with the actions that wait, to another. -/
inductive Moves (start : Core) (waitingFirst : List Pending) :
    List Moment → Core → List Pending → Prop where
  | start : Moves start waitingFirst [] start waitingFirst
  | ended {past : List Moment} {core after : Core} {waiting : List Pending} {command : Command}
      {result : Result} (before : Moves start waitingFirst past core waiting)
      (started : core.Started command after (.finished result)) :
      Moves start waitingFirst (past ++ [.ended command result]) after waiting
  | called {past : List Moment} {core after : Core} {waiting : List Pending} {command : Command}
      {pending : Pending} (before : Moves start waitingFirst past core waiting)
      (started : core.Started command after (.suspended pending)) :
      Moves start waitingFirst (past ++ [.called pending]) after (waiting ++ [pending])
  | answered {past : List Moment} {core after : Core} {earlier later : List Pending}
      {pending : Pending} {answer : pending.call.Answer} {result : Result}
      (before : Moves start waitingFirst past core (earlier ++ pending :: later))
      (settled : core.Settled pending answer after result) :
      Moves start waitingFirst (past ++ [.answered pending answer result]) after (earlier ++ later)
  | dropped {past : List Moment} {core : Core} {earlier later : List Pending} {pending : Pending}
      (before : Moves start waitingFirst past core (earlier ++ pending :: later)) :
      Moves start waitingFirst (past ++ [.dropped pending]) (core.abandon pending)
        (earlier ++ later)
  | pushedRegistry {past : List Moment} {core : Core} {waiting : List Pending}
      {snapshot : RegistrySnapshot} (before : Moves start waitingFirst past core waiting) :
      Moves start waitingFirst (past ++ [.pushedRegistry snapshot])
        (core.pushRegistry snapshot).core waiting
  | pushedChat {past : List Moment} {core : Core} {waiting : List Pending}
      {messages : List Chat.Message} (before : Moves start waitingFirst past core waiting) :
      Moves start waitingFirst (past ++ [.pushedChat messages]) (core.pushChat messages).core
        waiting

/-- A property of the core and of the actions that wait, kept by each turn whose moment is allowed.
-/
structure Kept (allowed : Moment → Prop) (holds : Core → List Pending → Prop) : Prop where
  ended : ∀ {core after : Core} {waiting : List Pending} {command : Command} {result : Result},
    holds core waiting → core.Started command after (.finished result) →
      allowed (.ended command result) → holds after waiting
  called : ∀ {core after : Core} {waiting : List Pending} {command : Command} {pending : Pending},
    holds core waiting → core.Started command after (.suspended pending) →
      allowed (.called pending) → holds after (waiting ++ [pending])
  answered : ∀ {core after : Core} {earlier later : List Pending} {pending : Pending}
    {answer : pending.call.Answer} {result : Result},
    holds core (earlier ++ pending :: later) → core.Settled pending answer after result →
      allowed (.answered pending answer result) → holds after (earlier ++ later)
  dropped : ∀ {core : Core} {earlier later : List Pending} {pending : Pending},
    holds core (earlier ++ pending :: later) → allowed (.dropped pending) →
      holds (core.abandon pending) (earlier ++ later)
  pushedRegistry : ∀ {core : Core} {waiting : List Pending} {snapshot : RegistrySnapshot},
    holds core waiting → allowed (.pushedRegistry snapshot) →
      holds (core.pushRegistry snapshot).core waiting
  pushedChat : ∀ {core : Core} {waiting : List Pending} {messages : List Chat.Message},
    holds core waiting → allowed (.pushedChat messages) →
      holds (core.pushChat messages).core waiting

/-- Such a property holds after moves all of whose moments are allowed, if it held before. -/
theorem Kept.of_moves {allowed : Moment → Prop} {holds : Core → List Pending → Prop}
    (kept : Kept allowed holds) {first core : Core} {waitingFirst waiting : List Pending}
    {past : List Moment} (start : holds first waitingFirst)
    (moves : Moves first waitingFirst past core waiting) (all : ∀ moment ∈ past, allowed moment) :
    holds core waiting := by
  induction moves with
  | start => exact start
  | ended _ started ih =>
      obtain ⟨before, last⟩ := List.forall_mem_append.mp all
      exact kept.ended (ih before) started (last _ List.mem_cons_self)
  | called _ started ih =>
      obtain ⟨before, last⟩ := List.forall_mem_append.mp all
      exact kept.called (ih before) started (last _ List.mem_cons_self)
  | answered _ settled ih =>
      obtain ⟨before, last⟩ := List.forall_mem_append.mp all
      exact kept.answered (ih before) settled (last _ List.mem_cons_self)
  | dropped _ ih =>
      obtain ⟨before, last⟩ := List.forall_mem_append.mp all
      exact kept.dropped (ih before) (last _ List.mem_cons_self)
  | pushedRegistry _ ih =>
      obtain ⟨before, last⟩ := List.forall_mem_append.mp all
      exact kept.pushedRegistry (ih before) (last _ List.mem_cons_self)
  | pushedChat _ ih =>
      obtain ⟨before, last⟩ := List.forall_mem_append.mp all
      exact kept.pushedChat (ih before) (last _ List.mem_cons_self)

namespace Client

variable {client : Client} {first : Core} {waitingFirst : List Pending} {past : List Moment}

theorem moves_step (numbered : client.Numbered)
    (moves : Moves first waitingFirst past client.core client.waiting) (step : Step) :
    Moves first waitingFirst (past ++ client.moments step) (client.step step).1.core
      (client.step step).1.waiting := by
  have stepped := client.stepped step
  generalize client.moments step = moments, (client.step step).1 = after,
    (client.step step).2.outcome = outcome at *
  -- A step without a moment leaves the client as it is.
  have idle : Moves first waitingFirst (past ++ []) client.core client.waiting := by
    rwa [List.append_nil]
  cases stepped with
  | ended started => exact .ended moves started
  | called started =>
      rw [waiting, List.map_append]
      exact .called moves started
  | answeredAtOnce started _ settled =>
      -- The action is answered at once, so it stands last among those that wait.
      have done := Moves.answered (Moves.called moves started) settled
      rwa [List.append_assoc, List.append_nil] at done
  | answered found _ settled =>
      obtain ⟨earlier, later, split, rest⟩ := waiting_split numbered found
      rw [split] at moves
      rw [waiting, rest]
      exact .answered moves settled
  | unanswered => exact idle
  | nonePolled => exact idle
  | dropped found =>
      obtain ⟨earlier, later, split, rest⟩ := waiting_split numbered found
      rw [split] at moves
      rw [waiting, rest]
      exact .dropped moves
  | noneDropped => exact idle
  | pushedRegistry => exact .pushedRegistry moves
  | pushedChat => exact .pushedChat moves

theorem moves_run (numbered : client.Numbered)
    (moves : Moves first waitingFirst past client.core client.waiting) (steps : List Step) :
    Moves first waitingFirst (past ++ client.history steps) (client.run steps).core
      (client.run steps).waiting := by
  induction steps generalizing client past with
  | nil => rwa [history, List.append_nil]
  | cons step steps ih =>
      have rest := ih (numbered_step numbered step) (moves_step numbered moves step)
      rwa [List.append_assoc] at rest

theorem numbered_run (numbered : client.Numbered) (steps : List Step) :
    (client.run steps).Numbered := by
  induction steps generalizing client with
  | nil => exact numbered
  | cons step steps ih => exact ih (numbered_step numbered step)

end Client

/-! ## Runs from the start -/

/-- The core at the start of a run. -/
def Core.fresh (config : Config) : Core :=
  { config, feed := Chat.Feed.new config.chat.scrollback.toNat }

/-- A history that starts with a fresh core, and what it leads to. -/
abbrev Reached (config : Config) (past : List Moment) (core : Core) (waiting : List Pending) :
    Prop :=
  Moves (Core.fresh config) [] past core waiting

namespace Client

variable {config : Config} {client : Client}

/-- A client at the start of a run. -/
def fresh (config : Config) : Client := { core := Core.fresh config }

theorem new_default : Client.new {} = .ok (fresh {}) := rfl

theorem eq_fresh_of_new (new : Client.new config = .ok client) : client = fresh config := by
  unfold Client.new Core.new at new
  cases valid : config.validate with
  | error error =>
      rw [valid] at new
      exact absurd new (by simp)
  | ok _ =>
      rw [valid] at new
      exact (Except.ok.inj new).symm

theorem numbered_of_new (new : Client.new config = .ok client) : client.Numbered := by
  rw [eq_fresh_of_new new]
  exact ⟨List.nodup_nil, fun _ => nofun⟩

/-- What is shown of all histories from the start holds of every run of a new client. -/
theorem reached (new : Client.new config = .ok client) (steps : List Step) :
    Reached config (client.history steps) (client.run steps).core (client.run steps).waiting := by
  obtain rfl := eq_fresh_of_new new
  exact moves_run (numbered_of_new new) .start steps

/-- The client has come so far in a run from the start. -/
structure InRun (config : Config) (past : List Moment) (client : Client) : Prop where
  reached : Reached config past client.core client.waiting
  numbered : client.Numbered

theorem inRun_of_new (new : Client.new config = .ok client) (steps : List Step) :
    InRun config (client.history steps) (client.run steps) :=
  ⟨reached new steps, numbered_run (numbered_of_new new) steps⟩

namespace InRun

variable {past : List Moment}

theorem concat (runs : InRun config past client) (step : Step) :
    InRun config (past ++ client.moments step) (client.step step).1 :=
  ⟨moves_step runs.numbered runs.reached step, numbered_step runs.numbered step⟩

theorem append (runs : InRun config past client) (steps : List Step) :
    InRun config (past ++ client.history steps) (client.run steps) :=
  ⟨moves_run runs.numbered runs.reached steps, numbered_run runs.numbered steps⟩

end InRun

end Client

end GameClient
