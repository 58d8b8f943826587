import GameClient.Core.Command

/-!
# Runs of the client

A client is a core and the actions that are under way. The host moves it one step at a time: it
starts a command, asks whether an action under way can go on, drops one, or pushes a snapshot. With
a step that may reach the backend comes what the gateway says at that moment. Nothing else moves the
client, so a run is a list of steps.
-/

namespace GameClient

open Gateway (Call)

/-- An action under way, under its number. -/
structure Task where
  number : Nat
  pending : Pending

/-- A core, and the actions under way in the order in which they were started. -/
structure Client where
  core : Core
  tasks : List Task := []
  /-- The number of the next action that is kept. -/
  nextTask : Nat := 0

namespace Client

inductive Step where
  | start (command : Command) (gateway : Gateway)
  | poll (task : Nat) (gateway : Gateway)
  | drop (task : Nat)
  | pushRegistry (snapshot : RegistrySnapshot)
  | pushChat (messages : List Chat.Message)

inductive Outcome where
  /-- An action is over. -/
  | completed (result : Result)
  /-- An action waits, under this number. -/
  | waiting (task : Nat)
  | dropped
  /-- A snapshot of the registry was taken over. -/
  | pushed
  /-- A snapshot of the chat was taken over, or passed over. -/
  | pushedChat (applied : Bool)
  /-- No action of that number is under way. -/
  | noTask

/-- What can be seen of a step. -/
structure Report where
  /-- The call that the step made. -/
  issued : Option Call := none
  log : List Event := []
  outcome : Outcome

/-- A client at its start, if its configuration can be used. -/
def new (config : Config) : Except ConfigError Client :=
  match Core.new config with
  | .error error => .error error
  | .ok core => .ok { core }

def task? (client : Client) (number : Nat) : Option Task :=
  client.tasks.find? fun task => task.number == number

def without (client : Client) (number : Nat) : List Task :=
  client.tasks.filter fun task => task.number ≠ number

/-- Starts a command. If it makes a call, the gateway is asked for the answer at once. -/
def start (client : Client) (command : Command) (gateway : Gateway) : Client × Report :=
  let turn := client.core.start command
  match turn.value with
  | .finished result =>
    ({ client with core := turn.core }, { log := turn.log, outcome := .completed result })
  | .suspended pending =>
    match gateway pending.call with
    | none =>
      ({ core := turn.core
         tasks := client.tasks ++ [⟨client.nextTask, pending⟩]
         nextTask := client.nextTask + 1 },
        { issued := some pending.call, log := turn.log, outcome := .waiting client.nextTask })
    -- Who is answered at once is over in this step, and takes no number.
    | some answer =>
      let rest := turn.core.resume pending answer
      ({ client with core := rest.core },
        { issued := some pending.call
          log := turn.log ++ rest.log
          outcome := .completed rest.value })

/-- Asks whether an action can go on. -/
def poll (client : Client) (number : Nat) (gateway : Gateway) : Client × Report :=
  match client.task? number with
  | none => (client, { outcome := .noTask })
  | some task =>
    match gateway task.pending.call with
    | none => (client, { outcome := .waiting number })
    | some answer =>
      let turn := client.core.resume task.pending answer
      ({ client with core := turn.core, tasks := client.without number },
        { log := turn.log, outcome := .completed turn.value })

def drop (client : Client) (number : Nat) : Client × Report :=
  match client.task? number with
  | none => (client, { outcome := .noTask })
  | some task =>
    -- Latch and flag are given back. The phase that the action brought stays.
    ({ client with core := client.core.abandon task.pending, tasks := client.without number },
      { outcome := .dropped })

def step (client : Client) : Step → Client × Report
  | .start command gateway => client.start command gateway
  | .poll number gateway => client.poll number gateway
  | .drop number => client.drop number
  | .pushRegistry snapshot =>
    let turn := client.core.pushRegistry snapshot
    ({ client with core := turn.core }, { log := turn.log, outcome := .pushed })
  | .pushChat messages =>
    let turn := client.core.pushChat messages
    ({ client with core := turn.core }, { log := turn.log, outcome := .pushedChat turn.value })

def run (client : Client) : List Step → Client
  | [] => client
  | step :: steps => (client.step step).1.run steps

def reports (client : Client) : List Step → List Report
  | [] => []
  | step :: steps => (client.step step).2 :: (client.step step).1.reports steps

end Client

end GameClient
