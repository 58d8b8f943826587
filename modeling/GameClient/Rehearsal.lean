import GameClient.Client
import GameClient.Keyed
import GameClient.Rehearsal.Backend
import GameClient.Rehearsal.View

/-!
# Rehearsals

A rehearsal plays a client against a backend, one step at a time. Jobs under way have names: an
action of the client, or a call that goes to the backend past the client. Nothing goes on unless a
step asks for it.
-/

namespace GameClient

open Gateway (Call Direction)

namespace Rehearsal

/-- A job under way: the number of its call at the backend, and what it is. -/
inductive Job where
  | action (task call : Nat)
  | direct (request : Call) (call : Nat)

inductive Ending where
  | action (result : Result)
  | direct (request : Call) (answer : request.Answer)

inductive Step where
  | start (name : String) (command : Command)
  | call (name : String) (request : Call)
  | poll (name : String)
  /-- Poll each job once, in the order in which they were started. -/
  | pollAll
  | drop (name : String)
  | direct (direction : Direction)
  | pushRegistry (snapshot : RegistrySnapshot)
  | pushChat (messages : List Chat.Message)
  | subscribe (name : String) (view : View)
  | pollView (name : String)
  | hasChanged (name : String)
  | peekView (name : String)

inductive Answer where
  | pending
  | finished (ending : Ending)
  | finishedAll (endings : List (String × Ending))
  | dropped
  | done
  | applied (changed : Bool)
  /-- What a subscription gives, and the version that it saw last. -/
  | seen (shown : Option Shown) (observed : UInt64)
  | changed (changed : Bool) (observed : UInt64)
  /-- A name stands for nothing, or is in use, or there is no script to change. -/
  | unknown

end Rehearsal

/-- A client, its backend, the jobs under way in the order in which they were started, and the
subscriptions to views. -/
structure Rehearsal where
  client : Client
  backend : Rehearsal.Backend
  jobs : List (String × Rehearsal.Job) := []
  subscriptions : List (String × Rehearsal.View × Subscription) := []

namespace Rehearsal

/-- A rehearsal after a step: what the step came to, and the events that it logged. -/
structure Played where
  rehearsal : Rehearsal
  answer : Answer
  log : List Event := []

/-- A rehearsal at its start, if the configuration can be used. -/
def new (config : Config) (backend : Backend) : Except ConfigError Rehearsal :=
  match Client.new config with
  | .error error => .error error
  | .ok client => .ok { client, backend }

def job? (rehearsal : Rehearsal) (name : String) : Option Job := rehearsal.jobs.lookup name

def withoutJob (rehearsal : Rehearsal) (name : String) : List (String × Job) :=
  Keyed.erase name rehearsal.jobs

def start (rehearsal : Rehearsal) (name : String) (command : Command) : Played :=
  if (rehearsal.job? name).isSome then { rehearsal, answer := .unknown }
  else
    let number := rehearsal.backend.nextNumber
    let (client, report) := rehearsal.client.step (.start command rehearsal.backend.onArrival)
    let backend := match report.issued with
      | some call => rehearsal.backend.afterArrival call
      | none => rehearsal.backend
    let played := { rehearsal with client, backend }
    match report.outcome with
    | .completed result =>
      { rehearsal := played, answer := .finished (.action result), log := report.log }
    | .waiting task =>
      { rehearsal := { played with jobs := played.jobs ++ [(name, .action task number)] }
        answer := .pending
        log := report.log }
    | _ => { rehearsal := played, answer := .unknown, log := report.log }

/-- Sends a call to the backend past the client, under a name. -/
def call (rehearsal : Rehearsal) (name : String) (request : Call) : Played :=
  if (rehearsal.job? name).isSome then { rehearsal, answer := .unknown }
  else
    let number := rehearsal.backend.nextNumber
    let played := { rehearsal with backend := rehearsal.backend.afterArrival request }
    match rehearsal.backend.onArrival request with
    | some answer => { rehearsal := played, answer := .finished (.direct request answer) }
    | none =>
      { rehearsal := { played with jobs := played.jobs ++ [(name, .direct request number)] }
        answer := .pending }

def pollAction (rehearsal : Rehearsal) (name : String) (task number : Nat) : Played :=
  match rehearsal.client.task? task with
  | none => { rehearsal, answer := .unknown }
  | some { pending, .. } =>
    let (client, report) :=
      rehearsal.client.step (.poll task (rehearsal.backend.onPoll number))
    let played :=
      { rehearsal with client, backend := rehearsal.backend.afterPoll pending.call number }
    match report.outcome with
    | .completed result =>
      { rehearsal := { played with jobs := rehearsal.withoutJob name }
        answer := .finished (.action result)
        log := report.log }
    | _ => { rehearsal := played, answer := .pending, log := report.log }

def poll (rehearsal : Rehearsal) (name : String) : Played :=
  match rehearsal.job? name with
  | none => { rehearsal, answer := .unknown }
  | some (.action task number) => rehearsal.pollAction name task number
  | some (.direct request number) =>
    let played := { rehearsal with backend := rehearsal.backend.afterPoll request number }
    match rehearsal.backend.onPoll number request with
    | some answer =>
      { rehearsal := { played with jobs := rehearsal.withoutJob name }
        answer := .finished (.direct request answer) }
    | none => { rehearsal := played, answer := .pending }

/-- Polls jobs one after the other. -/
def pollEach (rehearsal : Rehearsal) : List String → Rehearsal × List (String × Ending) × List Event
  | [] => (rehearsal, [], [])
  | name :: names =>
    let played := rehearsal.poll name
    let (rehearsal, endings, log) := played.rehearsal.pollEach names
    match played.answer with
    | .finished ending => (rehearsal, (name, ending) :: endings, played.log ++ log)
    | _ => (rehearsal, endings, played.log ++ log)

def drop (rehearsal : Rehearsal) (name : String) : Played :=
  match rehearsal.job? name with
  | none => { rehearsal, answer := .unknown }
  | some (.action task number) =>
    { rehearsal :=
        { rehearsal with
          client := (rehearsal.client.step (.drop task)).1
          backend := rehearsal.backend.afterLeave number
          jobs := rehearsal.withoutJob name }
      answer := .dropped }
  | some (.direct _ number) =>
    { rehearsal :=
        { rehearsal with
          backend := rehearsal.backend.afterLeave number
          jobs := rehearsal.withoutJob name }
      answer := .dropped }

def push (rehearsal : Rehearsal) (step : Client.Step) : Played :=
  let (client, report) := rehearsal.client.step step
  let played := { rehearsal with client }
  match report.outcome with
  | .pushedChat changed => { rehearsal := played, answer := .applied changed, log := report.log }
  | _ => { rehearsal := played, answer := .done, log := report.log }

/-- Does something with a subscription and the cell of its view. -/
def withSubscription (rehearsal : Rehearsal) (name : String)
    (act : Subscription → Cell Shown → Subscription × Answer) : Played :=
  match rehearsal.subscriptions.lookup name with
  | none => { rehearsal, answer := .unknown }
  | some (view, subscription) =>
    let (subscription, answer) := act subscription (view.cell rehearsal.client.core)
    { rehearsal :=
        { rehearsal with
          subscriptions := Keyed.assign name (view, subscription) rehearsal.subscriptions }
      answer }

def step (rehearsal : Rehearsal) : Step → Played
  | .start name command => rehearsal.start name command
  | .call name request => rehearsal.call name request
  | .poll name => rehearsal.poll name
  | .pollAll =>
    let (rehearsal, endings, log) := rehearsal.pollEach (rehearsal.jobs.map Prod.fst)
    { rehearsal, answer := .finishedAll endings, log }
  | .drop name => rehearsal.drop name
  | .direct direction =>
    match rehearsal.backend with
    | .offline => { rehearsal, answer := .unknown }
    | .scripted script =>
      { rehearsal := { rehearsal with backend := .scripted (script.follow direction) }
        answer := .done }
  | .pushRegistry snapshot => rehearsal.push (.pushRegistry snapshot)
  | .pushChat messages => rehearsal.push (.pushChat messages)
  | .subscribe name view =>
    let subscription := (view.cell rehearsal.client.core).subscribe
    { rehearsal :=
        { rehearsal with
          subscriptions := Keyed.assign name (view, subscription) rehearsal.subscriptions }
      answer := .done }
  | .pollView name =>
    rehearsal.withSubscription name fun subscription cell =>
      let (shown, subscription) := subscription.poll cell
      (subscription, .seen shown subscription.observed)
  | .hasChanged name =>
    rehearsal.withSubscription name fun subscription cell =>
      (subscription, .changed (subscription.hasChanged cell) subscription.observed)
  | .peekView name =>
    rehearsal.withSubscription name fun subscription cell =>
      (subscription, .seen (some cell.value) subscription.observed)

end Rehearsal

end GameClient
