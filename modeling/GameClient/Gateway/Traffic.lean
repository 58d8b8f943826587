import GameClient.Gateway.Scripted

/-!
# Traffic at a scripted backend

Whoever makes a call gets a future, known by its place among all that were made, and nothing happens
until it is polled. The first poll brings the call to the backend; if it is held there, it is polled
again until it is answered, unless it is dropped before. In between the script is changed.
-/

namespace GameClient.Gateway

open Session (Ticket)

inductive Stage where
  /-- It was not polled yet. -/
  | made (call : Call)
  /-- The call is held; the backend has recorded it in this place. -/
  | held (call : Call) (number : Nat)
  /-- The call was answered, or the future was dropped. -/
  | done

/-- A scripted backend and the futures of the calls that were made. -/
structure Traffic (G : Type := Gate) where
  script : Scripted G
  futures : List Stage := []

namespace Traffic

variable {G : Type}

inductive Step where
  | make (call : Call)
  | poll (future : Nat)
  | drop (future : Nat)
  | direct (direction : Direction)

inductive Moment where
  | made (call : Call)
  | pending (future : Nat)
  | answered (future : Nat) (call : Call) (answer : call.Answer)
  | dropped (future : Nat)
  | directed (direction : Direction)
  /-- There is no such future, or it is over. -/
  | nothing

/-- What becomes of a future whose call the script has answered, or else holds under a number. -/
def settle (traffic : Traffic G) (future : Nat) (call : Call) (number : Nat) :
    Scripted G × Option call.Answer → Traffic G × Moment
  | (script, some answer) =>
    ({ script, futures := traffic.futures.set future .done }, .answered future call answer)
  | (script, none) =>
    ({ script, futures := traffic.futures.set future (.held call number) }, .pending future)

def poll [Semaphore G] (traffic : Traffic G) (future : Nat) : Traffic G × Moment :=
  match traffic.futures[future]? with
  | some (.made call) =>
    traffic.settle future call traffic.script.calls.length (traffic.script.arrive call)
  | some (.held call number) =>
    traffic.settle future call number (traffic.script.poll call number)
  | some .done | none => (traffic, .nothing)

def drop [Semaphore G] (traffic : Traffic G) (future : Nat) : Traffic G × Moment :=
  match traffic.futures[future]? with
  | some (.made _) =>
    ({ traffic with futures := traffic.futures.set future .done }, .dropped future)
  | some (.held _ number) =>
    ({ script := traffic.script.leave number, futures := traffic.futures.set future .done },
      .dropped future)
  | some .done | none => (traffic, .nothing)

def step [Semaphore G] (traffic : Traffic G) : Step → Traffic G × Moment
  | .make call => ({ traffic with futures := traffic.futures ++ [.made call] }, .made call)
  | .poll future => traffic.poll future
  | .drop future => traffic.drop future
  | .direct direction =>
    ({ traffic with script := traffic.script.follow direction }, .directed direction)

/-- A backend that nothing has been asked of yet. -/
def start (ticket : Ticket) (schema : PurchaseSchema) : Traffic G where
  script := { ticket, schema }

/-- Takes a step, and puts what comes of it before the moments that are past. -/
def advance [Semaphore G] (current : Traffic G × List Moment) (step : Step) :
    Traffic G × List Moment :=
  let (next, moment) := current.1.step step
  (next, moment :: current.2)

/-- The traffic after steps, and the moments that are past, the latest one first. -/
def run [Semaphore G] (ticket : Ticket) (schema : PurchaseSchema) (steps : List Step) :
    Traffic G × List Moment :=
  steps.foldl advance (start ticket schema, [])

end Traffic

end GameClient.Gateway
