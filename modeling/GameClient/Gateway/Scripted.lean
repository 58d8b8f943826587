import GameClient.Gateway
import GameClient.Gateway.Gate
import GameClient.Keyed

/-!
# A scripted backend

A backend that follows a script: it records every call, answers as it was told, and can hold calls
back at gates. A call is recorded when it comes. It is then bound to the gate of its operation, if
there is one, else to the gate for all calls, if there is one; a gate that is put up later does not
concern it. What the script says is read when the call gets through.
-/

namespace GameClient.Gateway

open Session (Ticket)
open Text (inspect inspectRecord inspectTable)

/-- A change of the script that the backend follows. -/
inductive Direction where
  | fail (operation : Operation) (failure : Failure)
  | succeed (operation : Operation)
  | holdCalls
  | release (n : Nat)
  | hold (operation : Operation)
  | releaseOperation (operation : Operation) (n : Nat)
  | setTicket (ticket : Ticket)

/-- The form that is described unless another is given: any object. -/
def anyObject : PurchaseSchema := ⟨⟨.object [("type", .string "object")], by decide⟩⟩

structure Scripted (G : Type := Gate) where
  /-- All calls, in the order in which they came; a call is known by its place. -/
  calls : List Call := []
  failures : List (Operation × Failure) := []
  ticket : Ticket := ⟨"ABC123", "XYZ"⟩
  schema : PurchaseSchema := anyObject
  /-- All gates that were put up, in order; a gate is known by its place. -/
  gates : List G := []
  /-- The gate for all calls. -/
  gate : Option Nat := none
  /-- The gates of single operations. -/
  operationGates : List (Operation × Nat) := []
  /-- The gate that each held call stands at. -/
  bound : List (Nat × Nat) := []

namespace Scripted

variable {G : Type}

def modifyGate (script : Scripted G) (number : Nat) (change : G → G) : Scripted G :=
  { script with gates := script.gates.modify number change }

/-! ### The script -/

/-- Lets later calls of an operation fail. -/
def fail (script : Scripted G) (operation : Operation) (failure : Failure) : Scripted G :=
  { script with failures := Keyed.assign operation failure script.failures }

/-- Lets later calls of an operation succeed again. -/
def succeed (script : Scripted G) (operation : Operation) : Scripted G :=
  { script with failures := Keyed.erase operation script.failures }

/-- Puts up a new gate for all calls. -/
def holdCalls [Semaphore G] (script : Scripted G) : Scripted G :=
  { script with gates := script.gates ++ [Semaphore.new], gate := some script.gates.length }

/-- Puts up a new gate for one operation. -/
def hold [Semaphore G] (script : Scripted G) (operation : Operation) : Scripted G :=
  { script with
    gates := script.gates ++ [Semaphore.new]
    operationGates := Keyed.assign operation script.gates.length script.operationGates }

def release [Semaphore G] (script : Scripted G) (n : Nat) : Scripted G :=
  match script.gate with
  | none => script
  | some number => script.modifyGate number fun gate => Semaphore.release gate n

def releaseOperation [Semaphore G] (script : Scripted G) (operation : Operation) (n : Nat) :
    Scripted G :=
  match script.operationGates.lookup operation with
  | none => script
  | some number => script.modifyGate number fun gate => Semaphore.release gate n

def count (script : Scripted G) (operation : Operation) : Nat :=
  script.calls.countP fun call => call.operation = operation

def follow [Semaphore G] (script : Scripted G) : Direction → Scripted G
  | .fail operation failure => script.fail operation failure
  | .succeed operation => script.succeed operation
  | .holdCalls => script.holdCalls
  | .release n => script.release n
  | .hold operation => script.hold operation
  | .releaseOperation operation n => script.releaseOperation operation n
  | .setTicket ticket => { script with ticket }

/-! ### Calls -/

/-- What a call that gets through now is answered. -/
def answer (script : Scripted G) (call : Call) : call.Answer :=
  match script.failures.lookup call.operation with
  | some failure => .error failure
  | none =>
    match call with
    | .makeNewGame _ => .ok script.ticket
    | .joinExistingGame .. => .ok ()
    | .finalizeGame _ => .ok ()
    | .switchToGame _ => .ok ()
    | .getPurchaseSchema => .ok script.schema
    | .makePurchaseOffer _ => .ok ()

/-- The gate that a call of an operation is bound to when it comes. -/
def gateFor? (script : Scripted G) (operation : Operation) : Option Nat :=
  (script.operationGates.lookup operation).or script.gate

def record (script : Scripted G) (call : Call) : Scripted G :=
  { script with calls := script.calls ++ [call] }

/-- A call comes: it is recorded, and answered if nothing holds it. -/
def arrive [Semaphore G] (script : Scripted G) (call : Call) : Scripted G × Option call.Answer :=
  let number := script.calls.length
  let recorded := script.record call
  match script.gateFor? call.operation with
  | none => (recorded, some (script.answer call))
  | some gate =>
    match script.gates[gate]? with
    | none => (recorded, some (script.answer call))
    | some state =>
      let (state, through) := Semaphore.arrive state number
      let passed := recorded.modifyGate gate fun _ => state
      -- A call that is let through at once is bound to no gate.
      if through then (passed, some (script.answer call))
      else ({ passed with bound := (number, gate) :: passed.bound }, none)

/-- A held call asks again. -/
def poll [Semaphore G] (script : Scripted G) (call : Call) (number : Nat) :
    Scripted G × Option call.Answer :=
  match script.bound.lookup number with
  | none => (script, none)
  | some gate =>
    match script.gates[gate]? with
    | none => (script, none)
    | some state =>
      let (state, through) := Semaphore.poll state number
      let passed := script.modifyGate gate fun _ => state
      if through then
        ({ passed with bound := Keyed.erase number passed.bound }, some (script.answer call))
      else (script, none)

def leave [Semaphore G] (script : Scripted G) (number : Nat) : Scripted G :=
  match script.bound.lookup number with
  | none => script
  | some gate =>
    let left := script.modifyGate gate fun state => Semaphore.leave state number
    { left with bound := Keyed.erase number left.bound }

instance : Text.Inspect (Scripted G) where
  inspect script :=
    inspectRecord "ScriptedGateway"
      [("calls", inspect script.calls.length),
       ("failures", inspectTable (script.failures.map fun (operation, failure) =>
          (inspect operation, inspect failure))),
       ("held", inspect script.gate.isSome),
       ("held_operations", inspect script.operationGates.length)]

end Scripted

end GameClient.Gateway
