import GameClient.Gateway.Scripted

/-!
# Backends for rehearsals

A client is rehearsed without a backend, or against one that follows a script. Each call that comes
has a number, under which it is polled and given up.
-/

namespace GameClient.Rehearsal

open Gateway (Call Scripted)

/-- What answers the calls of a client. -/
inductive Backend where
  | offline
  | scripted (script : Scripted)

namespace Backend

/-- The number of calls so far, if they are counted. -/
def callCount? : Backend → Option Nat
  | offline => none
  | scripted script => some script.calls.length

def nextNumber (backend : Backend) : Nat := backend.callCount?.getD 0

/-- What is said to a call that comes now. -/
def onArrival : Backend → Gateway
  | offline => Gateway.offline
  | scripted script => fun call => (script.arrive call).2

def afterArrival (backend : Backend) (call : Call) : Backend :=
  match backend with
  | offline => offline
  | scripted script => scripted (script.arrive call).1

/-- What is said to the call of a number when it asks again. -/
def onPoll (backend : Backend) (number : Nat) : Gateway :=
  match backend with
  | offline => fun _ => none
  | scripted script => fun call => (script.poll call number).2

def afterPoll (backend : Backend) (call : Call) (number : Nat) : Backend :=
  match backend with
  | offline => offline
  | scripted script => scripted (script.poll call number).1

def afterLeave (backend : Backend) (number : Nat) : Backend :=
  match backend with
  | offline => offline
  | scripted script => scripted (script.leave number)

end Backend

end GameClient.Rehearsal
