/-!
# Gates

A gate lets calls through one permit at a time. A call that finds no permit waits, and permits that
are released go to the waiting calls in the order in which they came; what is left is kept. A call
that was given a permit goes on when it next asks. A call that is given up stops waiting, and passes
on the permit that it was given.
-/

namespace GameClient.Gateway

/-- A gate: the permits nobody has claimed, the calls that wait, and those that have a permit and
have not gone on yet. Calls are known by their numbers. -/
structure Gate where
  permits : Nat := 0
  waiting : List Nat := []
  granted : List Nat := []
  deriving DecidableEq, Repr

namespace Gate

/-- Releases permits: first to those who wait. -/
def release (gate : Gate) (n : Nat) : Gate :=
  { permits := gate.permits + (n - gate.waiting.length)
    waiting := gate.waiting.drop n
    granted := gate.granted ++ gate.waiting.take n }

/-- A call comes to the gate; says whether it got through. -/
def arrive (gate : Gate) (call : Nat) : Gate × Bool :=
  if gate.permits = 0 then ({ gate with waiting := gate.waiting ++ [call] }, false)
  else ({ gate with permits := gate.permits - 1 }, true)

/-- A call that came before asks again; says whether it got through. -/
def poll (gate : Gate) (call : Nat) : Gate × Bool :=
  if call ∈ gate.granted then ({ gate with granted := gate.granted.erase call }, true)
  else (gate, false)

def leave (gate : Gate) (call : Nat) : Gate :=
  if call ∈ gate.granted then { gate with granted := gate.granted.erase call }.release 1
  else { gate with waiting := gate.waiting.erase call }

end Gate

/-- Gates of some kind, and what there is to do at them. -/
class Semaphore (G : Type) where
  /-- How a gate stands. -/
  stand : G → Gate
  /-- A gate without permits. -/
  new : G
  /-- Releases permits. -/
  release : G → Nat → G
  /-- A call comes to the gate; says whether it got through. -/
  arrive : G → Nat → G × Bool
  /-- A call that came before asks again; says whether it got through. -/
  poll : G → Nat → G × Bool
  /-- A call is given up. -/
  leave : G → Nat → G

instance : Semaphore Gate where
  stand gate := gate
  new := {}
  release := Gate.release
  arrive := Gate.arrive
  poll := Gate.poll
  leave := Gate.leave

end GameClient.Gateway
