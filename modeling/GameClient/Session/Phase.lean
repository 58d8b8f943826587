import GameClient.Text.Inspect

/-!
# Phases of a session

A session is idle, or it has a game of its own that waits to be finalized, or it plays. While the
backend creates or finalizes a game the session is in a phase of its own.
-/

namespace GameClient.Session

/-- Where a session stands. -/
inductive Phase where
  | idle
  | creating
  | awaitingFinalization
  | finalizing
  | active
  deriving DecidableEq, Repr

namespace Phase

def all : List Phase := [idle, creating, awaitingFinalization, finalizing, active]

/-- The user may go over to another game. -/
def canSwitch : Phase → Bool
  | idle | active => true
  | _ => false

/-- What a phase is called in a message. -/
def text : Phase → String
  | idle => "idle"
  | creating => "creating"
  | awaitingFinalization => "awaiting finalization"
  | finalizing => "finalizing"
  | active => "active"

def name : Phase → String
  | idle => "Idle"
  | creating => "Creating"
  | awaitingFinalization => "AwaitingFinalization"
  | finalizing => "Finalizing"
  | active => "Active"

def ofName? (name : String) : Option Phase := all.find? fun phase => phase.name == name

@[simp] theorem ofName?_name (phase : Phase) : ofName? phase.name = some phase := by
  cases phase <;> decide

instance : Text.Inspect Phase := ⟨name⟩

end Phase

end GameClient.Session
