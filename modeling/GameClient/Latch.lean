import GameClient.Error

/-!
# Latches

A latch lets one holder in at a time. Who comes while it is held is turned away and does not wait.
-/

namespace GameClient

open Text (inspect inspectRecord)

structure Latch where
  action : Action
  held : Bool := false
  deriving DecidableEq, Repr

namespace Latch

/-- Takes the latch, or says that the action is under way. -/
def tryAcquire (latch : Latch) : Except ActionError Latch :=
  if latch.held then .error (.actionPending latch.action) else .ok { latch with held := true }

def release (latch : Latch) : Latch := { latch with held := false }

instance : Text.Inspect Latch where
  inspect latch :=
    inspectRecord "InFlightLatch" [("action", inspect latch.action), ("held", inspect latch.held)]

theorem tryAcquire_eq_ok_iff {latch latch' : Latch} :
    latch.tryAcquire = .ok latch' ↔ latch.held = false ∧ latch' = { latch with held := true } := by
  cases h : latch.held <;> simp [tryAcquire, h, @eq_comm _ latch']

theorem tryAcquire_eq_error_iff {latch : Latch} {error : ActionError} :
    latch.tryAcquire = .error error ↔ latch.held = true ∧ error = .actionPending latch.action := by
  cases h : latch.held <;> simp [tryAcquire, h, @eq_comm _ error]

end Latch

end GameClient
