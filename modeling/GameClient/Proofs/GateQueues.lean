import GameClient.Gateway.Gate
import Mathlib.Data.List.Nodup

/-!
# Queues at gates

What there is to say about a gate is how many permits were released to it, how many calls it has let
through, and which calls stand at it: those that came and have neither gone on nor been given up, in
the order in which they came. Whether a permit was handed to a call already is of no account: a call
that asks goes on exactly if fewer calls stand before it than there are permits that no call has
used.
-/

namespace GameClient.Gateway

/-- The calls that stand at a gate, and the permits that were released to it and used. -/
structure GateQueue where
  released : Nat := 0
  passed : Nat := 0
  /-- In the order in which they came. -/
  standing : List Nat := []

namespace GateQueue

def release (queue : GateQueue) (n : Nat) : GateQueue :=
  { queue with released := queue.released + n }

def pass (queue : GateQueue) : GateQueue := { queue with passed := queue.passed + 1 }

/-- A call takes its place behind all others. -/
def join (queue : GateQueue) (call : Nat) : GateQueue :=
  { queue with standing := queue.standing ++ [call] }

def leave (queue : GateQueue) (call : Nat) : GateQueue :=
  { queue with standing := queue.standing.erase call }

def unused (queue : GateQueue) : Nat := queue.released - queue.passed

/-- The number of calls that stand before a call; before one that does not stand at the gate, all
that do. -/
def ahead (queue : GateQueue) (call : Nat) : Nat := queue.standing.idxOf call

end GateQueue

namespace Gate

/-- The permits of a gate that no call has used: those that nobody has claimed, and those that were
handed to a call which has not gone on yet. -/
def unused (gate : Gate) : Nat := gate.permits + gate.granted.length

/-- The gate is in the state that its queue says. -/
structure Agrees (gate : Gate) (queue : GateQueue) : Prop where
  line : gate.granted ++ gate.waiting = queue.standing
  nodup : queue.standing.Nodup
  /-- No call waits while a permit is left. -/
  prompt : gate.permits = 0 ∨ gate.waiting = []
  conserved : queue.passed + gate.unused = queue.released

namespace Agrees

variable {gate : Gate} {queue : GateQueue} {call : Nat}

theorem new : Agrees {} {} where
  line := rfl
  nodup := List.nodup_nil
  prompt := .inl rfl
  conserved := rfl

theorem unused_eq (agrees : gate.Agrees queue) : queue.unused = gate.unused := by
  have conserved := agrees.conserved
  unfold GateQueue.unused
  omega

theorem release (agrees : gate.Agrees queue) (n : Nat) :
    (gate.release n).Agrees (queue.release n) where
  line := by
    simp only [Gate.release, GateQueue.release, List.append_assoc, List.take_append_drop]
    exact agrees.line
  nodup := agrees.nodup
  prompt := by
    rcases agrees.prompt with noPermit | noneWaits
    · -- Permits are left only if there are more of them than calls that wait.
      by_cases enough : gate.waiting.length ≤ n
      · exact .inr (List.drop_eq_nil_of_le enough)
      · left
        simp only [Gate.release]
        omega
    · right
      simp [Gate.release, noneWaits]
  conserved := by
    have conserved := agrees.conserved
    simp only [Gate.unused, Gate.release, GateQueue.release, List.length_append,
      List.length_take] at conserved ⊢
    omega

/-- The calls that have permits stand before those that wait, and there are as many of them as
permits, unless none waits. -/
theorem mem_granted_iff (agrees : gate.Agrees queue) (stands : call ∈ queue.standing) :
    call ∈ gate.granted ↔ queue.ahead call < gate.unused := by
  have conserved := agrees.conserved
  unfold GateQueue.ahead Gate.unused
  rw [← agrees.line] at stands ⊢
  constructor
  · intro granted
    rw [List.idxOf_append_of_mem granted]
    have before := List.idxOf_lt_length_of_mem granted
    omega
  · intro before
    -- If it waited, no permit would be left, and all that were handed out stand before it.
    by_contra ungranted
    rw [List.idxOf_append_of_notMem ungranted] at before
    rcases agrees.prompt with noPermit | noneWaits
    · omega
    · rw [noneWaits, List.append_nil] at stands
      exact ungranted stands

/-- A call that comes is let through if fewer calls stand at the gate than there are permits. -/
theorem arrive_passes (agrees : gate.Agrees queue) (comes : call ∉ queue.standing) :
    (gate.arrive call).2 = true ↔ queue.ahead call < gate.unused := by
  unfold GateQueue.ahead Gate.unused Gate.arrive
  rw [List.idxOf_eq_length comes, ← agrees.line, List.length_append]
  rcases agrees.prompt with noPermit | noneWaits
  · simp [noPermit]
  · by_cases noPermit : gate.permits = 0
    · simp [noPermit]
    · simp only [noPermit, if_false, true_iff, noneWaits, List.length_nil]
      omega

theorem arrive_through (agrees : gate.Agrees queue) (through : (gate.arrive call).2 = true) :
    (gate.arrive call).1.Agrees queue.pass := by
  have conserved := agrees.conserved
  unfold Gate.arrive at through ⊢
  split at through
  · cases through
  · rename_i permit
    rw [if_neg permit]
    refine ⟨agrees.line, agrees.nodup, .inr (agrees.prompt.resolve_left permit), ?_⟩
    simp only [Gate.unused, GateQueue.pass] at conserved ⊢
    omega

theorem arrive_held (agrees : gate.Agrees queue) (comes : call ∉ queue.standing)
    (held : (gate.arrive call).2 = false) :
    (gate.arrive call).1.Agrees (queue.join call) := by
  unfold Gate.arrive at held ⊢
  split at held
  · rename_i noPermit
    rw [if_pos noPermit]
    refine ⟨?_, ?_, .inl noPermit, agrees.conserved⟩
    · rw [GateQueue.join, ← agrees.line, List.append_assoc]
    · exact List.nodup_append.mpr ⟨agrees.nodup, List.nodup_singleton call, by grind⟩
  · cases held

/-- A call that stands at the gate is let through if fewer stand before it than there are permits.
-/
theorem poll_passes (agrees : gate.Agrees queue) (stands : call ∈ queue.standing) :
    (gate.poll call).2 = true ↔ queue.ahead call < gate.unused := by
  rw [← agrees.mem_granted_iff stands]
  unfold Gate.poll
  split <;> simp [*]

theorem erase_granted (agrees : gate.Agrees queue) (granted : call ∈ gate.granted) :
    ({ gate with granted := gate.granted.erase call } : Gate).Agrees (queue.leave call).pass where
  line := by
    simp only [GateQueue.leave, GateQueue.pass, ← agrees.line]
    exact (List.erase_append_left _ granted).symm
  nodup := agrees.nodup.erase call
  prompt := agrees.prompt
  conserved := by
    have conserved := agrees.conserved
    have permit := List.length_pos_of_mem granted
    simp only [Gate.unused, GateQueue.leave, GateQueue.pass, List.length_erase_of_mem granted]
      at conserved ⊢
    omega

theorem poll_through (agrees : gate.Agrees queue) (through : (gate.poll call).2 = true) :
    (gate.poll call).1.Agrees (queue.leave call).pass := by
  unfold Gate.poll at through ⊢
  split at through
  · rename_i granted
    rw [if_pos granted]
    exact agrees.erase_granted granted
  · cases through

/-- A permit that was used and released again is as good as one that was not used. -/
theorem refund (agrees : gate.Agrees (queue.pass.release 1)) : gate.Agrees queue where
  line := agrees.line
  nodup := agrees.nodup
  prompt := agrees.prompt
  conserved := by
    have conserved := agrees.conserved
    simp only [GateQueue.release, GateQueue.pass] at conserved
    omega

/-- A call that is given up uses no permit. -/
theorem leave (agrees : gate.Agrees queue) (call : Nat) :
    (gate.leave call).Agrees (queue.leave call) := by
  unfold Gate.leave
  by_cases granted : call ∈ gate.granted
  · rw [if_pos granted]
    exact ((agrees.erase_granted granted).release 1).refund
  · rw [if_neg granted]
    refine ⟨?_, agrees.nodup.erase call, ?_, agrees.conserved⟩
    · rw [GateQueue.leave, ← agrees.line, List.erase_append_right _ granted]
    · rcases agrees.prompt with noPermit | noneWaits
      · exact .inl noPermit
      · right
        simp [noneWaits]

end Agrees

end Gate

/-! ### Fair semaphores -/

/-- The permits of a gate of some kind that no call has used. -/
def Semaphore.unused {G : Type} [Semaphore G] (gate : G) : Nat := (stand gate).unused

/-- What is relied on of gates of a kind: whoever looks at how they stand sees no permits at first;
permits that are released go to the calls that wait in the order in which they came, and the rest is
kept; a call that comes takes a permit that was kept or else waits behind all others, and goes on
later if it was given one; and a call that is given up passes on the permit that it was given. -/
class Semaphore.Fair (G : Type) [Semaphore G] : Prop where
  new : stand (Semaphore.new : G) = {}
  release : ∀ (gate : G) n, stand (Semaphore.release gate n) = (stand gate).release n
  arrive : ∀ (gate : G) call, stand (Semaphore.arrive gate call).1 = ((stand gate).arrive call).1
  arrive_through : ∀ (gate : G) call,
    (Semaphore.arrive gate call).2 = ((stand gate).arrive call).2
  poll : ∀ (gate : G) call, stand (Semaphore.poll gate call).1 = ((stand gate).poll call).1
  poll_through : ∀ (gate : G) call, (Semaphore.poll gate call).2 = ((stand gate).poll call).2
  leave : ∀ (gate : G) call, stand (Semaphore.leave gate call) = (stand gate).leave call

instance : Semaphore.Fair Gate where
  new := rfl
  release _ _ := rfl
  arrive _ _ := rfl
  arrive_through _ _ := rfl
  poll _ _ := rfl
  poll_through _ _ := rfl
  leave _ _ := rfl

end GameClient.Gateway
