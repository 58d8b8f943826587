import GameClient.Proofs.CallHistory

/-!
# Held calls

The state of a scripted backend is told by the history of the calls that came to it: what the script
says, which calls are on record, and how each gate stands. This is so at every moment of a call,
which comes and is answered or held, asks again, and is answered or given up. What becomes of a call
that is polled is told by the history as well.
-/

namespace GameClient.Gateway

open Session (Ticket)
open Semaphore (stand)

variable {G : Type}

namespace Scripted

variable [Semaphore G] {script : Scripted G} {call : Call} {place number : Nat} {gate : G}

theorem arrive_ungated (ungated : script.gateFor? call.operation = none) :
    script.arrive call = (script.record call, some (script.answer call)) := by
  simp only [arrive, ungated]

theorem arrive_gated (gated : script.gateFor? call.operation = some number)
    (up : script.gates[number]? = some gate) :
    script.arrive call =
      let passed := (script.record call).modifyGate number fun _ =>
        (Semaphore.arrive gate script.calls.length).1
      if (Semaphore.arrive gate script.calls.length).2 then (passed, some (script.answer call))
      else ({ passed with bound := (script.calls.length, number) :: script.bound }, none) := by
  simp only [arrive, gated, up]
  rfl

theorem poll_gated (bound : script.bound.lookup place = some number)
    (up : script.gates[number]? = some gate) :
    script.poll call place =
      if (Semaphore.poll gate place).2 then
        ({ script.modifyGate number fun _ => (Semaphore.poll gate place).1 with
            bound := Keyed.erase place script.bound }, some (script.answer call))
      else (script, none) := by
  simp only [poll, bound, up]
  rfl

theorem leave_gated (bound : script.bound.lookup place = some number) :
    script.leave place =
      { script.modifyGate number fun gate => Semaphore.leave gate place with
          bound := Keyed.erase place script.bound } := by
  simp only [leave, bound]
  rfl

end Scripted

namespace Traffic

/-! ### The script -/

variable {ticket : Ticket} {schema : PurchaseSchema} {script : Scripted G} {traffic : Traffic G}
  {moment : Moment} {past : List Moment} {future other number : Nat} {call : Call}

/-- The moment leaves what the script says as it is: it is no direction, or one that only releases
permits. -/
def Moment.Spares : Moment → Prop
  | directed (.release _) => True
  | directed (.releaseOperation ..) => True
  | directed _ => False
  | _ => True

/-- The script says what it was directed to say. -/
structure Follows (ticket : Ticket) (schema : PurchaseSchema) (script : Scripted G)
    (past : List Moment) : Prop where
  length : script.gates.length = raised past
  gate : script.gate = latest none past
  operationGates : ∀ operation,
    script.operationGates.lookup operation = latest (some operation) past
  failures : ∀ operation, script.failures.lookup operation = failing operation past
  ticket : script.ticket = ticketNow ticket past
  schema : script.schema = schema

namespace Follows

theorem spared (follows : Follows ticket schema script past) (spares : moment.Spares)
    {calls : List Call} {bound : List (Nat × Nat)} {gates : List G}
    (length : gates.length = script.gates.length) :
    Follows ticket schema { script with calls, gates, bound } (moment :: past) := by
  have length' := length.trans follows.length
  cases moment with
  | directed direction =>
      cases direction with
      | release n => exact { follows with length := length' }
      | releaseOperation operation n => exact { follows with length := length' }
      | _ => cases spares
  | _ => exact { follows with length := length' }

theorem answer_eq (follows : Follows ticket schema script past) (call : Call) :
    script.answer call = answerNow ticket schema past call := by
  unfold Scripted.answer answerNow
  rw [follows.failures]
  cases failing call.operation past with
  | some failure => rfl
  | none =>
      cases call with
      | makeNewGame _ => exact congrArg _ follows.ticket
      | getPurchaseSchema => exact congrArg _ follows.schema
      | _ => rfl

theorem gateFor?_eq (follows : Follows ticket schema script past) (operation : Operation) :
    script.gateFor? operation = present operation past := by
  rw [Scripted.gateFor?, follows.operationGates, follows.gate, present]

end Follows

variable [Semaphore G]

theorem Follows.follow (follows : Follows ticket schema script past) (direction : Direction) :
    Follows ticket schema (script.follow direction) (.directed direction :: past) := by
  cases direction with
  | fail operation failure =>
      refine { follows with failures := fun other => ?_ }
      simp only [Scripted.follow, Scripted.fail, Keyed.lookup_assign, follows.failures, failing]
  | succeed operation =>
      refine { follows with failures := fun other => ?_ }
      simp only [Scripted.follow, Scripted.succeed, Keyed.lookup_erase, follows.failures, failing]
  | holdCalls =>
      refine { follows with length := ?_, gate := ?_, operationGates := fun other => ?_ }
      · simp [Scripted.follow, Scripted.holdCalls, raised, Moment.raises?, follows.length]
      · simp [Scripted.follow, Scripted.holdCalls, latest, Moment.raises?, follows.length]
      · simp [Scripted.follow, Scripted.holdCalls, latest, Moment.raises?, follows.operationGates]
  | hold operation =>
      refine { follows with length := ?_, gate := ?_, operationGates := fun other => ?_ }
      · simp [Scripted.follow, Scripted.hold, raised, Moment.raises?, follows.length]
      · simp [Scripted.follow, Scripted.hold, latest, Moment.raises?, follows.gate]
      · simp [Scripted.follow, Scripted.hold, latest, Moment.raises?, Keyed.lookup_assign,
          follows.length, follows.operationGates, eq_comm]
  | release n =>
      -- Permits change a gate in its place, and no gate is put up.
      simp only [Scripted.follow, Scripted.release]
      split
      · exact follows.spared (by trivial) rfl
      · exact follows.spared (by trivial) (List.length_modify ..)
  | releaseOperation operation n =>
      simp only [Scripted.follow, Scripted.releaseOperation]
      split
      · exact follows.spared (by trivial) rfl
      · exact follows.spared (by trivial) (List.length_modify ..)
  | setTicket ticket => exact { follows with ticket := rfl }

/-! ### Calls at gates -/

/-- The gates of a list are in the state that the history says. -/
def GatesAgree (gates : List G) (past : List Moment) : Prop :=
  ∀ (number : Nat) (gate : G), gates[number]? = some gate →
    (stand gate).Agrees (queueAt number past)

namespace GatesAgree

variable {gates : List G}

theorem cons (agree : GatesAgree gates past)
    (kept : ∀ number, queueAt number (moment :: past) = queueAt number past) :
    GatesAgree gates (moment :: past) := by
  intro number gate found
  rw [kept]
  exact agree number gate found

/-- One gate changes, and so does its queue and no other. -/
theorem modify {change : G → G} (agree : GatesAgree gates past)
    (others : ∀ other, other ≠ number → queueAt other (moment :: past) = queueAt other past)
    (changes : ∀ gate, gates[number]? = some gate →
      (stand (change gate)).Agrees (queueAt number (moment :: past))) :
    GatesAgree (gates.modify number change) (moment :: past) := by
  intro other gate found
  rw [List.getElem?_modify] at found
  obtain ⟨old, up, rfl⟩ := Option.map_eq_some_iff.mp found
  by_cases same : number = other
  · subst same
    rw [if_pos rfl]
    exact changes old up
  · rw [if_neg same, others other (Ne.symm same)]
    exact agree other old up

/-- A new gate is put up beside the others. -/
theorem concat [Semaphore.Fair G] (agree : GatesAgree gates past)
    (length : gates.length = raised past)
    (kept : ∀ number, queueAt number (moment :: past) = queueAt number past) :
    GatesAgree (gates ++ [Semaphore.new]) (moment :: past) := by
  intro number gate found
  rw [kept]
  rw [List.getElem?_append] at found
  split at found
  · exact agree number gate found
  · -- Nothing was told of the new gate yet, so that its queue is empty.
    rename_i new
    obtain rfl := List.mem_singleton.mp (List.mem_of_getElem? found)
    rw [queueAt_of_raised_le (by omega), Semaphore.Fair.new]
    exact Gate.Agrees.new

theorem release [Semaphore.Fair G] (agree : GatesAgree gates past) (direction : Direction) {n : Nat}
    (permits : ∀ other, permitsFor other past (.directed direction) =
      if some number = some other then n else 0) :
    GatesAgree (gates.modify number fun gate => Semaphore.release gate n)
      (.directed direction :: past) := by
  refine agree.modify (fun other apart => ?_) fun gate up => ?_
  · rw [queueAt_directed, permits, if_neg fun same => apart (Option.some.inj same).symm]
    rfl
  · rw [queueAt_directed, permits, if_pos rfl, Semaphore.Fair.release]
    exact (agree number gate up).release n

theorem follow [Semaphore.Fair G] (agree : GatesAgree script.gates past)
    (follows : Follows ticket schema script past) (direction : Direction) :
    GatesAgree (script.follow direction).gates (.directed direction :: past) := by
  cases direction with
  | fail operation failure => exact agree.cons fun _ => queueAt_directed _
  | succeed operation => exact agree.cons fun _ => queueAt_directed _
  | setTicket ticket => exact agree.cons fun _ => queueAt_directed _
  | holdCalls => exact agree.concat follows.length fun _ => queueAt_directed _
  | hold operation => exact agree.concat follows.length fun _ => queueAt_directed _
  | release n =>
      simp only [Scripted.follow, Scripted.release]
      cases up : script.gate with
      | none =>
          refine agree.cons fun number => ?_
          rw [queueAt_directed, permitsFor, ← follows.gate, up]
          rfl
      | some number =>
          refine agree.release _ fun other => ?_
          rw [permitsFor, ← follows.gate, up]
  | releaseOperation operation n =>
      simp only [Scripted.follow, Scripted.releaseOperation]
      cases up : script.operationGates.lookup operation with
      | none =>
          refine agree.cons fun number => ?_
          rw [queueAt_directed, permitsFor, ← follows.operationGates, up]
          rfl
      | some number =>
          refine agree.release _ fun other => ?_
          rw [permitsFor, ← follows.operationGates, up]

end GatesAgree

/-- The backend is in the state that the history says. -/
structure Serves (ticket : Ticket) (schema : PurchaseSchema) (script : Scripted G)
    (past : List Moment) : Prop where
  follows : Follows ticket schema script past
  calls : script.calls.map some = (came past).map fun future => (made past)[future]?
  gates : GatesAgree script.gates past
  bound : ∀ future ∈ came past, ¬ Over past future → ∃ gate,
    boundTo future past = some gate ∧ script.bound.lookup (place past future) = some gate

/-- What is told of a call that was polled. -/
def said (future : Nat) (call : Call) : Option call.Answer → Moment
  | some answer => .answered future call answer
  | none => .pending future

namespace Serves

theorem length_calls (serves : Serves ticket schema script past) :
    script.calls.length = (came past).length := by
  simpa using congrArg List.length serves.calls

theorem exists_gate (serves : Serves ticket schema script past) (up : number < raised past) :
    ∃ gate, script.gates[number]? = some gate ∧ (stand gate).Agrees (queueAt number past) := by
  rw [← serves.follows.length] at up
  have found := List.getElem?_eq_getElem up
  exact ⟨_, found, serves.gates _ _ found⟩

/-- A call that stands at a gate goes on to do so while nothing is told of it. -/
theorem bound_cons (serves : Serves ticket schema script past) {bound : List (Nat × Nat)}
    (mem : other ∈ came past) (alive : ¬ Over (moment :: past) other)
    (kept : bound.lookup (place past other) = script.bound.lookup (place past other)) :
    ∃ gate, boundTo other (moment :: past) = some gate ∧
      bound.lookup (place (moment :: past) other) = some gate := by
  rw [boundTo_of_mem mem, place_cons mem, kept]
  exact serves.bound other mem fun before => alive (over_cons_iff.mpr (.inr before))

theorem direct [Semaphore.Fair G] (serves : Serves ticket schema script past)
    (direction : Direction) :
    Serves ticket schema (script.follow direction) (.directed direction :: past) := by
  have kept : (script.follow direction).calls = script.calls ∧
      (script.follow direction).bound = script.bound := by
    cases direction with
    | release n =>
        simp only [Scripted.follow, Scripted.release]
        split <;> exact ⟨rfl, rfl⟩
    | releaseOperation operation n =>
        simp only [Scripted.follow, Scripted.releaseOperation]
        split <;> exact ⟨rfl, rfl⟩
    | _ => exact ⟨rfl, rfl⟩
  refine ⟨serves.follows.follow direction, ?_, serves.gates.follow serves.follows direction, ?_⟩
  · rw [kept.1]
    exact serves.calls
  · intro other mem alive
    rw [kept.2]
    exact serves.bound_cons mem alive rfl

/-- Nothing is told of a call. -/
theorem silent (serves : Serves ticket schema script past)
    (silent : moment = .nothing ∨ ∃ call, moment = .made call)
    (kept : ∀ future ∈ came past, (made (moment :: past))[future]? = (made past)[future]?) :
    Serves ticket schema script (moment :: past) := by
  have same : came (moment :: past) = came past := by
    obtain rfl | ⟨call, rfl⟩ := silent <;> rfl
  have spares : moment.Spares := by
    obtain rfl | ⟨call, rfl⟩ := silent <;> trivial
  refine ⟨serves.follows.spared spares rfl, ?_,
    serves.gates.cons fun _ => queueAt_of_silent silent, ?_⟩
  · rw [same, List.map_congr_left kept]
    exact serves.calls
  · intro other mem alive
    rw [same] at mem
    exact serves.bound_cons mem alive rfl

/-- A call that is polled first is recorded behind all others. -/
theorem calls_concat (serves : Serves ticket schema script past)
    (polls : moment.polls? = some future) (found : (made past)[future]? = some call)
    (comes : future ∉ came past) (kept : made (moment :: past) = made past) :
    (script.calls ++ [call]).map some =
      (came (moment :: past)).map fun future => (made (moment :: past))[future]? := by
  rw [came_of_notMem polls comes, kept, List.map_append, List.map_append, serves.calls]
  simp [found]

/-- A call that is answered when it comes stands nowhere. -/
theorem bound_answered (serves : Serves ticket schema script past) (comes : future ∉ came past)
    (answer : call.Answer) :
    ∀ other ∈ came (.answered future call answer :: past),
      ¬ Over (.answered future call answer :: past) other → ∃ gate,
        boundTo other (.answered future call answer :: past) = some gate ∧
          script.bound.lookup (place (.answered future call answer :: past) other) =
            some gate := by
  intro other mem alive
  rw [came_of_notMem rfl comes] at mem
  rcases List.mem_append.mp mem with old | new
  · exact serves.bound_cons old alive rfl
  · obtain rfl := List.mem_singleton.mp new
    exact absurd (over_cons_iff.mpr (.inl rfl)) alive

/-- A call that comes and has no gate to pass is answered. -/
theorem arrive_ungated (serves : Serves ticket schema script past)
    (found : (made past)[future]? = some call) (comes : future ∉ came past)
    (free : gateOf future past = none) :
    Serves ticket schema (script.record call)
      (.answered future call (script.answer call) :: past) := by
  refine ⟨serves.follows.spared (by trivial) rfl, serves.calls_concat rfl found comes rfl, ?_,
    serves.bound_answered comes _⟩
  refine serves.gates.cons fun number => ?_
  rw [queueAt_answered, free]
  rfl

/-- A call that comes to a gate is let through. -/
theorem arrive_through [Semaphore.Fair G] (serves : Serves ticket schema script past)
    (found : (made past)[future]? = some call) (comes : future ∉ came past)
    (gated : gateOf future past = some number) {gate : G} (up : script.gates[number]? = some gate)
    (through : (Semaphore.arrive gate (place past future)).2 = true) :
    Serves ticket schema
      ((script.record call).modifyGate number fun _ =>
        (Semaphore.arrive gate (place past future)).1)
      (.answered future call (script.answer call) :: past) := by
  have agrees := serves.gates number gate up
  have absent : future ∉ standing number past := mt came_of_standing comes
  refine ⟨serves.follows.spared (by trivial) (List.length_modify ..),
    serves.calls_concat rfl found comes rfl, ?_, serves.bound_answered comes _⟩
  refine serves.gates.modify (fun other apart => ?_) fun _ _ => ?_
  · rw [queueAt_answered, gated, if_neg fun same => apart (Option.some.inj same).symm]
  · rw [queueAt_answered, gated, if_pos rfl, leave_queueAt absent, Semaphore.Fair.arrive]
    exact agrees.arrive_through (by rwa [← Semaphore.Fair.arrive_through])

/-- A call that comes to a gate is held there. -/
theorem arrive_held [Semaphore.Fair G] (serves : Serves ticket schema script past)
    (found : (made past)[future]? = some call) (comes : future ∉ came past)
    (fresh : ¬ Over past future) (gated : gateOf future past = some number) {gate : G}
    (up : script.gates[number]? = some gate)
    (held : (Semaphore.arrive gate (place past future)).2 = false) :
    Serves ticket schema
      { (script.record call).modifyGate number fun _ =>
            (Semaphore.arrive gate (place past future)).1 with
          bound := (place past future, number) :: script.bound }
      (.pending future :: past) := by
  have agrees := serves.gates number gate up
  have absent : place past future ∉ (queueAt number past).standing :=
    fun stands => comes (came_of_standing (place_mem_queueAt_iff.mp stands))
  have now : gateNow future past = some number := by rwa [gateOf, if_neg comes] at gated
  refine ⟨serves.follows.spared (by trivial) (List.length_modify ..),
    serves.calls_concat rfl found comes rfl, ?_, ?_⟩
  · refine serves.gates.modify (fun other apart => ?_) fun _ _ => ?_
    · rw [queueAt_joins comes fresh, now, if_neg fun same => apart (Option.some.inj same).symm]
    · rw [queueAt_joins comes fresh, now, if_pos rfl, Semaphore.Fair.arrive]
      exact agrees.arrive_held absent (by rwa [← Semaphore.Fair.arrive_through])
  · intro other mem alive
    rw [came_of_notMem rfl comes] at mem
    rcases List.mem_append.mp mem with old | new
    · -- The number of the new call hides no other in the table.
      apply serves.bound_cons old alive
      have apart : place past other ≠ place past future := by
        intro same
        rw [(place_inj old).mp same] at old
        exact comes old
      rw [List.lookup_cons, beq_false_of_ne apart]
    · obtain rfl := List.mem_singleton.mp new
      refine ⟨number, (boundTo_of_polls rfl).trans gated, ?_⟩
      rw [place_of_polls rfl, List.lookup_cons_self]

/-- A call that stands at a gate leaves it, whether it is let through or given up. -/
theorem bound_erase (serves : Serves ticket schema script past)
    (ends : moment.ends? = some future) (kept : came (moment :: past) = came past) :
    ∀ other ∈ came (moment :: past), ¬ Over (moment :: past) other → ∃ gate,
      boundTo other (moment :: past) = some gate ∧
        (Keyed.erase (place past future) script.bound).lookup (place (moment :: past) other) =
          some gate := by
  intro other old alive
  rw [kept] at old
  apply serves.bound_cons old alive
  rw [Keyed.lookup_erase, if_neg]
  intro same
  rw [(place_inj old).mp same] at alive
  exact alive (over_cons_iff.mpr (.inl ends))

/-- A call that stands at a gate is let through. -/
theorem poll_through [Semaphore.Fair G] (serves : Serves ticket schema script past)
    (mem : future ∈ came past) (gated : boundTo future past = some number) {gate : G}
    (up : script.gates[number]? = some gate)
    (through : (Semaphore.poll gate (place past future)).2 = true) :
    Serves ticket schema
      { script.modifyGate number fun _ => (Semaphore.poll gate (place past future)).1 with
          bound := Keyed.erase (place past future) script.bound }
      (.answered future call (script.answer call) :: past) := by
  have agrees := serves.gates number gate up
  have kept : came (.answered future call (script.answer call) :: past) = came past :=
    came_of_mem rfl mem
  have here : gateOf future past = some number := by rwa [gateOf, if_pos mem]
  refine ⟨serves.follows.spared (by trivial) (List.length_modify ..), ?_, ?_,
    serves.bound_erase rfl kept⟩
  · rw [kept]
    exact serves.calls
  · refine serves.gates.modify (fun other apart => ?_) fun _ _ => ?_
    · rw [queueAt_answered, here, if_neg fun same => apart (Option.some.inj same).symm]
    · rw [queueAt_answered, here, if_pos rfl, Semaphore.Fair.poll]
      exact agrees.poll_through (by rwa [← Semaphore.Fair.poll_through])

/-- A call that stands at a gate goes on to be held there. -/
theorem poll_held (serves : Serves ticket schema script past) (mem : future ∈ came past) :
    Serves ticket schema script (.pending future :: past) := by
  have kept : came (.pending future :: past) = came past := came_of_mem rfl mem
  refine ⟨serves.follows.spared (by trivial) rfl, ?_,
    serves.gates.cons fun _ => queueAt_pending mem, ?_⟩
  · rw [kept]
    exact serves.calls
  · intro other old alive
    rw [kept] at old
    exact serves.bound_cons old alive rfl

/-- A call that was not polled is dropped. -/
theorem dropped (serves : Serves ticket schema script past) (comes : future ∉ came past) :
    Serves ticket schema script (.dropped future :: past) := by
  refine ⟨serves.follows.spared (by trivial) rfl, serves.calls,
    serves.gates.cons fun number => ?_, fun other mem alive => serves.bound_cons mem alive rfl⟩
  rw [queueAt_dropped, leave_queueAt (mt came_of_standing comes)]

/-- A call that stands at a gate is given up. -/
theorem leave [Semaphore.Fair G] (serves : Serves ticket schema script past)
    (mem : future ∈ came past) (alive : ¬ Over past future) :
    Serves ticket schema (script.leave (place past future)) (.dropped future :: past) := by
  obtain ⟨number, gated, bound⟩ := serves.bound future mem alive
  rw [Scripted.leave_gated bound]
  refine ⟨serves.follows.spared (by trivial) (List.length_modify ..), serves.calls, ?_,
    serves.bound_erase rfl rfl⟩
  refine serves.gates.modify (fun other apart => ?_) fun gate up => ?_
  · have absent : future ∉ standing other past := by
      intro stands
      rw [(mem_standing_iff.mp stands).2.1] at gated
      exact apart (Option.some.inj gated)
    rw [queueAt_dropped, leave_queueAt absent]
  · rw [queueAt_dropped, Semaphore.Fair.leave]
    exact (serves.gates number gate up).leave _

end Serves

/-! ### The answer to a poll -/

theorem passes_of_ungated (free : gateOf future past = none) : Passes future past := by
  intro gate gated
  rw [free] at gated
  cases gated

theorem passes_iff {gate : G} (gated : gateOf future past = some number)
    (agrees : (stand gate).Agrees (queueAt number past)) :
    Passes future past ↔ (queueAt number past).ahead (place past future) < (stand gate).unused := by
  rw [← agrees.unused_eq, ahead_queueAt]
  constructor
  · exact fun passes => passes number gated
  · intro before other gated'
    obtain rfl := Option.some.inj (gated.symm.trans gated')
    exact before

/-- The backend deals with a call that is polled as the history says. -/
structure Settles (ticket : Ticket) (schema : PurchaseSchema) (past : List Moment) (future : Nat)
    (call : Call) (settled : Scripted G × Option call.Answer) : Prop where
  serves : Serves ticket schema settled.1 (said future call settled.2 :: past)
  through : Passes future past → settled.2 = some (answerNow ticket schema past call)
  held : ¬ Passes future past → settled.2 = none

namespace Settles

theorem of_through (follows : Follows ticket schema script past) {next : Scripted G}
    (serves : Serves ticket schema next (.answered future call (script.answer call) :: past))
    (passes : Passes future past) :
    Settles ticket schema past future call (next, some (script.answer call)) where
  serves := serves
  through _ := congrArg some (follows.answer_eq call)
  held stays := absurd passes stays

theorem of_held {next : Scripted G} (serves : Serves ticket schema next (.pending future :: past))
    (stays : ¬ Passes future past) : Settles ticket schema past future call (next, none) where
  serves := serves
  through passes := absurd passes stays
  held _ := rfl

end Settles

namespace Serves

theorem settles_arrive [Semaphore.Fair G] (serves : Serves ticket schema script past)
    (found : (made past)[future]? = some call) (comes : future ∉ came past)
    (alive : ¬ Over past future) :
    Settles ticket schema past future call (script.arrive call) := by
  have last : script.calls.length = place past future := by
    rw [serves.length_calls, place_of_notMem comes]
  have toPass : gateOf future past = script.gateFor? call.operation := by
    rw [gateOf, if_neg comes, gateNow, found, serves.follows.gateFor?_eq]
    rfl
  cases gated : script.gateFor? call.operation with
  | none =>
      have free := toPass.trans gated
      rw [Scripted.arrive_ungated gated]
      exact .of_through serves.follows (serves.arrive_ungated found comes free)
        (passes_of_ungated free)
  | some number =>
      have here := toPass.trans gated
      obtain ⟨gate, up, agrees⟩ := serves.exists_gate
        (gateNow_lt (by rwa [gateOf, if_neg comes] at here))
      -- It is new at its gate, which then asks what `Passes` asks: whether there are permits for
      -- all that stand before it and one for itself.
      have absent : place past future ∉ (queueAt number past).standing :=
        fun stands => comes (came_of_standing (place_mem_queueAt_iff.mp stands))
      have through_iff := (agrees.arrive_passes absent).trans (passes_iff here agrees).symm
      rw [← Semaphore.Fair.arrive_through] at through_iff
      rw [Scripted.arrive_gated gated up, last]
      cases through : (Semaphore.arrive gate (place past future)).2 with
      | true =>
          exact .of_through serves.follows (serves.arrive_through found comes here up through)
            (through_iff.mp through)
      | false =>
          exact .of_held (serves.arrive_held found comes alive here up through)
            (mt through_iff.mpr (Bool.eq_false_iff.mp through))

theorem settles_poll [Semaphore.Fair G] (serves : Serves ticket schema script past)
    (mem : future ∈ came past) (alive : ¬ Over past future) (call : Call) :
    Settles ticket schema past future call (script.poll call (place past future)) := by
  obtain ⟨number, gated, bound⟩ := serves.bound future mem alive
  obtain ⟨gate, up, agrees⟩ := serves.exists_gate (boundTo_lt gated)
  have here : gateOf future past = some number := by rwa [gateOf, if_pos mem]
  have stands : place past future ∈ (queueAt number past).standing :=
    place_mem_queueAt_iff.mpr (mem_standing_iff.mpr ⟨mem, gated, alive⟩)
  have through_iff := (agrees.poll_passes stands).trans (passes_iff here agrees).symm
  rw [← Semaphore.Fair.poll_through] at through_iff
  rw [Scripted.poll_gated bound up]
  cases through : (Semaphore.poll gate (place past future)).2 with
  | true =>
      exact .of_through serves.follows (serves.poll_through mem gated up through)
        (through_iff.mp through)
  | false =>
      exact .of_held (serves.poll_held mem) (mt through_iff.mpr (Bool.eq_false_iff.mp through))

end Serves

end Traffic

end GameClient.Gateway
